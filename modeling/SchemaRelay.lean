import SchemaRelay.Association
import SchemaRelay.Cache.Database
import SchemaRelay.Cache.Impaired
import SchemaRelay.Cache.Memory
import SchemaRelay.Cache.Migration
import SchemaRelay.Cache.Open
import SchemaRelay.Cache.Shared
import SchemaRelay.Cache.Store
import SchemaRelay.Cache.Table
import SchemaRelay.Choice
import SchemaRelay.Config.Basic
import SchemaRelay.Config.EnvText
import SchemaRelay.Config.Environment
import SchemaRelay.Config.Load
import SchemaRelay.Config.Search
import SchemaRelay.Config.Validation
import SchemaRelay.Config.Value
import SchemaRelay.Digest
import SchemaRelay.Error
import SchemaRelay.Fetch.Content
import SchemaRelay.Fetch.Outcome
import SchemaRelay.Fetch.World
import SchemaRelay.Fields
import SchemaRelay.FileFault
import SchemaRelay.FilePath
import SchemaRelay.Files
import SchemaRelay.Http.Client
import SchemaRelay.Http.Connector
import SchemaRelay.Http.Header
import SchemaRelay.Http.Status
import SchemaRelay.Http.Transport
import SchemaRelay.Http.Wire
import SchemaRelay.Json.Basic
import SchemaRelay.Json.Decode
import SchemaRelay.Json.Reader
import SchemaRelay.Json.Writer
import SchemaRelay.Main
import SchemaRelay.Manifest
import SchemaRelay.Number.Double
import SchemaRelay.Number.Layout
import SchemaRelay.Number.Shortest
import SchemaRelay.Number.Word
import SchemaRelay.Proofs.Association.Contributions
import SchemaRelay.Proofs.Association.Directories
import SchemaRelay.Proofs.Association.FilePatterns
import SchemaRelay.Proofs.Association.RelativeSchemas
import SchemaRelay.Proofs.Cache.Changes
import SchemaRelay.Proofs.Cache.Handles
import SchemaRelay.Proofs.Cache.Integrity
import SchemaRelay.Proofs.Cache.Migration
import SchemaRelay.Proofs.Cache.Refinement
import SchemaRelay.Proofs.Cache.Reopening
import SchemaRelay.Proofs.Cache.Rows
import SchemaRelay.Proofs.Cache.Writes
import SchemaRelay.Proofs.Choice
import SchemaRelay.Proofs.Config.Clients
import SchemaRelay.Proofs.Config.DirectoryLists
import SchemaRelay.Proofs.Config.Layers
import SchemaRelay.Proofs.Config.Shadowing
import SchemaRelay.Proofs.Fetch.Availability
import SchemaRelay.Proofs.Fetch.Diagnosis
import SchemaRelay.Proofs.Fetch.History
import SchemaRelay.Proofs.Fetch.Independence
import SchemaRelay.Proofs.Fetch.Repair
import SchemaRelay.Proofs.Fetch.Replay
import SchemaRelay.Proofs.Fetch.Run
import SchemaRelay.Proofs.Fetch.Sharing
import SchemaRelay.Proofs.Fetch.Transcript
import SchemaRelay.Proofs.Fetch.Tree
import SchemaRelay.Proofs.Fetch.Visit
import SchemaRelay.Proofs.Fields
import SchemaRelay.Proofs.Files
import SchemaRelay.Proofs.Http.Header
import SchemaRelay.Proofs.Http.Reuse
import SchemaRelay.Proofs.Json.Documents
import SchemaRelay.Proofs.Json.Strings
import SchemaRelay.Proofs.Results
import SchemaRelay.Proofs.Service.Offline
import SchemaRelay.Proofs.Settings
import SchemaRelay.Proofs.Text.Blank
import SchemaRelay.Proofs.Text.Split
import SchemaRelay.Proofs.Text.Utf8
import SchemaRelay.Proofs.Tool.Content
import SchemaRelay.Proofs.Tool.Reading
import SchemaRelay.Proofs.Url.Encode
import SchemaRelay.Proofs.Url.File
import SchemaRelay.Proofs.Url.Host
import SchemaRelay.Rpc.Message
import SchemaRelay.Rpc.Reply
import SchemaRelay.Schema
import SchemaRelay.Service.Basic
import SchemaRelay.Service.Catalogue
import SchemaRelay.Service.Session
import SchemaRelay.Settings
import SchemaRelay.Text.Blank
import SchemaRelay.Text.CaseTable
import SchemaRelay.Text.Composition
import SchemaRelay.Text.CompositionTable
import SchemaRelay.Text.Digits
import SchemaRelay.Text.Lowercase
import SchemaRelay.Text.Printable
import SchemaRelay.Text.Quoted
import SchemaRelay.Text.Ranges
import SchemaRelay.Text.Split
import SchemaRelay.Text.Utf8
import SchemaRelay.Text.WordChar
import SchemaRelay.Toml.Basic
import SchemaRelay.Toml.Document
import SchemaRelay.Toml.Reader
import SchemaRelay.Toml.Scalar
import SchemaRelay.Tool.Associations
import SchemaRelay.Tool.CacheGet
import SchemaRelay.Tool.Content
import SchemaRelay.Tool.Reading
import SchemaRelay.Tool.Selection
import SchemaRelay.Url.Basic
import SchemaRelay.Url.Encode
import SchemaRelay.Url.File
import SchemaRelay.Url.Host
import SchemaRelay.Url.Idna
import SchemaRelay.Url.Idna.Mapping
import SchemaRelay.Url.Join
import SchemaRelay.Url.Parser
import SchemaRelay.Url.Path
import SchemaRelay.Url.Punycode
