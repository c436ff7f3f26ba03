import SchemaRelay.Json.Decode

/-!
# Configuration

The settings of the service and the part of them that requests need. Every setting has a default; `Config.ofJson` reads
a configuration whose fields may be absent.
-/

namespace SchemaRelay

/-- The settings of the service. -/
structure Config where
  /-- Where the cache's database is kept. -/
  dbPath : String := "./yaml-schema-cache.sqlite"
  /-- How requests name their sender. -/
  userAgent : String := "yaml-schema-bridge/0.1"
  /-- How long a request may take, in milliseconds. -/
  timeoutMs : Nat := 20000
  /-- How many redirects a request may follow. -/
  maxRedirects : Nat := 5
  /-- The proxy that requests go through. -/
  httpProxy : Option String := none
  /-- Certificates that do not hold are refused. -/
  httpProxyStrictSsl : Bool := true
  /-- What stands in front of the status line. -/
  statusText : String := "yaml"
  /-- The directories of installed extensions. -/
  extensionDirs : List String := []
  deriving DecidableEq, Repr

/-- Proxy and certificate settings, which go with each request. -/
structure HttpSettings where
  proxy : Option String := none
  proxyStrictSsl : Bool := true
  deriving DecidableEq, Repr

/-- The settings of requests. -/
structure FetchConfig where
  userAgent : String := "yaml-schema-bridge/0.1"
  timeoutMs : Nat := 20000
  maxRedirects : Nat := 5
  http : HttpSettings := {}
  deriving DecidableEq, Repr

namespace Config

/-- The settings of requests in a configuration. -/
def fetch (c : Config) : FetchConfig where
  userAgent := c.userAgent
  timeoutMs := c.timeoutMs
  maxRedirects := c.maxRedirects
  http := ⟨c.httpProxy, c.httpProxyStrictSsl⟩

/-- Reads a configuration from an object or from an array of its fields. -/
def ofJson : Decoder Config
  | .obj fs => do
    let dbPath ← Decoder.member? fs "db_path" .path
    let extensionDirs ← Decoder.member? fs "extension_dirs" (.list .path)
    let httpProxy ← Decoder.member? fs "http_proxy" (.nullable .string)
    let strict ← Decoder.member? fs "http_proxy_strict_ssl" .bool
    let maxRedirects ← Decoder.member? fs "max_redirects" (.word "usize")
    let statusText ← Decoder.member? fs "status_text" .string
    let timeoutMs ← Decoder.member? fs "timeout_ms" (.word "u64")
    let userAgent ← Decoder.member? fs "user_agent" .string
    return assemble dbPath userAgent timeoutMs maxRedirects httpProxy.join strict statusText extensionDirs
  | .arr xs => do
    let dbPath ← Decoder.element? xs 0 .path
    let userAgent ← Decoder.element? xs 1 .string
    let timeoutMs ← Decoder.element? xs 2 (.word "u64")
    let maxRedirects ← Decoder.element? xs 3 (.word "usize")
    let httpProxy ← Decoder.element? xs 4 (.nullable .string)
    let strict ← Decoder.element? xs 5 .bool
    let statusText ← Decoder.element? xs 6 .string
    let extensionDirs ← Decoder.element? xs 7 (.list .path)
    Decoder.sizeAtMost 8 xs
    return assemble dbPath userAgent timeoutMs maxRedirects httpProxy.join strict statusText extensionDirs
  | v => .error (.invalidType v "struct AppConfig")
where
  /-- The configuration with the given values, and defaults for those that are absent. -/
  assemble (dbPath userAgent : Option String) (timeoutMs maxRedirects : Option Nat) (httpProxy : Option String)
      (strict : Option Bool) (statusText : Option String) (extensionDirs : Option (List String)) : Config :=
    let d : Config := {}
    ⟨dbPath.getD d.dbPath, userAgent.getD d.userAgent, timeoutMs.getD d.timeoutMs, maxRedirects.getD d.maxRedirects,
      httpProxy, strict.getD d.httpProxyStrictSsl, statusText.getD d.statusText, extensionDirs.getD d.extensionDirs⟩

/-- The members of a configuration. -/
def toJson (c : Config) : Json :=
  .object [("db_path", .str c.dbPath), ("user_agent", .str c.userAgent), ("timeout_ms", .ofNat c.timeoutMs),
    ("max_redirects", .ofNat c.maxRedirects), ("http_proxy", .ofString? c.httpProxy),
    ("http_proxy_strict_ssl", .bool c.httpProxyStrictSsl), ("status_text", .str c.statusText),
    ("extension_dirs", .strings c.extensionDirs)]

end Config

namespace HttpSettings

/-- Reads proxy and certificate settings. -/
def ofJson : Decoder HttpSettings
  | .obj fs => do
    let proxy ← Decoder.member? fs "proxy" (.nullable .string)
    let strict ← Decoder.member? fs "proxy_strict_ssl" .bool
    return ⟨proxy.join, strict.getD true⟩
  | .arr xs => do
    let proxy ← Decoder.element? xs 0 (.nullable .string)
    let strict ← Decoder.element? xs 1 .bool
    Decoder.sizeAtMost 2 xs
    return ⟨proxy.join, strict.getD true⟩
  | v => .error (.invalidType v "struct HttpSettings")

/-- The members of proxy and certificate settings. -/
def toJson (s : HttpSettings) : Json :=
  .object [("proxy", .ofString? s.proxy), ("proxy_strict_ssl", .bool s.proxyStrictSsl)]

end HttpSettings

end SchemaRelay
