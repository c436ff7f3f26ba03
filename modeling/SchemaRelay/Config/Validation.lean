import SchemaRelay.Config.Basic
import SchemaRelay.Url.Parser

/-!
# Limits of a configuration

`Config.validate` accepts a configuration whose values the service can work with, and otherwise names the first field
that is out of bounds.
-/

namespace SchemaRelay

/-- What is wrong with a configuration's value. -/
inductive ConfigFault where
  | timeoutTooShort
  | timeoutTooLong
  | tooManyRedirects
  | noUserAgent
  | proxyUrl (cause : UrlError)
  deriving DecidableEq, Repr

namespace ConfigFault

/-- The field at fault. -/
def field : ConfigFault → String
  | .timeoutTooShort => "timeout_ms"
  | .timeoutTooLong => "timeout_ms"
  | .tooManyRedirects => "max_redirects"
  | .noUserAgent => "user_agent"
  | .proxyUrl _ => "http_proxy"

/-- What the field would have to be. -/
def reason : ConfigFault → String
  | .timeoutTooShort => "must be at least 100ms"
  | .timeoutTooLong => "must not exceed 5 minutes (300000ms)"
  | .tooManyRedirects => "must not exceed 20"
  | .noUserAgent => "must not be empty"
  | .proxyUrl cause => cause.message

/-- The text of the fault. -/
def message (f : ConfigFault) : String := s!"invalid configuration: {f.field} - {f.reason}"

end ConfigFault

namespace Config

/-- The proxy, if there is one, is an absolute URL. -/
def checkProxy : Option String → Except ConfigFault Unit
  | none => .ok ()
  | some proxy =>
    match Url.parse proxy with
    | .ok _ => .ok ()
    | .error cause => .error (.proxyUrl cause)

/-- Accepts a configuration within its limits. -/
def validate (c : Config) : Except ConfigFault Unit :=
  if c.timeoutMs < 100 then .error .timeoutTooShort
  else if 300000 < c.timeoutMs then .error .timeoutTooLong
  else if 20 < c.maxRedirects then .error .tooManyRedirects
  else if c.userAgent = "" then .error .noUserAgent
  else checkProxy c.httpProxy

end Config

end SchemaRelay
