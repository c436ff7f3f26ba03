/-!
# HTTP status codes

`statusDescription` puts an error status into a sentence; `reason?` is the registered reason of a code, and
`statusText` the code with it.
-/

namespace SchemaRelay.Http

/-- A sentence on an error status; nothing for a status below 400. -/
def statusDescription (status : Nat) : Option String :=
  if status < 400 then none
  else some <| match status with
    | 400 => "Bad request. The request cannot be fulfilled due to bad syntax."
    | 401 => "Unauthorized. The server is refusing to respond."
    | 403 => "Forbidden. The server is refusing to respond."
    | 404 => "Not Found. The requested location could not be found."
    | 405 => "Method not allowed. A request was made using a request method not supported by that location."
    | 406 => "Not Acceptable. The server can only generate a response that is not accepted by the client."
    | 407 => "Proxy Authentication Required. The client must first authenticate itself with the proxy."
    | 408 => "Request Timeout. The server timed out waiting for the request."
    | 409 => "Conflict. The request could not be completed because of a conflict in the request."
    | 410 => "Gone. The requested page is no longer available."
    | 411 => "Length Required. The \"Content-Length\" is not defined."
    | 412 => "Precondition Failed. The precondition given in the request evaluated to false by the server."
    | 413 =>
      "Request Entity Too Large. The server will not accept the request, because the request entity is too large."
    | 414 => "Request-URI Too Long. The server will not accept the request, because the URL is too long."
    | 415 =>
      "Unsupported Media Type. The server will not accept the request, because the media type is not supported."
    | 500 => "Internal Server Error."
    | 501 =>
      "Not Implemented. The server either does not recognize the request method, " ++
        "or it lacks the ability to fulfill the request."
    | 503 => "Service Unavailable. The server is currently unavailable (overloaded or down)."
    | other => s!"HTTP status code {other}"

/-- The registered reason of a status code. -/
def reason? : Nat → Option String
  | 100 => some "Continue"
  | 101 => some "Switching Protocols"
  | 102 => some "Processing"
  | 103 => some "Early Hints"
  | 200 => some "OK"
  | 201 => some "Created"
  | 202 => some "Accepted"
  | 203 => some "Non Authoritative Information"
  | 204 => some "No Content"
  | 205 => some "Reset Content"
  | 206 => some "Partial Content"
  | 207 => some "Multi-Status"
  | 208 => some "Already Reported"
  | 226 => some "IM Used"
  | 300 => some "Multiple Choices"
  | 301 => some "Moved Permanently"
  | 302 => some "Found"
  | 303 => some "See Other"
  | 304 => some "Not Modified"
  | 305 => some "Use Proxy"
  | 307 => some "Temporary Redirect"
  | 308 => some "Permanent Redirect"
  | 400 => some "Bad Request"
  | 401 => some "Unauthorized"
  | 402 => some "Payment Required"
  | 403 => some "Forbidden"
  | 404 => some "Not Found"
  | 405 => some "Method Not Allowed"
  | 406 => some "Not Acceptable"
  | 407 => some "Proxy Authentication Required"
  | 408 => some "Request Timeout"
  | 409 => some "Conflict"
  | 410 => some "Gone"
  | 411 => some "Length Required"
  | 412 => some "Precondition Failed"
  | 413 => some "Payload Too Large"
  | 414 => some "URI Too Long"
  | 415 => some "Unsupported Media Type"
  | 416 => some "Range Not Satisfiable"
  | 417 => some "Expectation Failed"
  | 418 => some "I'm a teapot"
  | 421 => some "Misdirected Request"
  | 422 => some "Unprocessable Entity"
  | 423 => some "Locked"
  | 424 => some "Failed Dependency"
  | 425 => some "Too Early"
  | 426 => some "Upgrade Required"
  | 428 => some "Precondition Required"
  | 429 => some "Too Many Requests"
  | 431 => some "Request Header Fields Too Large"
  | 451 => some "Unavailable For Legal Reasons"
  | 500 => some "Internal Server Error"
  | 501 => some "Not Implemented"
  | 502 => some "Bad Gateway"
  | 503 => some "Service Unavailable"
  | 504 => some "Gateway Timeout"
  | 505 => some "HTTP Version Not Supported"
  | 506 => some "Variant Also Negotiates"
  | 507 => some "Insufficient Storage"
  | 508 => some "Loop Detected"
  | 510 => some "Not Extended"
  | 511 => some "Network Authentication Required"
  | _ => none

/-- A status code with its reason. -/
def statusText (status : Nat) : String :=
  let reason := (reason? status).getD "<unknown status code>"
  s!"{status} {reason}"

end SchemaRelay.Http
