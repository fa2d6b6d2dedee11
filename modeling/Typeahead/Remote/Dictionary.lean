-- The remote dictionary service. A service is a URL template holding
-- `{text}` and the language whose definitions are wanted. A template that
-- does not hold `{text}`, or that does not make a URL, is refused, as is a
-- blank language. A lookup sends one request, for the template filled with
-- the trimmed text; what comes back is the service's reply, a parameter of
-- the lookup. A 404 finds nothing, another 4xx status is a rejection, any
-- other status but 2xx leaves the service unreachable, and a 2xx body is
-- read for the language's first definition.
import Typeahead.Url.Parse
import Typeahead.Lookup.Outcome
import Typeahead.Text.Percent
import Typeahead.Text.Blank
import Typeahead.Text.Utf8
import Typeahead.Dictionary.Answer

namespace Typeahead.Remote

/-- A remote dictionary service. -/
structure Dictionary where
  template : String
  language : String
  deriving Repr, DecidableEq

/-- The name of a remote backend. -/
def name : String := "remote"

/-- The place-holder a template must hold. -/
def placeholder : String := "{text}"

/-- Checks a template and a language and makes the service. The template
must hold the place-holder, and with a word in its place must read as a URL. -/
def Dictionary.new (template language : String) : Except Error Dictionary :=
  if !Text.holdsPlaceholder template.toList then
    .error (.config ("Remote url_template must contain " ++ placeholder ++ ": " ++ template))
  else
    match Url.parse (Text.fillTemplate template "probe") with
    | .error e =>
      .error (.config ("Invalid remote url_template '" ++ template ++ "': " ++ e.message))
    | .ok _ =>
      let lang := Text.trimString language
      if lang.isEmpty then .error (.config "Remote target_language not configured")
      else .ok ⟨template, lang⟩

/-- The link a lookup of a text asks for: the template filled with the
trimmed text. -/
def Dictionary.link (d : Dictionary) (text : String) : String :=
  Text.fillTemplate d.template (Text.trimString text)

/-- The URL a request goes to. Credentials written in a URL move into the
request's authorization, so they leave the URL; when the user name does not
decode to UTF-8 text they cannot be moved and stay. -/
def requestUrl (u : Url) : Url :=
  let nameDecodes := (Text.decode? (Url.percentDecode (Text.utf8Bytes u.username.toList))).isSome
  if (u.username.isEmpty && u.password.isEmpty) || !nameDecodes then u
  else { u with username := "", password := "" }

/-- The reason phrase the client's HTTP library knows for a status code. -/
def reasonPhrase? : Nat → Option String
  | 100 => some "Continue" | 101 => some "Switching Protocols" | 102 => some "Processing"
  | 200 => some "OK" | 201 => some "Created" | 202 => some "Accepted"
  | 203 => some "Non Authoritative Information" | 204 => some "No Content"
  | 205 => some "Reset Content" | 206 => some "Partial Content" | 207 => some "Multi-Status"
  | 208 => some "Already Reported" | 226 => some "IM Used"
  | 300 => some "Multiple Choices" | 301 => some "Moved Permanently" | 302 => some "Found"
  | 303 => some "See Other" | 304 => some "Not Modified" | 305 => some "Use Proxy"
  | 307 => some "Temporary Redirect" | 308 => some "Permanent Redirect"
  | 400 => some "Bad Request" | 401 => some "Unauthorized" | 402 => some "Payment Required"
  | 403 => some "Forbidden" | 404 => some "Not Found" | 405 => some "Method Not Allowed"
  | 406 => some "Not Acceptable" | 407 => some "Proxy Authentication Required"
  | 408 => some "Request Timeout" | 409 => some "Conflict" | 410 => some "Gone"
  | 411 => some "Length Required" | 412 => some "Precondition Failed"
  | 413 => some "Payload Too Large" | 414 => some "URI Too Long"
  | 415 => some "Unsupported Media Type" | 416 => some "Range Not Satisfiable"
  | 417 => some "Expectation Failed" | 418 => some "I'm a teapot"
  | 421 => some "Misdirected Request" | 422 => some "Unprocessable Entity" | 423 => some "Locked"
  | 424 => some "Failed Dependency" | 425 => some "Too Early" | 426 => some "Upgrade Required"
  | 428 => some "Precondition Required" | 429 => some "Too Many Requests"
  | 431 => some "Request Header Fields Too Large" | 451 => some "Unavailable For Legal Reasons"
  | 500 => some "Internal Server Error" | 501 => some "Not Implemented" | 502 => some "Bad Gateway"
  | 503 => some "Service Unavailable" | 504 => some "Gateway Timeout"
  | 505 => some "HTTP Version Not Supported" | 506 => some "Variant Also Negotiates"
  | 507 => some "Insufficient Storage" | 508 => some "Loop Detected" | 510 => some "Not Extended"
  | 511 => some "Network Authentication Required"
  | _ => none

/-- A status as the client shows it: the code and its reason phrase. -/
def statusText (code : Nat) : String :=
  toString code ++ " " ++ (reasonPhrase? code).getD "<unknown status code>"

/-- What the service does with a request. -/
inductive Reply where
  /-- No reply comes: the request cannot be sent or the connection fails. -/
  | unreachable
  /-- A reply with a status code, and its body: the bytes the client reads,
  or the client's report of why it could not read them. -/
  | replied (code : Nat) (body : Except String (List UInt8))

/-- The service at the other end: the reply each request URL gets. -/
structure Service where
  reply : Url → Reply

instance : Repr Service := ⟨fun _ _ => "Service"⟩

/-- A service that replies to no request: no network, or nothing listening. -/
def Service.silent : Service := ⟨fun _ => .unreachable⟩

/-- The URL a lookup of a text sends its request to. A link that is no URL,
that has no host or whose scheme is not `http` or `https` is refused before
sending, with the client's report. -/
def Dictionary.request (d : Dictionary) (text : String) : Except FailureReason Url :=
  match Url.parse (d.link text) with
  | .error _ => .error (.unreachable "builder error")
  | .ok u =>
    let u := if u.hasHost then requestUrl u else u
    if !u.hasHost || !(u.scheme = "http" || u.scheme = "https") then
      .error (.unreachable ("builder error for url (" ++ u.text ++ ")"))
    else .ok u

/-- What a reply to a request for `u` gives: no reply leaves the service
unreachable; a 404 finds nothing; another 4xx status is a rejection and any
other status but 2xx leaves the service unreachable, both shown with the
status; a 2xx body that cannot be read leaves it unreachable, and one that
is read, with invalid UTF-8 replaced, is taken apart for the language. A 204
reply has no body. -/
def answerOf (u : Url) (language : String) : Reply → Except FailureReason String
  | .unreachable => .error (.unreachable ("error sending request for url (" ++ u.text ++ ")"))
  | .replied code body =>
    if code = 404 then .error .notFound
    else if 400 ≤ code ∧ code < 500 then .error (.rejected ("HTTP " ++ statusText code))
    else if ¬(200 ≤ code ∧ code < 300) then .error (.unreachable ("HTTP " ++ statusText code))
    else
      match body with
      | .error report => .error (.unreachable report)
      | .ok bytes => Dictionary.extract (Text.lossyString (if code = 204 then [] else bytes)) language

/-- A lookup of a text by the service `svc`: one request, and what its reply
gives. -/
def Dictionary.fetch (d : Dictionary) (svc : Service) (text : String) : Except FailureReason String := do
  let u ← d.request text
  answerOf u d.language (svc.reply u)

/-- The outcome of a lookup: cancelled if the token already was, with no
request sent; else the translation the service's reply gives, or why there
is none. -/
def Dictionary.lookup (d : Dictionary) (svc : Service) (text : String) (cancelled : Bool) : Outcome :=
  if cancelled then .cancelled
  else
    match d.fetch svc text with
    | .ok t => .success t
    | .error r => .failure r

/-- Whether a proxy setting names a proxy: a URL with a host, perhaps
after `http://` is put in front of a text that has no scheme or no host. -/
def proxyAccepted (p : String) : Bool :=
  let withScheme : Bool :=
    match Url.parse ("http://" ++ p) with
    | .ok u => u.hasHost
    | .error _ => false
  match Url.parse p with
  | .ok u => u.hasHost || withScheme
  | .error .relativeWithoutBase => withScheme
  | .error _ => false

/-- Checks the proxy setting of the HTTP client; an empty one means none. -/
def checkProxy (proxy : Option String) : Except Error Unit :=
  match proxy with
  | some p =>
    if p.isEmpty || proxyAccepted p then .ok ()
    else .error (.config ("Invalid http_proxy '" ++ p ++ "': builder error"))
  | none => .ok ()

end Typeahead.Remote
