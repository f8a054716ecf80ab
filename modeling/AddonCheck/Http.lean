import AddonCheck.Json

/-
This file holds exchanges of requests and responses, and how texts are written in an address or in a
form.
-/

namespace AddonCheck.Http

inductive Method where
  | get
  | post
  | delete
  deriving DecidableEq, Repr, Inhabited

/-- What a request carries. -/
inductive Body where
  | empty
  | form (text : String)
  | json (value : Json)
  deriving Repr, Inhabited

/-- A request names an address, or a path below the address of a known peer. -/
structure Request where
  method : Method
  path : String
  /-- The written pairs after the question mark. -/
  query : String := ""
  headers : List (String × String) := []
  body : Body := .empty
  deriving Repr, Inhabited

structure Response where
  status : Nat
  body : String
  deriving DecidableEq, Repr, Inhabited

/-- A peer answers a request from its state, or does not answer it. -/
abbrev Exchange (σ : Type) := Request → StateM σ (Option Response)

/-- A peer that cannot be reached. -/
def unreachable {σ : Type} : Exchange σ := fun _ => pure none

def Response.isSuccess (response : Response) : Bool :=
  200 ≤ response.status && response.status < 300

def hexDigit (n : Nat) : Char := (Nat.digitChar (n % 16)).toUpper

/-- A byte is written as a percent sign and two digits. -/
def percent (byte : UInt8) : List Char :=
  ['%', hexDigit (byte.toNat / 16), hexDigit byte.toNat]

/-- The characters that a form leaves as they are. -/
def isPlain (c : Char) : Bool :=
  c.isAlphanum || c == '*' || c == '-' || c == '.' || c == '_'

/-- A character in a form: a plain one stands for itself, a blank is a plus sign, and the bytes of
any other one are written in digits. -/
def formCharacter (c : Char) : List Char :=
  if isPlain c then [c]
  else if c == ' ' then ['+']
  else (String.ofList [c]).toUTF8.toList.flatMap percent

def formText (text : String) : List Char := text.toList.flatMap formCharacter

/-- The pairs of a form. -/
def form (pairs : List (String × String)) : String :=
  String.intercalate "&" (pairs.map fun pair =>
    String.ofList (formText pair.1 ++ '=' :: formText pair.2))

/-- A header holds no control character but the tab. -/
def isHeaderValue (text : String) : Bool :=
  text.toList.all fun c => (0x20 ≤ c.toNat && c.toNat != 0x7F) || c == '\t'

/-- A header is sent without the blanks around it. -/
def trimHeader (text : String) : String :=
  let isBlank (c : Char) : Bool := c == ' ' || c == '\t'
  String.ofList ((text.toList.dropWhile isBlank).reverse.dropWhile isBlank).reverse

/-- The address of a peer: one that names its scheme is used as it is, without the slashes that end
it. -/
def baseAddress (start site : String) : String :=
  if (site.splitOn "://").length > 1 then
    String.ofList (site.toList.reverse.dropWhile (· == '/')).reverse
  else start ++ site

/-- What is told when the client of a peer cannot be built. -/
def clientErrorMessage (reason : String) : String :=
  s!"could not build the reqwest client: {reason}"

/-- The usual words for a status. -/
def reasonPhrase (status : Nat) : String :=
  match status with
  | 100 => "Continue"
  | 101 => "Switching Protocols"
  | 102 => "Processing"
  | 103 => "Early Hints"
  | 300 => "Multiple Choices"
  | 301 => "Moved Permanently"
  | 302 => "Found"
  | 303 => "See Other"
  | 304 => "Not Modified"
  | 305 => "Use Proxy"
  | 307 => "Temporary Redirect"
  | 308 => "Permanent Redirect"
  | 400 => "Bad Request"
  | 401 => "Unauthorized"
  | 402 => "Payment Required"
  | 403 => "Forbidden"
  | 404 => "Not Found"
  | 405 => "Method Not Allowed"
  | 406 => "Not Acceptable"
  | 407 => "Proxy Authentication Required"
  | 408 => "Request Timeout"
  | 409 => "Conflict"
  | 410 => "Gone"
  | 411 => "Length Required"
  | 412 => "Precondition Failed"
  | 413 => "Payload Too Large"
  | 414 => "URI Too Long"
  | 415 => "Unsupported Media Type"
  | 416 => "Range Not Satisfiable"
  | 417 => "Expectation Failed"
  | 418 => "I'm a teapot"
  | 421 => "Misdirected Request"
  | 422 => "Unprocessable Entity"
  | 423 => "Locked"
  | 424 => "Failed Dependency"
  | 425 => "Too Early"
  | 426 => "Upgrade Required"
  | 428 => "Precondition Required"
  | 429 => "Too Many Requests"
  | 431 => "Request Header Fields Too Large"
  | 451 => "Unavailable For Legal Reasons"
  | 500 => "Internal Server Error"
  | 501 => "Not Implemented"
  | 502 => "Bad Gateway"
  | 503 => "Service Unavailable"
  | 504 => "Gateway Timeout"
  | 505 => "HTTP Version Not Supported"
  | 506 => "Variant Also Negotiates"
  | 507 => "Insufficient Storage"
  | 508 => "Loop Detected"
  | 510 => "Not Extended"
  | 511 => "Network Authentication Required"
  | _ => ""

end AddonCheck.Http
