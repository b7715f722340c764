import FlowGraph.Error
import FlowGraph.Http.Url
import FlowGraph.Json.Reader
import FlowGraph.World

/-! # Requests and replies

A request is built step by step in a `RequestDraft`. A header that cannot be sent spoils the draft
for good, whatever is added later; headers add up, and a JSON body brings its content type only if
there is none yet.

How a request travels is up to the embedding program, which gives a `Transport`. `RequestDraft.send`
hands only requests to it that can be sent. -/

namespace FlowGraph

/-- A request as it is sent. Header names are in small letters. -/
structure Request where
  method : String
  url : Url
  headers : List (String × String)
  body : Option String
  timeoutSeconds : Nat

/-- A reply as it arrives. -/
structure Reply where
  status : Nat
  headers : List (String × String)
  bytes : List UInt8

/-- The way of a request to its reply. -/
abbrev Transport (σ : Type) := Request → World σ → Except TransportFault Reply × World σ

/-! ### Headers -/

/-- A character of the name of a header. -/
def isHeaderNameChar (c : Char) : Bool := c.isAlphanum || "!#$%&'*+-.^_|~".toList.contains c ||
  c.toNat == 0x60

/-- How many characters the name of a header may have. -/
def headerNameLimit : Nat := 65535

/-- Whether a header can have the name. -/
def isHeaderName (name : String) : Bool :=
  !name.isEmpty && name.length ≤ headerNameLimit && name.toList.all isHeaderNameChar

/-- Whether a header can have the value. -/
def isHeaderValue (value : String) : Bool :=
  value.toList.all fun c => c == '\t' || (0x20 ≤ c.toNat && c.toNat != 0x7F)

/-- The value of a received header, or nothing if it is not all visible ASCII. -/
def receivedValue (value : String) : String :=
  if value.toList.all fun c => c == '\t' || (0x20 ≤ c.toNat && c.toNat < 0x7F) then value else ""

/-- A name in small letters. -/
def lowerName (name : String) : String := String.ofList (name.toList.map Char.toLower)

/-! ### Building a request -/

/-- A request under construction. -/
structure RequestDraft where
  method : String
  url : Url
  headers : List (String × String) := []
  body : Option String := none
  timeoutSeconds : Nat
  /-- Whether all parts so far can be sent. -/
  isSound : Bool := true

namespace RequestDraft

/-- Adds a header behind those before it. -/
def header (d : RequestDraft) (name value : String) : RequestDraft :=
  if isHeaderName name && isHeaderValue value then
    { d with headers := d.headers ++ [(lowerName name, value)] }
  else { d with isSound := false }

/-- Adds headers one after another. -/
def addHeaders (d : RequestDraft) (headers : List (String × String)) : RequestDraft :=
  headers.foldl (fun d h => d.header h.1 h.2) d

/-- A new request; user and password of its URL become a header. -/
def ofUrl (method : String) (url : Url) (timeoutSeconds : Nat) : RequestDraft :=
  match url.user? with
  | none => { method, url, timeoutSeconds }
  | some (user, password) =>
    ({ method, url := url.withoutUser, timeoutSeconds } : RequestDraft).header "authorization"
      ("Basic " ++ String.ofList (Text.base64 (Text.bytes (user ++ ":" ++ password.getD ""))))

/-- Adds names and values to the query. -/
def query (d : RequestDraft) (pairs : List (String × String)) : RequestDraft :=
  { d with url := d.url.appendQuery pairs }

/-- The content type of a JSON body. -/
def jsonType : String × String := ("content-type", "application/json")

/-- Sets a JSON body. -/
def json (d : RequestDraft) (body : Json) : RequestDraft :=
  { d with
    body := some body.compact
    headers := if d.headers.any fun h => h.1 == jsonType.1 then d.headers
      else d.headers ++ [jsonType] }

/-- The request, once all its parts can be sent. -/
def build (d : RequestDraft) : Except TransportFault Request :=
  if !d.isSound then .error .unbuildable
  else if !d.url.isAddressable then .error .badAddress
  else .ok ⟨d.method, d.url, d.headers, d.body, d.timeoutSeconds⟩

/-- Sends the request. -/
def send {σ : Type} (t : Transport σ) (d : RequestDraft) (w : World σ) :
    Except Error Reply × World σ :=
  match d.build with
  | .error fault => (.error (.transport d.url.text fault), w)
  | .ok request =>
    match t request w with
    | (.error fault, w') => (.error (.transport d.url.text fault), w')
    | (.ok reply, w') => (.ok reply, w')

end RequestDraft

/-! ### Replies -/

namespace Reply

/-- The length that a reply gives for its body. -/
def contentLength? (r : Reply) : Option Nat :=
  (r.headers.find? fun h => lowerName h.1 == "content-length").bind fun h =>
    parseUnsigned? (Nat.pow 2 64) h.2

/-- Whether replies of a status have no body. -/
def isBodiless (method : String) (status : Nat) : Bool :=
  method == "HEAD" || status == 204 || status == 304 || status < 200

/-- The body, unless it ends before its length. -/
def body? (r : Reply) (method : String) : Option String :=
  if isBodiless method r.status then some ""
  else match r.contentLength? with
    | none => some (Text.ofBytesLossy r.bytes)
    | some n =>
      if r.bytes.length < n then none else some (Text.ofBytesLossy (r.bytes.take n))

/-- Why the body of a reply cannot be read. -/
def bodyFault : String := "error decoding response body"

/-- The headers by name; of headers with one name the last stays. -/
def headerFields (r : Reply) : Fields Json :=
  Fields.ofPairs (r.headers.map fun h => (lowerName h.1, .str (receivedValue h.2)))

end Reply

/-- A text as the JSON value it is, or as a string. -/
def bodyValue (text : String) : Json :=
  match Json.parse text with
  | .ok j => j
  | .error _ => .str text

end FlowGraph
