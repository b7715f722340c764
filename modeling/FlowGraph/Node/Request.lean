import FlowGraph.Http.Request
import FlowGraph.Node.Handler

/-! # Nodes that send requests

A request node sends any request, a webhook node posts a JSON payload. Both may carry a token of
the user of the run; both name the resource they address, so that a failing one can be cut off.

Everything that can go wrong before a request is sent goes wrong before it: configuration, URL,
method and credentials, in this order. -/

namespace FlowGraph

namespace RequestNode

/-! ### Authentication -/

/-- Which token to send, and how. -/
structure Auth where
  /-- The service whose token is sent, if any is. -/
  credential : Option String
  authType : String

/-- What is known of the authentication while its entries are read. -/
structure AuthDraft where
  credential : Option (Option String) := none
  authType : Option String := none

/-- One entry. -/
def AuthDraft.step (d : AuthDraft) (name : String) (t : Tree) : Decoded AuthDraft :=
  match name with
  | "credential" => do
    let v ← Record.once name d.credential (Tree.optional Tree.text) t
    .ok { d with credential := v }
  | "auth_type" => do
    let v ← Record.once name d.authType Tree.text t
    .ok { d with authType := v }
  | _ => Record.skip d t

/-- The authentication among the entries that a configuration has no other use for. -/
def Auth.decode (entries : List (Tree × Tree)) : Decoded Auth := do
  let d ← (Record.ofMap entries).scan AuthDraft.step {}
  .ok ⟨d.credential.getD none, d.authType.getD "bearer"⟩

/-- Adds a token to a request. -/
def addToken (d : RequestDraft) (authType token : String) : Except Error RequestDraft :=
  if authType = "bearer" then .ok (d.header "authorization" ("Bearer " ++ token))
  else if authType = "api_key" then .ok (d.header "X-API-Key" token)
  else match Text.dropStart? authType.toList "header:".toList with
    | some (c :: cs) => .ok (d.header (String.ofList (c :: cs)) token)
    | _ => .error (.invalidRequest (.unknownAuthType authType))

/-- The bundle of a service for the user of a run. -/
def bundle (service : String) (ctx : NodeContext) (now : Timestamp) :
    Except CredentialFault CredentialBundle :=
  match ctx.credentials with
  | none => .error (.noProvider ctx.nodeId service)
  | some credentials => match ctx.userId with
    | none => .error (.noUser ctx.nodeId service)
    | some user => credentials.get user service now

/-- Adds the token that the authentication asks for. -/
def authenticate (d : RequestDraft) (auth : Auth) (ctx : NodeContext) (now : Timestamp) :
    Except Error RequestDraft :=
  match auth.credential with
  | none => .ok d
  | some service => match bundle service ctx now with
    | .error fault => .error (.credential fault)
    | .ok b => addToken d auth.authType b.accessToken

/-! ### Parts of a request -/

/-- A value in a header or a query: strings as they are, all else as JSON. -/
def valueText : Json → String
  | .str s => s
  | j => j.compact

/-- Names and resolved values. -/
def resolvedPairs (ctx : NodeContext) (fields : Fields Json) : List (String × String) :=
  fields.map fun p => (p.1, valueText (ctx.resolve p.2))

/-- The URL of a node, which has to be one of the web's request schemes. -/
def requestUrl (text : String) : Except RequestFault Url :=
  match Url.parse text with
  | .error fault => .error (.invalidUrl text fault.message)
  | .ok url =>
    if url.scheme = "http" ∨ url.scheme = "https" then .ok url
    else .error (.unsupportedScheme url.scheme)

/-- The rendered URL of a configuration, if it gives one. -/
def targetUrl? (config : Json) (ctx : NodeContext) : Option String :=
  ((config.get? "url").bind Json.asText?).map (Template.render ctx.toScope)

/-! ### Requests of any method -/

/-- The methods that can be sent. -/
def methods : List String := ["GET", "POST", "PUT", "DELETE", "PATCH", "HEAD"]

/-- The letters beyond ASCII whose capitals are ASCII. -/
def asciiCapitals : List (Nat × String) := [
  (0xDF, "SS"), (0x131, "I"), (0x17F, "S"), (0xFB00, "FF"), (0xFB01, "FI"), (0xFB02, "FL"),
  (0xFB03, "FFI"), (0xFB04, "FFL"), (0xFB05, "ST"), (0xFB06, "ST")]

/-- The capitals of a character. -/
def capitals (c : Char) : List Char :=
  match asciiCapitals.lookup c.toNat with
  | some s => s.toList
  | none => [c.toUpper]

/-- The method of a name in any letter case. -/
def method? (name : String) : Option String :=
  let upper := String.ofList (name.toList.flatMap capitals)
  if methods.contains upper then some upper else none

/-- A request of any method. -/
structure Config where
  url : String
  method : String
  headers : Fields Json
  query : Fields Json
  body : Option Json
  timeoutSeconds : Option Nat
  auth : Auth

/-- What is known of a configuration while its entries are read. -/
structure Draft where
  url : Option String := none
  method : Option String := none
  headers : Option (Fields Json) := none
  query : Option (Fields Json) := none
  body : Option (Option Json) := none
  timeoutSeconds : Option (Option Nat) := none
  /-- The entries left for the authentication. -/
  others : List (Tree × Tree) := []

/-- One entry. -/
def Draft.step (d : Draft) (name : String) (t : Tree) : Decoded Draft :=
  match name with
  | "url" => do
    let v ← Record.once name d.url Tree.text t
    .ok { d with url := v }
  | "method" => do
    let v ← Record.once name d.method Tree.text t
    .ok { d with method := v }
  | "headers" => do
    let v ← Record.once name d.headers (Tree.entriesOf Tree.value) t
    .ok { d with headers := v }
  | "query" => do
    let v ← Record.once name d.query (Tree.entriesOf Tree.value) t
    .ok { d with query := v }
  | "body" => do
    let v ← Record.once name d.body (Tree.optional Tree.value) t
    .ok { d with body := v }
  | "timeout_seconds" => do
    let v ← Record.once name d.timeoutSeconds (Tree.optional Tree.word64) t
    .ok { d with timeoutSeconds := v }
  | _ => .ok { d with others := d.others ++ [(.ofText name, t)] }

def Config.decode (t : Tree) : Decoded Config := do
  let r ← t.mapRecord "HttpRequestConfig"
  let d ← r.scan Draft.step {}
  let url ← r.require "url" d.url
  let auth ← Auth.decode d.others
  .ok {
    url, auth
    method := d.method.getD "GET"
    headers := d.headers.getD []
    query := d.query.getD []
    body := d.body.getD none
    timeoutSeconds := d.timeoutSeconds.getD none }

/-- The request before a token is added. -/
def draft (c : Config) (method : String) (url : Url) (ctx : NodeContext) : RequestDraft :=
  let timeout := c.timeoutSeconds.getD ctx.settings.httpTimeoutSeconds
  let withHeaders := (RequestDraft.ofUrl method url timeout).addHeaders (resolvedPairs ctx c.headers)
  let withQuery := withHeaders.query (resolvedPairs ctx c.query)
  match c.body with
  | none => withQuery
  | some body => withQuery.json (ctx.resolveDeep body)

/-- The request of a configuration. -/
def prepare (config : Json) (ctx : NodeContext) (now : Timestamp) :
    Except Error (RequestDraft × String) :=
  match Config.decode (.ofJson config) with
  | .error e => .error (.invalidRequest (.invalidConfig "http_request" e))
  | .ok c => match requestUrl (Template.render ctx.toScope c.url) with
    | .error fault => .error (.invalidRequest fault)
    | .ok url => match method? c.method with
      | none => .error (.invalidRequest (.unknownMethod c.method))
      | some method => match authenticate (draft c method url ctx) c.auth ctx now with
        | .error e => .error e
        | .ok d => .ok (d, url.text)

/-- The result of a reply to a request to `url`, which took `durationMs` to arrive. -/
def result (method url : String) (durationMs : Nat) (r : Reply) : Except Error NodeResult :=
  match r.body? method with
  | none => .error (.node (.unreadableBody url Reply.bodyFault))
  | some body =>
    if r.status ≥ 400 then .error (.node (.requestStatus method url r.status body))
    else .ok {
      data := .ofFields [
        ("success", .bool true), ("status", .ofNat r.status), ("headers", .obj r.headerFields),
        ("body", bodyValue body)]
      metadata := .ofFields [("duration_ms", .ofNat durationMs)] }

def run {σ : Type} (t : Transport σ) : Call σ := fun config ctx w =>
  match prepare config ctx w.clock.wall with
  | .error e => (.error e, w)
  | .ok (d, url) => match d.send t w with
    | (.error e, w') => (.error e, w')
    | (.ok reply, w') =>
      (result d.method url (w'.clock.elapsed - w.clock.elapsed) reply, w')

/-- The resource of a request is its host. -/
def resource? (config : Json) (ctx : NodeContext) : Option String :=
  (targetUrl? config ctx).map fun url =>
    "http:" ++ match Url.parse url with
      | .ok u => u.host.getD url
      | .error _ => url

def handler {σ : Type} (t : Transport σ) : Handler σ :=
  { tag := "http_request"
    description := "Make HTTP requests (GET, POST, PUT, DELETE, PATCH, HEAD)"
    behaviour := .call (run t)
    resource? }

end RequestNode

/-! ### Webhooks -/

namespace WebhookNode

/-- A payload, the input of the node if there is none, and where to post it. -/
structure Config where
  url : String
  payload : Option Json
  headers : Fields Json
  auth : RequestNode.Auth

/-- What is known of a configuration while its entries are read. -/
structure Draft where
  url : Option String := none
  payload : Option (Option Json) := none
  headers : Option (Fields Json) := none
  /-- The entries left for the authentication. -/
  others : List (Tree × Tree) := []

/-- One entry. -/
def Draft.step (d : Draft) (name : String) (t : Tree) : Decoded Draft :=
  match name with
  | "url" => do
    let v ← Record.once name d.url Tree.text t
    .ok { d with url := v }
  | "payload" => do
    let v ← Record.once name d.payload (Tree.optional Tree.value) t
    .ok { d with payload := v }
  | "headers" => do
    let v ← Record.once name d.headers (Tree.entriesOf Tree.value) t
    .ok { d with headers := v }
  | _ => .ok { d with others := d.others ++ [(.ofText name, t)] }

def Config.decode (t : Tree) : Decoded Config := do
  let r ← t.mapRecord "WebhookConfig"
  let d ← r.scan Draft.step {}
  let url ← r.require "url" d.url
  let auth ← RequestNode.Auth.decode d.others
  .ok { url, auth, payload := d.payload.getD none, headers := d.headers.getD [] }

/-- What is posted. -/
def payload (c : Config) (ctx : NodeContext) : Json :=
  match c.payload with
  | none => ctx.input
  | some j => ctx.resolveDeep j

/-- The request before a token is added; the payload comes before the headers. -/
def draft (c : Config) (url : Url) (ctx : NodeContext) : RequestDraft :=
  ((RequestDraft.ofUrl "POST" url ctx.settings.httpTimeoutSeconds).json (payload c ctx)).addHeaders
    (RequestNode.resolvedPairs ctx c.headers)

/-- The request of a configuration. -/
def prepare (config : Json) (ctx : NodeContext) (now : Timestamp) :
    Except Error (RequestDraft × String) :=
  match Config.decode (.ofJson config) with
  | .error e => .error (.invalidRequest (.invalidConfig "webhook" e))
  | .ok c => match RequestNode.requestUrl (Template.render ctx.toScope c.url) with
    | .error fault => .error (.invalidRequest fault)
    | .ok url => match RequestNode.authenticate (draft c url ctx) c.auth ctx now with
      | .error e => .error e
      | .ok d => .ok (d, url.text)

/-- The result of a reply; a body that breaks off counts as empty. -/
def result (url : String) (r : Reply) : Except Error NodeResult :=
  let body := (r.body? "POST").getD ""
  if r.status ≥ 400 then .error (.node (.webhookStatus url r.status body))
  else .ok {
    data := .ofFields [
      ("success", .bool true), ("status", .ofNat r.status), ("body", bodyValue body)] }

def run {σ : Type} (t : Transport σ) : Call σ := fun config ctx w =>
  match prepare config ctx w.clock.wall with
  | .error e => (.error e, w)
  | .ok (d, url) => match d.send t w with
    | (.error e, w') => (.error e, w')
    | (.ok reply, w') => (result url reply, w')

/-- The resource of a webhook is its URL as it is rendered. -/
def resource? (config : Json) (ctx : NodeContext) : Option String :=
  (RequestNode.targetUrl? config ctx).map ("webhook:" ++ ·)

def handler {σ : Type} (t : Transport σ) : Handler σ :=
  { tag := "webhook"
    description := "POST a JSON payload to a webhook URL"
    behaviour := .call (run t)
    resource? }

end WebhookNode

end FlowGraph
