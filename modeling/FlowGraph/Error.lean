import FlowGraph.Json.Tree

/-! # Errors

An `Error` is a cause. `Error.message` words it, `Error.code` gives its class, and two questions
are answered by cause alone: `Error.isTransient`, whether the same run might succeed later, and
`Error.countsAgainstBreaker`, whether it says something about a remote resource. A failed
sub-workflow answers all of them as the error inside it does. -/

namespace FlowGraph

/-! ### Structure -/

/-- What makes a graph unfit to run. -/
inductive StructuralError where
  | noTrigger
  | circularDependency (id : String)
  | unknownNode (id : String)
  | duplicateNode (id : String)
deriving DecidableEq

namespace StructuralError

/-- The wording of a structural error. -/
def message : StructuralError → String
  | noTrigger => "Workflow has no trigger node"
  | circularDependency id => "Circular dependency detected involving node '" ++ id ++ "'"
  | unknownNode id => "Edge references unknown node '" ++ id ++ "'"
  | duplicateNode id => "Duplicate node ID: " ++ id

end StructuralError

/-! ### Nodes -/

/-- Why the handler of a node fails. -/
inductive NodeFault where
  | other (text : String)
  | unknownType (tag : String)
  | invalidConfig (kind : String) (cause : DecodeError)
  | itemsNotArray (found : Json)
  | iterationsNotNumber (raw : Json)
  | iterationsNegative (count : Double)
  | loopWithoutCount
  | noAssignment
  | emptyFieldName
  | durationNotNumber (found : Json)
  | durationNegative
  | durationTooLong (ms limit : Nat)
  | nestedTooDeep (limit : Nat)
  | noRegistry
  | unreadableBody (url : String) (cause : String)
  | requestStatus (method url : String) (status : Nat) (body : String)
  | webhookStatus (url : String) (status : Nat) (body : String)

namespace NodeFault

/-- The wording of a fault. -/
def message : NodeFault → String
  | other text => text
  | unknownType tag => "Unknown node type: " ++ tag
  | invalidConfig kind cause => "Invalid " ++ kind ++ " config: " ++ cause.message
  | itemsNotArray found => "Loop 'items' must resolve to an array, got " ++ found.compact
  | iterationsNotNumber raw => "Loop 'iterations' is not a number: " ++ raw.compact
  | iterationsNegative count =>
    "Loop 'iterations' must be non-negative, got " ++ count.plainText
  | loopWithoutCount => "Loop requires either 'iterations' or 'items'"
  | noAssignment => "Set node requires at least one field assignment"
  | emptyFieldName => "Set node field name cannot be empty"
  | durationNotNumber found => "Delay 'duration_ms' is not a number: " ++ found.compact
  | durationNegative => "Delay duration cannot be negative"
  | durationTooLong ms limit =>
    "Delay duration " ++ toString ms ++ "ms exceeds maximum of " ++ toString limit ++ "ms"
  | nestedTooDeep limit => "Maximum sub-workflow depth (" ++ toString limit ++ ") exceeded"
  | noRegistry => "SubWorkflow node requires registry in context"
  | unreadableBody url cause =>
    "Failed to read HTTP response body from " ++ url ++ ": " ++ cause
  | requestStatus method url status body =>
    "HTTP " ++ method ++ " " ++ url ++ " -> " ++ toString status ++ ": " ++ body
  | webhookStatus url status body =>
    "Webhook " ++ url ++ " -> " ++ toString status ++ ": " ++ body

end NodeFault

/-! ### Requests -/

/-- Why a request is refused before it is built. -/
inductive RequestFault where
  | other (text : String)
  | invalidConfig (kind : String) (cause : DecodeError)
  | invalidUrl (url reason : String)
  | unsupportedScheme (scheme : String)
  | unknownMethod (method : String)
  | unknownAuthType (authType : String)

namespace RequestFault

/-- The wording of a fault. -/
def message : RequestFault → String
  | other text => text
  | invalidConfig kind cause => "Invalid " ++ kind ++ " config: " ++ cause.message
  | invalidUrl url reason => "Invalid URL '" ++ url ++ "': " ++ reason
  | unsupportedScheme scheme =>
    "Unsupported URL scheme '" ++ scheme ++ "'. Only http and https are allowed."
  | unknownMethod method => "Unknown HTTP method: " ++ method
  | unknownAuthType authType =>
    "Unknown auth_type '" ++ authType ++ "'. Use: bearer, api_key, or header:<name>"

end RequestFault

/-- Why a request gets no reply. -/
inductive TransportFault where
  /-- No request can be made of its parts. -/
  | unbuildable
  /-- The URL has a host that no request can name. -/
  | badAddress
  | notConnected
  | timedOut
  | disconnected
deriving DecidableEq

namespace TransportFault

/-- The wording of a fault of a request to `url`. -/
def message (url : String) : TransportFault → String
  | unbuildable => "builder error"
  | badAddress => "builder error for url (" ++ url ++ ")"
  | _ => "error sending request for url (" ++ url ++ ")"

/-- Whether a later request might get through. -/
def isTransient : TransportFault → Bool
  | notConnected => true
  | timedOut => true
  | _ => false

end TransportFault

/-! ### Credentials -/

/-- Why there is no token for a request. -/
inductive CredentialFault where
  | other (text : String)
  | noProvider (nodeId service : String)
  | noUser (nodeId service : String)
  | unknown (service user : String)
  | expired (service : String)
  | unreadableFile (path reason : String)
  | invalidFile (path : String) (cause : DecodeError)

namespace CredentialFault

/-- The wording of a fault. -/
def message : CredentialFault → String
  | other text => text
  | noProvider nodeId service => "Node '" ++ nodeId ++ "' needs credential '" ++ service ++
      "' but no credential provider is configured"
  | noUser nodeId service => "Node '" ++ nodeId ++ "' needs credential '" ++ service ++
      "' but the run has no user"
  | unknown service user =>
    "No credentials for service '" ++ service ++ "' (user '" ++ user ++ "')"
  | expired service => "Credentials for service '" ++ service ++ "' have expired"
  | unreadableFile path reason => "Failed to read credentials file " ++ path ++ ": " ++ reason
  | invalidFile path cause => "Invalid credentials file " ++ path ++ ": " ++ cause.message

end CredentialFault

/-! ### All errors -/

/-- Why an operation fails. -/
inductive Error where
  | structural (cause : StructuralError)
  | missingField (nodeId field : String)
  | node (fault : NodeFault)
  | invalidRequest (fault : RequestFault)
  | subWorkflow (name : String) (cause : Error)
  | circuitOpen (resource : String)
  | loopDepthExceeded (nodeId : String) (limit : Nat)
  | storage (text : String)
  | config (text : String)
  | parse (text : String)
  | credential (fault : CredentialFault)
  | transport (url : String) (fault : TransportFault)
  | database (text : String)
  | json (cause : DecodeError)
  | io (text : String)

namespace Error

/-- The wording of an error. -/
def message : Error → String
  | structural cause => "Structural error: " ++ cause.message
  | missingField nodeId field =>
    "Node '" ++ nodeId ++ "' is missing required config field '" ++ field ++ "'"
  | node fault => "Node error: " ++ fault.message
  | invalidRequest fault => "Invalid request: " ++ fault.message
  | subWorkflow name cause => "Sub-workflow '" ++ name ++ "' failed: " ++ cause.message
  | circuitOpen resource => "Circuit open for '" ++ resource ++ "'"
  | loopDepthExceeded nodeId limit =>
    "Loop depth exceeded at node '" ++ nodeId ++ "' (max " ++ toString limit ++ ")"
  | storage text => "Storage error: " ++ text
  | config text => "Configuration error: " ++ text
  | parse text => "Parse error: " ++ text
  | credential fault => "Credential error: " ++ fault.message
  | transport url fault => "HTTP error: " ++ fault.message url
  | database text => "Database error: " ++ text
  | json cause => "JSON error: " ++ cause.message
  | io text => "IO error: " ++ text

/-- The class of an error. -/
def code : Error → String
  | structural _ => "STRUCTURAL_ERROR"
  | missingField _ _ => "CONFIG_VALIDATION_ERROR"
  | node _ => "NODE_ERROR"
  | invalidRequest _ => "INVALID_REQUEST"
  | subWorkflow _ cause => cause.code
  | circuitOpen _ => "CIRCUIT_OPEN"
  | loopDepthExceeded _ _ => "LOOP_DEPTH_EXCEEDED"
  | storage _ => "STORAGE_ERROR"
  | config _ => "CONFIG_ERROR"
  | parse _ => "PARSE_ERROR"
  | credential _ => "CREDENTIAL_ERROR"
  | transport _ _ => "HTTP_ERROR"
  | database _ => "DATABASE_ERROR"
  | json _ => "JSON_ERROR"
  | io _ => "IO_ERROR"

/-- Whether the same operation might succeed later. -/
def isTransient : Error → Bool
  | circuitOpen _ => true
  | transport _ fault => fault.isTransient
  | subWorkflow _ cause => cause.isTransient
  | _ => false

/-- Whether the error says something about a remote resource. Errors from before anything was sent
do not. -/
def countsAgainstBreaker : Error → Bool
  | missingField _ _ => false
  | invalidRequest _ => false
  | credential _ => false
  | config _ => false
  | parse _ => false
  | circuitOpen _ => false
  | loopDepthExceeded _ _ => false
  | subWorkflow _ cause => cause.countsAgainstBreaker
  | _ => true

/-- The text of the error directly behind this one, if there is one. -/
def causeText? : Error → Option String
  | structural cause => some cause.message
  | subWorkflow _ cause => some cause.message
  | io text => some text
  | json cause => some cause.message
  | _ => none

/-- The class and the wording as an object. -/
def codeAndMessage (e : Error) : Json :=
  .ofFields [("code", .str e.code), ("message", .str e.message)]

/-- The error as a reply of an interface. -/
def toJson (e : Error) : Json :=
  .ofFields [("success", .bool false), ("error", e.codeAndMessage)]

end Error

end FlowGraph
