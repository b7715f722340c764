import FlowGraph.Config.Settings
import FlowGraph.Error
import FlowGraph.Number.Decimal
import FlowGraph.Toml.Source

/-! # The configuration

A configuration is the settings of the engine and of what surrounds it. It comes from a file in
TOML, every part of which may be left out, and from variables of the environment, which go before
the file. A file that does not decode as a whole counts as none.

The engine has copies of the settings for breakers and requests. `Config.synced` makes them equal
to the sections they are copies of, whatever the file gives for them.

* `Config.parse` reads the text of a file.
* `Config.load` is the configuration of a file and an environment. -/

namespace FlowGraph

/-- What is logged and how. -/
structure LogSettings where
  /-- The filter for log lines. -/
  level : String := "info"
  /-- Whether every line is a JSON value. -/
  json : Bool := false

/-- The settings of the program. -/
structure Config where
  engine : EngineSettings := {}
  breaker : BreakerSettings := {}
  httpTimeoutSeconds : Nat := 30
  /-- The database for the records of runs. -/
  databasePath : Option String := none
  /-- The file of the credentials. -/
  credentialsPath : Option String := none
  logging : LogSettings := {}

namespace LogSettings

/-- The settings given so far. -/
structure Draft where
  level : Option String := none
  json : Option Bool := none

/-- One entry. -/
def Draft.step (d : Draft) (name : String) (t : Tree) : Decoded Draft :=
  match name with
  | "level" => do
    let v ← Record.once name d.level Tree.text t
    .ok { d with level := v }
  | "json" => do
    let v ← Record.once name d.json Tree.bool t
    .ok { d with json := v }
  | _ => Record.skip d t

def decode (t : Tree) : Decoded LogSettings := do
  let r ← t.record "LogConfig" ["level", "json"]
  let d ← r.scan Draft.step {}
  r.close ⟨d.level.getD "info", d.json.getD false⟩

def toJson (s : LogSettings) : Json := .ofFields [("level", .str s.level), ("json", .bool s.json)]

end LogSettings

namespace Config

/-! ### Sections -/

/-- A section of a single setting. -/
def lone {α : Type} (sectionName setting : String) (read : Tree → Decoded α) (t : Tree) :
    Decoded (Option α) := do
  let r ← t.record sectionName [setting]
  let found ← r.scan (fun slot name t =>
    if name = setting then Record.once name slot read t else Record.skip slot t) none
  r.close found

/-- The sections given so far. -/
structure Draft where
  engine : Option EngineSettings := none
  breaker : Option BreakerSettings := none
  http : Option (Option Nat) := none
  storage : Option (Option (Option String)) := none
  credentials : Option (Option (Option String)) := none
  logging : Option LogSettings := none

/-- One section. -/
def Draft.step (d : Draft) (name : String) (t : Tree) : Decoded Draft :=
  match name with
  | "engine" => do
    let v ← Record.once name d.engine EngineSettings.decode t
    .ok { d with engine := v }
  | "circuit_breaker" => do
    let v ← Record.once name d.breaker BreakerSettings.decode t
    .ok { d with breaker := v }
  | "http" => do
    let v ← Record.once name d.http (lone "HttpConfig" "timeout_seconds" Tree.word64) t
    .ok { d with http := v }
  | "storage" => do
    let v ← Record.once name d.storage
      (lone "StorageConfig" "database_path" (Tree.optional Tree.filePath)) t
    .ok { d with storage := v }
  | "credentials" => do
    let v ← Record.once name d.credentials
      (lone "CredentialsConfig" "path" (Tree.optional Tree.filePath)) t
    .ok { d with credentials := v }
  | "logging" => do
    let v ← Record.once name d.logging LogSettings.decode t
    .ok { d with logging := v }
  | _ => Record.skip d t

/-- The names of the sections in their order. -/
def sectionNames : List String :=
  ["engine", "circuit_breaker", "http", "storage", "credentials", "logging"]

/-- The sections given, with defaults for the others. -/
def Draft.finish (d : Draft) : Config :=
  let base : Config := {}
  { engine := d.engine.getD base.engine
    breaker := d.breaker.getD base.breaker
    httpTimeoutSeconds := (d.http.getD none).getD base.httpTimeoutSeconds
    databasePath := (d.storage.getD none).getD none
    credentialsPath := (d.credentials.getD none).getD none
    logging := d.logging.getD base.logging }

def decode (t : Tree) : Decoded Config := do
  let r ← t.record "Config" sectionNames
  let d ← r.scan Draft.step {}
  r.close d.finish

def toJson (c : Config) : Json := .ofFields [
  ("engine", c.engine.toJson), ("circuit_breaker", c.breaker.toJson),
  ("http", .ofFields [("timeout_seconds", .ofNat c.httpTimeoutSeconds)]),
  ("storage", .ofFields [("database_path", .ofText? c.databasePath)]),
  ("credentials", .ofFields [("path", .ofText? c.credentialsPath)]),
  ("logging", c.logging.toJson)]

/-! ### Files -/

/-- The configuration with the copies of the engine made equal to what they are copies of. -/
def synced (c : Config) : Config :=
  { c with engine := { c.engine with
      breaker := c.breaker, httpTimeoutSeconds := c.httpTimeoutSeconds } }

/-- The error of a file that is no configuration. -/
def invalid (reason : String) : Error := .config ("Invalid config file: " ++ reason)

/-- The configuration in the text of a file. -/
def parse (text : String) : Except Error Config :=
  match Toml.parse text with
  | none => .error (invalid DecodeError.malformed.message)
  | some document => match decode document.tree with
    | .error e => .error (invalid e.message)
    | .ok c => .ok c.synced

/-! ### The environment -/

/-- The variables of the environment and their values. -/
abbrev Environment := Fields String

/-- What a variable gives if it can be read, and otherwise what was there before. -/
def override {α : Type} (env : Environment) (name : String) (read : String → Option α)
    (before : α) : α :=
  ((Fields.get? env name).bind read).getD before

/-- A count of at most 64 bits. -/
def count (text : String) : Option Nat := parseUnsigned? (Nat.pow 2 64) text

/-- A count of at most 32 bits. -/
def smallCount (text : String) : Option Nat := parseUnsigned? (Nat.pow 2 32) text

/-- The configuration with the settings that variables give. -/
def withEnvironment (env : Environment) (c : Config) : Config :=
  { engine := { c.engine with
      maxLoopDepth := override env "NODEFLOW_MAX_LOOP_DEPTH" count c.engine.maxLoopDepth
      maxLoopIterations :=
        override env "NODEFLOW_MAX_LOOP_ITERATIONS" count c.engine.maxLoopIterations
      maxSubworkflowDepth :=
        override env "NODEFLOW_MAX_SUBWORKFLOW_DEPTH" count c.engine.maxSubworkflowDepth }
    breaker := {
      failureThreshold :=
        override env "NODEFLOW_BREAKER_FAILURE_THRESHOLD" smallCount c.breaker.failureThreshold
      cooldownSeconds :=
        override env "NODEFLOW_BREAKER_COOLDOWN_SECONDS" count c.breaker.cooldownSeconds }
    httpTimeoutSeconds := override env "NODEFLOW_HTTP_TIMEOUT_SECONDS" count c.httpTimeoutSeconds
    databasePath := override env "NODEFLOW_DATABASE_PATH" (some ∘ some) c.databasePath
    credentialsPath := override env "NODEFLOW_CREDENTIALS_PATH" (some ∘ some) c.credentialsPath
    logging := { c.logging with level := override env "NODEFLOW_LOG_LEVEL" some c.logging.level } }

/-- The variables that give settings. -/
def variableNames : List String := [
  "NODEFLOW_MAX_LOOP_DEPTH", "NODEFLOW_MAX_LOOP_ITERATIONS", "NODEFLOW_MAX_SUBWORKFLOW_DEPTH",
  "NODEFLOW_BREAKER_FAILURE_THRESHOLD", "NODEFLOW_BREAKER_COOLDOWN_SECONDS",
  "NODEFLOW_HTTP_TIMEOUT_SECONDS", "NODEFLOW_DATABASE_PATH", "NODEFLOW_CREDENTIALS_PATH",
  "NODEFLOW_LOG_LEVEL"]

/-- The configuration of a file, if there is one, or the defaults. -/
def ofFile (file : Option String) : Config := (file.bind fun text => (parse text).toOption).getD {}

/-- The configuration of a file, if there is one, and an environment. -/
def load (file : Option String) (env : Environment) : Config :=
  ((ofFile file).withEnvironment env).synced

end Config

end FlowGraph
