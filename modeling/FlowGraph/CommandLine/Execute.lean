import FlowGraph.CommandLine.Arguments
import FlowGraph.CommandLine.Disk
import FlowGraph.Config.LogFilter
import FlowGraph.Engine.Nested
import FlowGraph.Node.Standard
import FlowGraph.Workflow.Source

/-! # Commands

* `validate` checks a workflow and says what is odd about it.
* `run` runs a workflow once, with a record of the run if there is a database.
* `logs` lists the runs of a workflow.
* `nodes` lists the types of nodes.

`execute` does the command of a list of arguments and gives what the program prints. -/

namespace FlowGraph

namespace CommandLine

/-- What a program finds where it runs. -/
structure Place (m : Type → Type) (σ : Type) where
  environment : Config.Environment := []
  /-- The folder for the settings of programs. -/
  settingsFolder : Option String := none
  disk : Disk m
  transport : Transport σ
  pause : Pause := .instant
  session : Session σ

/-- What a program prints, and its exit code. -/
structure Reply where
  code : Nat := 0
  output : String := ""
  fault : Option Fault := none
  /-- The counters, one line for each. -/
  metrics : List String := []

namespace Reply

/-- The arguments are wrong. -/
def misused : Reply := { code := 2 }

/-- The command cannot be done. -/
def ofFault (fault : Fault) : Reply := { code := 1, fault := some fault }

/-- Lines of text. -/
def ofLines (lines : List String) : Reply := { output := String.join (lines.map (· ++ "\n")) }

end Reply

/-! ### Texts -/

/-- A text filled up with blanks to a width. -/
def column (width : Nat) (s : String) : String :=
  s ++ String.ofList (List.replicate (width - s.length) ' ')

/-- The name and the version of the program. -/
def versionText : String := "nodeflow 0.1.0"

/-- How the program is used. -/
def helpLines : List String := [
  "Run node/edge workflow graphs", "",
  "Usage: nodeflow <COMMAND>", "",
  "Commands:",
  "  validate <FILE>  Check a workflow file for structural problems",
  "  run <FILE>       Run a workflow file once",
  "  logs <NAME>      Show recent runs of a workflow",
  "  nodes            List available node types"]

/-- The types of nodes. -/
def nodeLines {σ : Type} (registry : Registry σ) : List String :=
  registry.descriptions.map fun d => column 18 d.1 ++ " " ++ d.2

/-- What there is to say about a valid workflow. -/
def validLines (w : Workflow) (d : Diagnostics) : List String :=
  ["✓ Workflow '" ++ w.name ++ "' is valid", "",
    "  Nodes: " ++ toString w.nodes.length,
    "  Edges: " ++ toString w.edges.length,
    "  Trigger: " ++ ", ".intercalate d.triggers] ++
    d.warnings.map fun warning => "  ⚠ " ++ warning.message

/-- One row of the list of runs. -/
def runRow (id status nodes started last : String) : String :=
  column 36 id ++ " " ++ column 10 status ++ " " ++ column 6 nodes ++ " " ++ column 20 started ++
    " " ++ last

/-- The lines about a run. -/
def recordLines (r : RunRecord) : List String :=
  runRow r.id r.status.text (toString r.nodesExecuted) r.startedAt.displayText
      (r.lastCheckpoint.getD "") ::
    (match r.error with
      | none => []
      | some error => ["    error: " ++ error])

/-- The list of runs of a workflow. -/
def logLines (name : String) (records : List RunRecord) : List String :=
  if records.isEmpty then ["No runs found for workflow '" ++ name ++ "'"]
  else runRow "RUN ID" "STATUS" "NODES" "STARTED" "LAST NODE" ::
    String.ofList (List.replicate 90 '-') :: records.flatMap recordLines

/-! ### Doing commands -/

section

variable {m : Type → Type} [Monad m] {σ : Type}

/-- What a step gives, or the fault in its place. -/
def orFault {α ε : Type} (fault : ε → Fault) (step : m (Except ε α)) : ExceptT Fault m α :=
  ExceptT.mk (do return (← step).mapError fault)

/-- A path in the folder for the settings of the program. -/
def Place.settingsPath (p : Place m σ) (name : String) : Option String :=
  p.settingsFolder.map fun folder => folder ++ "/nodeflow/" ++ name

/-- The configuration of the file in its usual place and of the environment. -/
def Place.config (p : Place m σ) : m Config := do
  match p.settingsPath "config.toml" with
  | none => return Config.load none p.environment
  | some path => return Config.load (← p.disk.read path).toOption p.environment

/-- The workflow of a file. -/
def Place.workflow (p : Place m σ) (file : String) : ExceptT Fault m Workflow := do
  if ← p.disk.isThere file then
    let text ← orFault (.error ∘ .io) (p.disk.read file)
    orFault .error (pure (Workflow.parseFile file text))
  else throw (.fileNotFound file)

/-- The error of a database that only the one who opens it can name. -/
def cannotOpen (path : String) : Error := .database ("unable to open database file: " ++ path)

/-- The error of a database that does not let its first or next change be written down. -/
def cannotJournal : Error := .database "unable to open database file"

/-- Whether tables can be used in a file that was opened: those it has, or new ones in an empty
file. If so, whether they can be changed, and they. -/
def Location.tables (l : Location) (found : Option TableStore) :
    Except Error (Bool × TableStore) :=
  let canWrite := !l.isFixed && l.access != .read
  let canJournal := l.isFixed || !l.hasFixedMemory
  match found with
  | none =>
    if !canWrite then .error TableStore.readOnly
    else if canJournal && (FilePath.fileName? l.path).all Location.canBeJournaled then
      .ok (true, {})
    else .error cannotJournal
  | some t =>
    if canJournal && (l.isFixed || l.canShareLog) then .ok (canWrite, t) else .error cannotJournal

/-- Why no path is made of a text, if it has a character of code zero. -/
def unusable? (name folder : String) : Option Fault :=
  let zero := Char.ofNat 0
  if folder.toList.contains zero then
    some (.refused "file name contained an unexpected NUL byte")
  else if name.toList.contains zero then
    some (.error (.database ("nul byte found in provided data at position: " ++
      toString (String.ofList (name.toList.takeWhile (· != zero))).utf8ByteSize)))
  else none

/-- A database that is in use. -/
structure OpenStore where
  /-- The path at which it is kept. -/
  path : Option String
  canWrite : Bool
  store : TableStore

/-- The database that a text names. The folders on the way to the text are made. -/
def Place.openStore (p : Place m σ) (name : String) : ExceptT Fault m OpenStore := do
  let folder := FilePath.parent name
  if let some fault := unusable? name folder then throw fault
  if !folder.isEmpty then orFault .refused (p.disk.makeFolder folder)
  let l ← orFault (.error ∘ .database) (pure (Location.parse name))
  if l.isTransient then
    if l.access = .read then throw (.error TableStore.readOnly)
    return ⟨none, true, {}⟩
  if !l.hasRoom then throw (.error (cannotOpen name))
  match ← p.disk.openStore l.path (l.access == .create) with
  | .error .cannotOpen => throw (.error (cannotOpen name))
  | .error .notStore => throw (.error (.database "file is not a database"))
  | .ok found =>
    let (canWrite, store) ← orFault .error (pure (l.tables found))
    if found.isNone then p.disk.saveStore l.path store
    return ⟨some l.path, canWrite, store⟩

/-- The database, if there is one. -/
def Place.store? (p : Place m σ) (name : Option String) : ExceptT Fault m (Option OpenStore) :=
  match name with
  | none => pure none
  | some name => do return some (← p.openStore name)

/-- The sink over a database that is in use. -/
def OpenStore.sink (o : OpenStore) : Sink TableStore :=
  if o.canWrite then TableStore.sink else TableStore.readOnlySink

/-- Keeps the tables of a database that is in use. -/
def Place.close (p : Place m σ) (o : OpenStore) (store : TableStore) : m Unit :=
  match o.path, o.canWrite with
  | some path, true => p.disk.saveStore path store
  | _, _ => pure ()

/-- The credentials of a file. -/
def Place.credentialsAt (p : Place m σ) (path : String) : ExceptT Fault m Credentials := do
  let text ← orFault (.error ∘ Credentials.unreadable path) (p.disk.read path)
  orFault .error (pure (Credentials.parse path text))

/-- The credentials of a given file, or of the file in the usual place if it is there. -/
def Place.credentials? (p : Place m σ) (path : Option String) :
    ExceptT Fault m (Option Credentials) :=
  match path with
  | some path => do return some (← p.credentialsAt path)
  | none =>
    match p.settingsPath "credentials.json" with
    | none => pure none
    | some path => do
      if ← p.disk.isThere path then return some (← p.credentialsAt path) else return none

/-- Checks a workflow. -/
def Place.validate (p : Place m σ) (config : Config) (file : String) : ExceptT Fault m Reply := do
  let w ← p.workflow file
  let d ← orFault .structural (pure (FlowGraph.validate w.nodes w.edges config.engine))
  return Reply.ofLines (validLines w d)

/-- What a run prints. -/
def outcomeReply (outcome : Except RunFailure RunSuccess) : Reply :=
  match outcome with
  | .ok r => Reply.ofLines [Json.prettyObject r.fields]
  | .error f => { Reply.ofLines [f.toJson.pretty] with code := 1 }

/-- Runs a workflow. -/
def Place.run (p : Place m σ) (config : Config) (o : RunOptions) : ExceptT Fault m Reply := do
  let w ← p.workflow o.file
  let input ← match o.input with
    | none => pure (Json.obj [])
    | some text => orFault .badInput (pure (Json.parse text))
  let opened ← p.store? (o.database.or config.databasePath)
  let credentials ← p.credentials? (o.credentials.or config.credentialsPath)
  let base : Engine σ TableStore := { registry := .standard p.transport p.pause }
  let engine := { base.withSettings config.engine with
    sink := opened.map OpenStore.sink, credentials, userId := o.user }
  let r := engine.run w input p.session ((opened.map (·.store)).getD {})
  match opened with
  | none => pure ()
  | some database => p.close database r.store
  return { outcomeReply r.outcome with
    metrics := if o.metrics then r.session.metrics.lines else [] }

/-- Lists runs. -/
def Place.logs (p : Place m σ) (config : Config) (name : String) (database : Option String)
    (limit : Nat) : ExceptT Fault m Reply := do
  match ← p.store? (database.or config.databasePath) with
  | none => throw .noDatabase
  | some database =>
    return Reply.ofLines (logLines name (← orFault .error (pure (database.store.recent name limit))))

/-- Does a command. -/
def Place.command (p : Place m σ) (config : Config) : Command → ExceptT Fault m Reply
  | .validate file => p.validate config file
  | .run options => p.run config options
  | .logs name database limit => p.logs config name database limit
  | .nodes => return Reply.ofLines (nodeLines (Registry.standard p.transport p.pause))
  | .help => return Reply.ofLines helpLines
  | .version => return Reply.ofLines [versionText]

/-- The error of a filter for log lines that is none. -/
def badFilter (level : String) : Error :=
  .config ("Invalid log level '" ++ level ++ "': invalid filter directive")

/-- Whether a command is done before any setting is looked at. -/
def Command.isImmediate : Command → Bool
  | .help => true
  | .version => true
  | _ => false

/-- Does the command of a list of arguments. -/
def execute (p : Place m σ) (args : List String) : m Reply :=
  match Command.parse args with
  | none => pure .misused
  | some command => do
    let config ← p.config
    let usable := LogFilter.isUsable p.environment config.logging.level
    if usable || command.isImmediate then
      match ← (p.command config command).run with
      | .ok reply => return reply
      | .error fault => return .ofFault fault
    else return .ofFault (.error (badFilter config.logging.level))

end

end CommandLine

end FlowGraph
