import FlowGraph.Json.Basic
import FlowGraph.Number.Decimal
import FlowGraph.Text.Blank

/-! # Arguments

A command is named by the first argument; options and one operand follow in any order. An option
is written `--name value`, `--name=value`, `-n value`, `-nvalue` or `-n=value`, and may be given
once. After `--` every argument is an operand. -/

namespace FlowGraph

namespace CommandLine

/-! ### Options -/

/-- An option of a command. -/
structure OptionRule where
  name : String
  short : Option Char := none
  /-- Which values it takes; nothing for an option without a value. -/
  accepts : Option (String → Bool)

/-- Any text. -/
def anyText (_ : String) : Bool := true

/-- A path, which is not empty. -/
def isPath (s : String) : Bool := !s.isEmpty

/-- What was given to a command. -/
structure Given where
  operand : Option String := none
  options : Fields String := []

namespace Given

/-- Adds an option, unless it was given before or does not take the value. -/
def put (g : Given) (rule : OptionRule) (value : String) : Option Given :=
  if Fields.contains g.options rule.name then none
  else if rule.accepts.all fun accepts => accepts value then
    some { g with options := Fields.insert rule.name value g.options }
  else none

/-- Adds an operand, of which there is one at most. -/
def operate (g : Given) (s : String) : Option Given :=
  if g.operand.isSome then none else some { g with operand := some s }

/-- Adds what follows `--`. -/
def operateAll (g : Given) (args : List String) : Option Given := args.foldlM operate g

end Given

/-- How an argument goes on. -/
inductive Step where
  /-- The arguments ask for help. -/
  | help
  /-- The argument is dealt with. -/
  | next (g : Given)
  /-- The value of an option is the next argument. -/
  | value (g : Given) (rule : OptionRule)

/-- An argument after its two dashes. -/
def longStep (rules : List OptionRule) (cs : List Char) (g : Given) : Option Step := do
  let name := String.ofList (cs.takeWhile (· != '='))
  let value := match cs.dropWhile (· != '=') with
    | '=' :: value => some (String.ofList value)
    | _ => none
  if name = "help" then if value.isNone then some .help else none
  else
    let rule ← rules.find? fun r => r.name == name
    match rule.accepts, value with
    | none, none => (g.put rule "").map .next
    | none, some _ => none
    | some _, some value => (g.put rule value).map .next
    | some _, none => some (.value g rule)

/-- An argument after its only dash. -/
def shortStep (rules : List OptionRule) : List Char → Given → Option Step
  | [], g => some (.next g)
  | 'h' :: _, _ => some .help
  | c :: cs, g => do
    let rule ← rules.find? fun r => r.short == some c
    match rule.accepts, cs with
    | none, cs => shortStep rules cs (← g.put rule "")
    | some _, [] => some (.value g rule)
    | some _, '=' :: value => (g.put rule (String.ofList value)).map .next
    | some _, value => (g.put rule (String.ofList value)).map .next

/-- Whether an argument looks like an option. -/
def isOptionLike (arg : String) : Bool := Text.startsWith arg "-" && arg != "-"

/-- Goes through the arguments of a command. Nothing comes of wrong ones, and no `Given` if they
ask for help. -/
def scan (rules : List OptionRule) : List String → Given → Option (Option Given)
  | [], g => some (some g)
  | arg :: rest, g =>
    if arg = "--" then (g.operateAll rest).map some
    else
      let step := match arg.toList with
        | '-' :: '-' :: cs => longStep rules cs g
        | '-' :: c :: cs => shortStep rules (c :: cs) g
        | _ => (g.operate arg).map .next
      match step with
      | none => none
      | some .help => some none
      | some (.next g) => scan rules rest g
      | some (.value g rule) =>
        match rest with
        | [] => none
        | value :: rest =>
          if isOptionLike value then none
          else match g.put rule value with
            | none => none
            | some g => scan rules rest g

/-! ### Commands -/

/-- What a run is told. -/
structure RunOptions where
  file : String
  input : Option String := none
  database : Option String := none
  user : Option String := none
  credentials : Option String := none
  metrics : Bool := false

/-- What the program is asked to do. -/
inductive Command where
  | validate (file : String)
  | run (options : RunOptions)
  | logs (name : String) (database : Option String) (limit : Nat)
  | nodes
  | help
  | version

namespace Command

/-- The names of the commands. -/
def names : List String := ["validate", "run", "logs", "nodes", "help"]

/-- The options of a run. -/
def runRules : List OptionRule := [
  ⟨"input", some 'i', some anyText⟩, ⟨"db", none, some isPath⟩, ⟨"user", none, some anyText⟩,
  ⟨"credentials", none, some isPath⟩, ⟨"metrics", none, none⟩]

/-- A limit of a list. -/
def limit? (s : String) : Option Nat := parseUnsigned? (Nat.pow 2 64) s

/-- The options of a list of runs. -/
def logsRules : List OptionRule := [
  ⟨"db", none, some isPath⟩, ⟨"limit", some 'l', some fun s => (limit? s).isSome⟩]

/-- How many runs are listed when nothing is said. -/
def defaultLimit : Nat := 10

/-- A command of the arguments after its name. -/
def ofGiven (rules : List OptionRule) (args : List String) (read : Given → Option Command) :
    Option Command := do
  match ← scan rules args {} with
  | none => some .help
  | some g => read g

/-- The command for a run. -/
def runOf (g : Given) : Option Command := do
  let file ← g.operand
  some (.run {
    file
    input := Fields.get? g.options "input"
    database := Fields.get? g.options "db"
    user := Fields.get? g.options "user"
    credentials := Fields.get? g.options "credentials"
    metrics := Fields.contains g.options "metrics" })

/-- The command for a list of runs. -/
def logsOf (g : Given) : Option Command := do
  let name ← g.operand
  let limit := ((Fields.get? g.options "limit").bind limit?).getD defaultLimit
  some (.logs name (Fields.get? g.options "db") limit)

/-- The command of an option before any name. -/
def ofOption (arg : String) : Option Command :=
  match arg.toList with
  | '-' :: 'h' :: _ => some .help
  | '-' :: 'V' :: _ => some .version
  | _ => if arg = "--help" then some .help else if arg = "--version" then some .version else none

/-- The command of all arguments. -/
def parse : List String → Option Command
  | [] => none
  | name :: args =>
    if name = "validate" then ofGiven [] args fun g => g.operand.map .validate
    else if name = "run" then ofGiven runRules args runOf
    else if name = "logs" then ofGiven logsRules args logsOf
    else if name = "nodes" then ofGiven [] args fun g => if g.operand.isNone then some .nodes else none
    else if name = "help" then
      match args with
      | [] => some .help
      | [topic] => if names.contains topic then some .help else none
      | _ => none
    else ofOption name

end Command

end CommandLine

end FlowGraph
