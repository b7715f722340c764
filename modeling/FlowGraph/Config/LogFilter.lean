import FlowGraph.Config.Basic
import FlowGraph.Config.FieldPattern
import FlowGraph.Text.Blank
import FlowGraph.Text.Letters

/-! # Log filters

A filter is a list of directives with commas between them. A directive is a level, or a target, a
span in brackets with conditions on its fields in braces, or both, and a level after an equals
sign. `LogFilter.isValid` says whether a text is a filter; `LogFilter.isUsable` whether a program
can start with the filters it finds. -/

namespace FlowGraph

namespace LogFilter

/-- The names of the levels. -/
def levelNames : List String := ["error", "warn", "info", "debug", "trace", "off"]

/-- Whether a text is a level: its name, its number, or nothing. -/
def isLevel (s : String) : Bool :=
  s.isEmpty || levelNames.contains s.toLower || (parseUnsigned? 6 s).isSome

/-- Whether a target can begin with a character. -/
def isTargetStart (c : Char) : Bool :=
  c == '-' || c == ':' || c == '_' || Text.isAlphanumeric c

/-- Whether a condition on a field is well-formed: a name, and maybe a value, which is a pattern
unless it reads as something simpler. -/
def isCondition (cs : List Char) : Bool :=
  !cs.isEmpty && match Text.splitAll '=' cs with
  | _ :: value :: _ =>
    (Decimal.parseDouble? (String.ofList value)).isSome || FieldPattern.isValid value
  | _ => true

/-- What follows a span in brackets, after its opening bracket. Conditions in braces go up to the
closing bracket. -/
def afterSpan? (cs : List Char) : Option (List Char) :=
  match cs.dropWhile fun c => c != ']' && c != '{' with
  | ']' :: rest => some rest
  | '{' :: inner =>
    match inner.dropWhile (· != '}') with
    | '}' :: ']' :: rest => if isCondition (inner.takeWhile (· != '}')) then some rest else none
    | _ => none
  | _ => none

/-- Whether what follows a span ends a directive: nothing, or a level. `level` gives the text of
the level that begins after some characters. -/
def endsDirective (level : List Char → String) : List Char → Bool
  | [] => true
  | '=' :: rest => isLevel (level rest)
  | _ => false

/-- Whether a text is a directive. Blanks at its ends are passed over, but the text of its level is
counted from the end of the whole directive, blanks included. -/
def isDirective (s : String) : Bool :=
  let whole := s.toList
  let cs := Text.trimChars whole
  let level := fun (rest : List Char) => String.ofList (whole.drop (cs.length - rest.length))
  match cs with
  | [] => false
  | '[' :: inner => (afterSpan? inner).any (endsDirective level)
  | c :: _ =>
    isTargetStart c && match cs.dropWhile fun c => c != '=' && c != '[' with
    | '[' :: inner => (afterSpan? inner).any (endsDirective level)
    | '=' :: rest => isLevel (level rest)
    | _ => true

/-- Whether a text is a filter. -/
def isValid (s : String) : Bool := (Text.split ',' s).all fun part => part.isEmpty || isDirective part

/-- The variable of the environment that goes before every setting. -/
def variableName : String := "RUST_LOG"

/-- Whether a program can start: the variable holds a filter, or the setting does. -/
def isUsable (env : Config.Environment) (level : String) : Bool :=
  (Fields.get? env variableName).any isValid || isValid level

end LogFilter

end FlowGraph
