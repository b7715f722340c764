import FlowGraph.Error
import FlowGraph.FilePath
import FlowGraph.Json.Reader
import FlowGraph.Text.Blank
import FlowGraph.Workflow.Definition
import FlowGraph.Yaml.Resolve

/-! # Workflow sources

A workflow is written in YAML, or in JSON if its file's name ends in `json`. A YAML source that
lacks a required field is told so by the name of the field; every other fault of it is an invalid
definition. Which of the two it is, the wording of the error decides, with the path to its place:
names and texts of the source that read like such a wording are taken for it. -/

namespace FlowGraph

namespace Workflow

/-- The field that an error's wording says is missing. -/
def missingField? (message : String) : Option String := do
  let rest ← Text.after? "missing field `".toList message.toList
  let name := rest.takeWhile (· != Char.ofNat 0x60)
  if name.length < rest.length then some (String.ofList name) else none

/-- The error of a source that does not decode. -/
def sourceError (e : DecodeError) : Error :=
  let message := e.placedMessage none
  match missingField? message with
  | some field => .parse ("Missing required field: " ++ field)
  | none => .parse ("Invalid workflow definition: " ++ message)

/-- The workflow of a YAML source. -/
def parse (text : String) : Except Error Workflow :=
  if Text.isBlankText text then .error (.parse "Empty workflow definition")
  else (Yaml.decodeText shape decode text).mapError sourceError

/-- The workflow of a JSON source. -/
def parseJson (text : String) : Except Error Workflow :=
  (Json.decodeText decode text).mapError Error.json

/-- Whether the file at a path is a JSON source. -/
def isJsonPath (path : String) : Bool :=
  (FilePath.extension? path).any fun e => e.toLower == "json"

/-- The workflow of a file's text. -/
def parseFile (path text : String) : Except Error Workflow :=
  if isJsonPath path then parseJson text else parse text

end Workflow

end FlowGraph
