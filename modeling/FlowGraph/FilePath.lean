import FlowGraph.Text.Blank

/-! # Paths of files

A path is a text of parts with slashes between them. -/

namespace FlowGraph

namespace FilePath

/-- The parts of a path, without those that stand for the place they are in. -/
def parts (path : String) : List String :=
  (Text.split '/' path).filter fun part => part != "" && part != "."

/-- Whether a path starts at the root. -/
def isAbsolute (path : String) : Bool := Text.startsWith path "/"

/-- Whether a path can only be that of a folder. -/
def isOfFolder (path : String) : Bool := Text.endsWith path "/" || Text.endsWith path "/."

/-- A path made of parts. -/
def ofParts (absolute : Bool) (parts : List String) : String :=
  (if absolute then "/" else "") ++ "/".intercalate parts

/-- The path without its last part. -/
def parent (path : String) : String := ofParts (isAbsolute path) (parts path).dropLast

/-- The name of the file at a path. -/
def fileName? (path : String) : Option String := (parts path).getLast?.filter (· != "..")

/-- What follows the last dot of a file's name, unless the name has no other part. -/
def extension? (path : String) : Option String := do
  let cs := (← fileName? path).toList
  let back := cs.reverse.takeWhile (· != '.')
  if back.length + 1 < cs.length then some (String.ofList back.reverse) else none

/-- A part after those before it: two dots lead back. -/
def step (before : List String) (part : String) : List String :=
  if part = ".." ∧ before.getLast?.any (· != "..") then before.dropLast else before ++ [part]

/-- The shortest path to the same place. -/
def normal (path : String) : String := ofParts (isAbsolute path) ((parts path).foldl step [])

end FilePath

end FlowGraph
