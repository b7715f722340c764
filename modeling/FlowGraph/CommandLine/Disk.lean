import FlowGraph.CommandLine.Location
import FlowGraph.Error
import FlowGraph.FilePath
import FlowGraph.Store.Table

/-! # Disks

What a command reads and keeps: files and databases. `Disk` is an interface, so that commands work
in any monad; `MemoryDisk.disk` keeps everything in a value. -/

namespace FlowGraph

namespace CommandLine

/-! ### Faults -/

/-- Why a command cannot be done. -/
inductive Fault where
  | error (cause : Error)
  | structural (cause : StructuralError)
  /-- The input of a run is not JSON. -/
  | badInput (cause : DecodeError)
  | fileNotFound (file : String)
  | noDatabase
  /-- The system refuses. -/
  | refused (reason : String)

/-- The wording of a fault. -/
def Fault.message : Fault → String
  | error cause => cause.message
  | structural cause => cause.message
  | badInput cause => cause.message
  | fileNotFound file => "File not found: " ++ file
  | noDatabase => "No database configured. Pass --db or set NODEFLOW_DATABASE_PATH"
  | refused reason => reason

/-! ### Interface -/

/-- Why a database cannot be opened. -/
inductive StoreFault where
  /-- There is no file, and none can be made. -/
  | cannotOpen
  /-- The file is something else. -/
  | notStore

/-- Files and databases. -/
structure Disk (m : Type → Type) where
  /-- Whether there is anything at a path. -/
  isThere : String → m Bool
  /-- The text of a file, or why it cannot be read. -/
  read : String → m (Except String String)
  /-- Makes a folder and those on the way to it, or says why it cannot. -/
  makeFolder : String → m (Except String Unit)
  /-- The database at a path; none if the file is empty. A file that is not there is made if `create`
  is set. -/
  openStore : String → (create : Bool) → m (Except StoreFault (Option TableStore))
  /-- Keeps a database. -/
  saveStore : String → TableStore → m Unit

/-- The reasons for which a system refuses a path. -/
inductive Refusal where
  | notThere
  | taken
  | notFolder
  | isFolder
  | tooLong
  | notText

/-- The wording of a refusal. -/
def Refusal.message : Refusal → String
  | notThere => "No such file or directory (os error 2)"
  | taken => "File exists (os error 17)"
  | notFolder => "Not a directory (os error 20)"
  | isFolder => "Is a directory (os error 21)"
  | tooLong => "File name too long (os error 36)"
  | notText => "stream did not contain valid UTF-8"

/-! ### In memory -/

/-- A disk as a value. Files and databases stand under the shortest paths to them. -/
structure MemoryDisk where
  files : Fields String := []
  databases : Fields TableStore := []
  /-- The folders that were made, which may be empty. -/
  folders : List String := []

/-- What stands at a path. -/
inductive Entry where
  | text (s : String)
  | database (t : TableStore)
  | folder

namespace MemoryDisk

/-- A disk with files. -/
def ofFiles (files : List (String × String)) : MemoryDisk :=
  { files := Fields.ofPairs (files.map fun f => (FilePath.normal f.1, f.2)) }

/-- Whether there is a folder at the shortest path to a place: one that was made, has something in
it or is on the way to the folder that all paths start from. -/
def isFolder (d : MemoryDisk) (path : String) : Bool :=
  (FilePath.parts path).all (· == "..") || d.folders.contains path ||
    (Fields.names d.files ++ Fields.names d.databases).any fun name =>
      Text.startsWith name (path ++ "/")

/-- What stands at the shortest path to a place. -/
def at? (d : MemoryDisk) (path : String) : Option Entry :=
  match Fields.get? d.files path, Fields.get? d.databases path with
  | _, some t => some (.database t)
  | some s, none => some (.text s)
  | none, none => if d.isFolder path then some .folder else none

/-- What stands at a path. -/
def find? (d : MemoryDisk) (path : String) : Option Entry :=
  if path.isEmpty then none
  else match d.at? (FilePath.normal path), FilePath.isOfFolder path with
    | some .folder, _ => some .folder
    | _, true => none
    | found, false => found

/-- The text of a file. -/
def read (d : MemoryDisk) (path : String) : Except Refusal String :=
  match d.find? path with
  | none => .error .notThere
  | some .folder => .error .isFolder
  | some (.database _) => .error .notText
  | some (.text s) => .ok s

/-- Whether a path is that of something that is no folder. -/
def isFile (d : MemoryDisk) (path : String) : Bool :=
  match d.at? path with
  | some .folder => false
  | found => found.isSome

/-- Makes the folder at the first `n` parts of a path; the one before it is there. -/
def makeFolderAt (path : String) (parts : List String) (n : Nat) (d : MemoryDisk) :
    Except Refusal MemoryDisk :=
  let at' := FilePath.normal (FilePath.ofParts (FilePath.isAbsolute path) (parts.take n))
  if parts[n - 1]?.any (·.utf8ByteSize > Location.nameLimit) then .error .tooLong
  else if d.isFile at' then .error (if n = parts.length then .taken else .notFolder)
  else if d.isFolder at' then .ok d
  else .ok { d with folders := at' :: d.folders }

/-- Makes a folder and those on the way to it, up to the first that cannot be made. -/
def makeFolder (d : MemoryDisk) (path : String) : Option Refusal × MemoryDisk :=
  let parts := FilePath.parts path
  (List.range parts.length).foldl (fun (refusal?, d) n =>
    match refusal? with
    | some refusal => (some refusal, d)
    | none => match d.makeFolderAt path parts (n + 1) with
      | .ok d' => (none, d')
      | .error refusal => (some refusal, d)) (none, d)

/-- Whether a file can be made at the shortest path to a place. -/
def canMake (d : MemoryDisk) (path : String) : Bool :=
  d.isFolder (FilePath.parent path) &&
    ((FilePath.parts path).getLast?.any fun name => name.utf8ByteSize ≤ Location.nameLimit)

/-- The database at a path. A file of a single byte counts as empty. -/
def openStore (d : MemoryDisk) (path : String) (create : Bool) :
    Except StoreFault (Option TableStore) × MemoryDisk :=
  let key := FilePath.normal path
  match d.at? key with
  | some (.database t) => (.ok (some t), d)
  | some (.text s) => (if s.utf8ByteSize ≤ 1 then .ok none else .error .notStore, d)
  | some .folder => (.error .cannotOpen, d)
  | none =>
    if create ∧ d.canMake key then (.ok none, { d with files := Fields.insert key "" d.files })
    else (.error .cannotOpen, d)

/-- Keeps a database. -/
def saveStore (d : MemoryDisk) (path : String) (t : TableStore) : MemoryDisk :=
  { d with databases := Fields.insert (FilePath.normal path) t d.databases }

/-- The disk as an interface. -/
def disk : Disk (StateM MemoryDisk) where
  isThere path := do return ((← get).find? path).isSome
  read path := do return ((← get).read path).mapError Refusal.message
  makeFolder path := modifyGet fun d =>
    let (refusal?, d') := d.makeFolder path
    (refusal?.elim (.ok ()) fun refusal => .error refusal.message, d')
  openStore path create := modifyGet fun d => d.openStore path create
  saveStore path t := modify fun d => d.saveStore path t

end MemoryDisk

end CommandLine

end FlowGraph
