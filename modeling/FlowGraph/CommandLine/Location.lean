import FlowGraph.Text.Blank
import FlowGraph.Text.Bytes

/-! # Locations of databases

A database is named by the path of its file, or by a text that begins with `file:`. After that stand
the path, in which a byte may be written by its code, and after a question mark options with `&`
between them: how the database may be opened (`mode`), how it is shared (`cache`), how its file is
reached (`vfs`) and properties of the file. A text after `#` says nothing.

`Location.parse` reads a location. A location without a path is `isTransient`: its database is gone
once it is closed. -/

namespace FlowGraph

namespace CommandLine

/-- How a database may be opened. -/
inductive Access where
  | read | write | create | memory
deriving DecidableEq

namespace Access

/-- The ways to open a database by name. -/
def names : List (String × Access) :=
  [("ro", read), ("rw", write), ("rwc", create), ("memory", memory)]

/-- Later options allow no more than the ones before them. -/
def rank : Access → Nat
  | read => 1
  | write => 2
  | create => 3
  | memory => 4

end Access

/-- Where a database is, and how it is opened. -/
structure Location where
  path : String
  access : Access := .create
  /-- The names and values of the options. -/
  options : List (String × String) := []
  /-- How the file is reached, if the location says so. -/
  system : Option String := none

namespace Location

/-! ### Reading -/

/-- The text of bytes with codes; a code for zero ends it. -/
def decoded (bs : List UInt8) : String :=
  Text.ofBytesLossy ((Text.percentDecode bs).takeWhile (· != 0))

/-- The bytes before the first `sep`, and those after it. -/
def cut (sep : Char) (bs : List UInt8) : List UInt8 × List UInt8 :=
  let before := bs.takeWhile (· != sep.toUInt8)
  (before, bs.drop (before.length + 1))

/-- The options of a query; those without a name are left out. -/
def optionsOf : Nat → List UInt8 → List (String × String)
  | 0, _ => []
  | _ + 1, [] => []
  | fuel + 1, bs =>
    let (option, rest) := cut '&' bs
    let (name, value) := cut '=' option
    let others := optionsOf fuel rest
    if (decoded name).isEmpty then others else (decoded name, decoded value) :: others

/-- The ways to share a database. -/
def cacheNames : List String := ["shared", "private"]

/-- Does what an option asks for, or says why that cannot be. -/
def apply (l : Location) (option : String × String) : Except String Location :=
  let (name, value) := option
  if name = "vfs" then .ok { l with system := some value }
  else if name = "cache" then
    if cacheNames.contains value then .ok l else .error ("no such cache mode: " ++ value)
  else if name = "mode" then
    match Access.names.lookup value with
    | none => .error ("no such access mode: " ++ value)
    | some a =>
      if a = .memory ∨ a.rank ≤ l.access.rank then .ok { l with access := a }
      else .error ("access mode not allowed: " ++ value)
  else .ok l

/-- The ways to reach a file. -/
def systems : List String := ["unix", "unix-none", "unix-dotfile", "unix-excl", "memdb"]

/-- The host that a location may name. -/
def localHost : String := "localhost"

/-- The bytes without the host that stands before an absolute path. -/
def withoutHost (bs : List UInt8) : Except String (List UInt8) :=
  match bs with
  | 47 :: 47 :: rest =>
    let host := Text.ofBytesLossy (rest.takeWhile (· != 47))
    if host.isEmpty ∨ host = localHost then .ok (rest.dropWhile (· != 47))
    else .error ("invalid uri authority: " ++ host)
  | bs => .ok bs

/-- The location of what follows `file:`. -/
def ofBytes (bs : List UInt8) : Except String Location := do
  let said := (cut '#' (← withoutHost bs)).1
  let (path, query) := cut '?' said
  let options := optionsOf query.length query
  let l ← options.foldlM apply { path := decoded path, options }
  match l.system with
  | none => .ok l
  | some name => if systems.contains name then .ok l else .error ("no such vfs: " ++ name)

/-- The location that a text names. -/
def parse (s : String) : Except String Location :=
  match Text.dropStart? s.toList "file:".toList with
  | some rest => ofBytes (Text.bytes (String.ofList rest))
  | none => .ok { path := s }

/-! ### Properties -/

/-- The words for yes. -/
def yesWords : List String := ["on", "yes", "true"]

/-- Whether a property is asked for: by a word, or by a number whose last byte is not zero. -/
def isSet (l : Location) (property : String) : Bool :=
  match l.options.lookup property with
  | none => false
  | some value =>
    let digits := value.toList.takeWhile Char.isDigit
    if digits.isEmpty then yesWords.contains value.toLower
    else digits.foldl (fun n c => 10 * n + (c.toNat - '0'.toNat)) 0 % 256 != 0

/-- The path of a database in memory. -/
def memoryPath : String := ":memory:"

/-- Whether the database is gone once it is closed. -/
def isTransient (l : Location) : Bool :=
  l.path.isEmpty || l.path == memoryPath || l.access == .memory || l.system == some "memdb"

/-- Whether nobody changes the file, so that nothing else is looked at. -/
def isFixed (l : Location) : Bool := l.isSet "immutable"

/-- Whether a log beside the file can be shared with other programs. -/
def canShareLog (l : Location) : Bool :=
  !l.isSet "nolock" && l.system != some "unix-none" && l.system != some "unix-dotfile"

/-- Whether memory shared with other programs may not be written. -/
def hasFixedMemory (l : Location) : Bool := l.isSet "readonly_shm"

/-- Whether the location has room for the names of the files beside it. -/
def hasRoom (l : Location) : Bool := l.path.utf8ByteSize + 8 ≤ 512

/-- The longest name of a file, in bytes. -/
def nameLimit : Nat := 255

/-- Whether the files beside the database can have names. -/
def canBeJournaled (name : String) : Bool := name.utf8ByteSize + "-journal".length ≤ nameLimit

end Location

end CommandLine

end FlowGraph
