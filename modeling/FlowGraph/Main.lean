import FlowGraph.CommandLine.Execute
import FlowGraph.Store.File
import Std.Time.DateTime.Timestamp

/-! # The program

Reads the arguments, does the command on the disk of the machine, prints what comes of it and ends
with its exit code. The program has no network of its own: every request it would send fails to
connect. -/

namespace FlowGraph

namespace Main

open CommandLine

/-- The reason of an error of the system. -/
def attempt {α : Type} (action : IO α) : IO (Except String α) := do
  try return .ok (← action) catch e => return .error (toString e)

/-- Opens the database at a path. -/
def openStore (path : String) (create : Bool) :
    IO (Except CommandLine.StoreFault (Option TableStore)) := do
  if let .error _ ← attempt (IO.FS.realPath path) then
    unless create do return .error .cannotOpen
    if let .error _ ← attempt (IO.FS.writeFile path "") then return .error .cannotOpen
  match ← attempt (IO.FS.readFile path) with
  | .error _ => return .error .cannotOpen
  | .ok text =>
    if text.isEmpty then return .ok none
    match TableStore.ofFileText? text with
    | some store => return .ok (some store)
    | none => return .error .notStore

/-- The disk of the machine. -/
def disk : Disk IO where
  isThere path := do return (← attempt (IO.FS.realPath path)).toOption.isSome
  read path := attempt (IO.FS.readFile path)
  makeFolder path := attempt (IO.FS.createDirAll path)
  openStore := openStore
  saveStore path store := IO.FS.writeFile path store.fileText

/-- The variables of the environment that the program knows. -/
def environment : IO Config.Environment := do
  let mut found := []
  for name in LogFilter.variableName :: Config.variableNames do
    if let some value ← IO.getEnv name then found := Fields.insert name value found
  return found

/-- The folder for the settings of programs. -/
def settingsFolder : IO (Option String) := do
  match ← IO.getEnv "XDG_CONFIG_HOME" with
  | some folder => if FilePath.isAbsolute folder then return some folder
  | none => pure ()
  return (← IO.getEnv "HOME").map (· ++ "/.config")

/-- The time of day. -/
def now : IO Timestamp := do
  let nanos := (← Std.Time.Timestamp.now).toNanosecondsSinceUnixEpoch.val
  return ⟨nanos.fdiv 1000000000, (nanos.fmod 1000000000).toNat⟩

/-- A number that no other session starts with. -/
def randomNumber : IO Nat := do
  return (← IO.getRandomBytes 15).foldl (fun n byte => 256 * n + byte.toNat) 0

/-- Prints what came of a command. -/
def print (reply : CommandLine.Reply) : IO Unit := do
  IO.print reply.output
  for line in reply.metrics do IO.eprintln line
  if let some fault := reply.fault then IO.eprintln ("Error: " ++ fault.message)
  if reply.code == 2 then
    for line in helpLines do IO.eprintln line

end Main

end FlowGraph

open FlowGraph FlowGraph.Main in
def main (args : List String) : IO UInt32 := do
  let session : Session Unit := {
    world := { clock := ⟨← now, ← IO.monoMsNow⟩, host := () }, nextId := ← randomNumber }
  let reply ← CommandLine.execute {
    environment := ← environment, settingsFolder := ← settingsFolder, disk
    transport := fun _ w => (.error .notConnected, w), pause := .exact, session } args
  print reply
  return UInt32.ofNat reply.code
