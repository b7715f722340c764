import FlowGraph.Breaker
import FlowGraph.Metrics
import FlowGraph.World

/-! # Sessions

A session is what the runs of one program share: the world around their handlers, fresh
identifiers, and the counters. -/

namespace FlowGraph

namespace Identifier

/-- The lowest digits of a number in base 16. -/
def hexDigits : Nat → Nat → List Char
  | 0, _ => []
  | count + 1, n => hexDigits count (n / 16) ++ [(Nat.toDigits 16 (n % 16)).headD '0']

/-- The identifier of a number: 32 digits in five groups, with the marks of a random one. -/
def ofNat (n : Nat) : String :=
  let ds := hexDigits 30 n
  String.ofList (ds.take 8 ++ '-' :: (ds.drop 8).take 4 ++ '-' :: '4' :: (ds.drop 12).take 3 ++
    '-' :: 'a' :: (ds.drop 15).take 3 ++ '-' :: (ds.drop 18))

end Identifier

/-- What the runs of one program share. -/
structure Session (σ : Type) where
  world : World σ
  /-- The number the next identifier is made of. -/
  nextId : Nat := 0
  metrics : Metrics := {}
  /-- How many runs enclose each run started so far, the last one first. -/
  depths : List Nat := []

namespace Session

variable {σ : Type}

/-- The time of day. -/
def now (s : Session σ) : Timestamp := s.world.clock.wall

/-- The milliseconds of the clock that never goes back. -/
def elapsed (s : Session σ) : Nat := s.world.clock.elapsed

/-- The identifier that is handed out next. -/
def upcomingId (s : Session σ) : String := Identifier.ofNat s.nextId

/-- Starts a run that `depth` runs enclose, and uses the upcoming identifier up for it. -/
def startRun (s : Session σ) (depth : Nat) : Session σ :=
  { s with nextId := s.nextId + 1, depths := depth :: s.depths }

/-- Lets time pass. -/
def advance (s : Session σ) (ms : Nat) : Session σ := { s with world := s.world.advance ms }

/-- Adds one to a counter. -/
def count (s : Session σ) (c : Counter) : Session σ := { s with metrics := s.metrics.count c }

instance : Monitor (Session σ) where
  now := elapsed
  changed state s := s.count (.transition state.text)

end Session

end FlowGraph
