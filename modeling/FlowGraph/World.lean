import FlowGraph.Timestamp

/-! # The world around a handler

What a handler finds outside the run it works for: the time, and whatever the embedding program
keeps for its own handlers and its transport.

Time passes while a handler works. How the clock goes on while one waits is up to the embedding
program, which gives a `Pause`: on the clock of a machine by the time of the wait (`Pause.exact`), not
at all on a clock that only the embedding program moves (`Pause.instant`). -/

namespace FlowGraph

/-- The time of day and a clock that never goes back. -/
structure Clock where
  wall : Timestamp
  /-- The milliseconds of the clock that never goes back. -/
  elapsed : Nat

namespace Clock

/-- Lets time pass. -/
def advance (c : Clock) (ms : Nat) : Clock := ⟨c.wall.addMillis ms, c.elapsed + ms⟩

end Clock

/-- What becomes of the clock while a handler waits for some milliseconds. -/
abbrev Pause := Nat → Clock → Clock

/-- A wait takes the time that was asked for. -/
def Pause.exact : Pause := fun ms c => c.advance ms

/-- A wait is over at once. -/
def Pause.instant : Pause := fun _ c => c

/-- What a handler finds outside the run. -/
structure World (σ : Type) where
  clock : Clock
  /-- What the embedding program keeps. -/
  host : σ

namespace World

/-- Lets time pass. -/
def advance {σ : Type} (w : World σ) (ms : Nat) : World σ :=
  { w with clock := w.clock.advance ms }

/-- Waits. -/
def wait {σ : Type} (pause : Pause) (ms : Nat) (w : World σ) : World σ :=
  { w with clock := pause ms w.clock }

end World

end FlowGraph
