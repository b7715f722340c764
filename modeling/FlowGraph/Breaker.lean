import FlowGraph.Config.Settings
import FlowGraph.Error

/-! # Breakers

A breaker stands before an external resource and cuts it off while it fails. Failures in a row open
the breaker; while it is open every call is rejected; once the cooldown is over it is half open and
lets calls through again, and the first of them that succeeds or fails closes or opens it.

* `Breaker.admit?`, `Breaker.succeed` and `Breaker.fail` are the three steps of one breaker;
  `Breaker.reset` puts it back by hand.
* `Breaker.observed` is the state as it shows from outside: an open breaker whose cooldown is over
  shows as half open, although the next call will move it.
* `Breakers.execute` runs an operation under the breaker of a resource. An error that says nothing
  about the resource leaves the breaker as it is. -/

namespace FlowGraph

/-- The states of a breaker. -/
inductive BreakerState where
  /-- Calls go through. -/
  | closed
  /-- Calls are rejected. -/
  | opened
  /-- Calls go through on trial. -/
  | halfOpen
deriving DecidableEq

/-- The name of a state. -/
def BreakerState.text : BreakerState → String
  | closed => "closed"
  | opened => "open"
  | halfOpen => "half_open"

/-- When a breaker opens, and how many milliseconds it stays open. -/
structure BreakerRule where
  failureThreshold : Nat := 5
  cooldown : Nat := 30000
deriving DecidableEq

/-- The rule of the settings. -/
def BreakerSettings.rule (s : BreakerSettings) : BreakerRule :=
  ⟨s.threshold, s.cooldownSeconds * 1000⟩

/-! ### One breaker -/

/-- A breaker. -/
structure Breaker where
  state : BreakerState := .closed
  /-- The failures in a row before it opened. -/
  failures : Nat := 0
  /-- When it last opened, in milliseconds of the clock. -/
  openedAt : Option Nat := none
deriving DecidableEq

namespace Breaker

/-- Whether the cooldown is over. -/
def isCool (rule : BreakerRule) (b : Breaker) (now : Nat) : Bool :=
  match b.openedAt with
  | none => true
  | some since => since + rule.cooldown ≤ now

/-- The state as it shows from outside. -/
def observed (rule : BreakerRule) (b : Breaker) (now : Nat) : BreakerState :=
  if b.state = .opened ∧ b.isCool rule now then .halfOpen else b.state

/-- The breaker after it lets a call through, unless it rejects the call. -/
def admit? (rule : BreakerRule) (b : Breaker) (now : Nat) : Option Breaker :=
  match b.state with
  | .closed => some b
  | .halfOpen => some b
  | .opened => if b.isCool rule now then some { b with state := .halfOpen } else none

/-- The breaker after a call that succeeded. -/
def succeed (b : Breaker) : Breaker :=
  match b.state with
  | .closed => { b with failures := 0 }
  | .halfOpen => {}
  | .opened => b

/-- The breaker when it opens. -/
def trip (b : Breaker) (now : Nat) : Breaker := { b with state := .opened, openedAt := some now }

/-- The breaker after a call that failed. -/
def fail (rule : BreakerRule) (b : Breaker) (now : Nat) : Breaker :=
  match b.state with
  | .closed =>
    let counted := { b with failures := b.failures + 1 }
    if rule.failureThreshold ≤ b.failures + 1 then counted.trip now else counted
  | .halfOpen => b.trip now
  | .opened => b

/-- The breaker after it is put back by hand. -/
def reset (b : Breaker) : Breaker :=
  { b with state := .closed, failures := 0, openedAt := none }

/-- The breaker after a call with the given outcome. -/
def settle {α : Type} (rule : BreakerRule) (b : Breaker) (outcome : Except Error α) (now : Nat) :
    Breaker :=
  match outcome with
  | .ok _ => b.succeed
  | .error e => if e.countsAgainstBreaker then b.fail rule now else b

end Breaker

/-! ### The breakers of all resources -/

/-- The breakers by resource. A resource gets one with the first call. -/
structure Breakers where
  rule : BreakerRule := {}
  byKey : Fields Breaker := []

/-- What tells the time to the breakers and learns of their changes. -/
class Monitor (S : Type) where
  now : S → Nat
  changed : BreakerState → S → S

/-- Tells of a change between two moments of a breaker. -/
def Monitor.noteChange {S : Type} [Monitor S] (before after : Breaker) (s : S) : S :=
  if before.state = after.state then s else Monitor.changed after.state s

namespace Breakers

/-- The breaker of a resource, a new one for a resource without calls. -/
def breaker (bs : Breakers) (key : String) : Breaker := (Fields.get? bs.byKey key).getD {}

/-- Puts a breaker in place of the one before it. -/
def update (bs : Breakers) (key : String) (b : Breaker) : Breakers :=
  { bs with byKey := Fields.insert key b bs.byKey }

/-- The state of a resource as it shows from outside. -/
def state (bs : Breakers) (key : String) (now : Nat) : BreakerState :=
  (bs.breaker key).observed bs.rule now

/-- How many resources have a breaker. -/
def size (bs : Breakers) : Nat := bs.byKey.length

/-- Runs an operation under the breaker of a resource. -/
def execute {S α : Type} [Monitor S] (bs : Breakers) (key : String)
    (operation : S → Except Error α × S) (s : S) : Except Error α × Breakers × S :=
  let b := bs.breaker key
  match b.admit? bs.rule (Monitor.now s) with
  | none => (.error (.circuitOpen key), bs.update key b, s)
  | some admitted =>
    let (outcome, s) := operation (Monitor.noteChange b admitted s)
    let settled := admitted.settle bs.rule outcome (Monitor.now s)
    (outcome, bs.update key settled, Monitor.noteChange admitted settled s)

end Breakers

end FlowGraph
