import FlowGraph.Json.Tree
import FlowGraph.Text.Blank

/-! # Settings

The settings of the engine and of what surrounds it, their defaults, and how they are decoded and
encoded. Every setting may be left out; one that is given must have its type.

* `EngineSettings.isTrigger` and `EngineSettings.isErrorHandler` say what a type tag means.
* `BreakerSettings.threshold` is the number of failures that opens a breaker, at least one. -/

namespace FlowGraph

namespace Tree

/-- A count of the machine. -/
def size (t : Tree) : Decoded Nat := t.natural (Nat.pow 2 64) "usize"

/-- A number of 64 bits. -/
def word64 (t : Tree) : Decoded Nat := t.natural (Nat.pow 2 64) "u64"

/-- A number of 32 bits. -/
def word32 (t : Tree) : Decoded Nat := t.natural (Nat.pow 2 32) "u32"

/-- A boolean. -/
def bool (t : Tree) : Decoded Bool :=
  match t with
  | .scalar { value := .ok (.bool b), .. } => .ok b
  | t => .error (t.mismatch "a boolean")

/-- A path of a file. -/
def filePath (t : Tree) : Decoded String :=
  match t with
  | .scalar { text := some s, .. } => .ok s
  | t => .error (t.mismatch "path string")

end Tree

/-! ### Breakers -/

/-- When a breaker opens and how long it stays open. -/
structure BreakerSettings where
  failureThreshold : Nat := 5
  cooldownSeconds : Nat := 30
deriving DecidableEq

namespace BreakerSettings

/-- The failures in a row that open a breaker. -/
def threshold (s : BreakerSettings) : Nat := max s.failureThreshold 1

/-- The settings given so far. -/
structure Draft where
  failureThreshold : Option Nat := none
  cooldownSeconds : Option Nat := none

/-- One entry. -/
def Draft.step (d : Draft) (name : String) (t : Tree) : Decoded Draft :=
  match name with
  | "failure_threshold" => do
    let v ← Record.once name d.failureThreshold Tree.word32 t
    .ok { d with failureThreshold := v }
  | "cooldown_seconds" => do
    let v ← Record.once name d.cooldownSeconds Tree.word64 t
    .ok { d with cooldownSeconds := v }
  | _ => Record.skip d t

def decode (t : Tree) : Decoded BreakerSettings := do
  let r ← t.record "CircuitBreakerSettings" ["failure_threshold", "cooldown_seconds"]
  let d ← r.scan Draft.step {}
  r.close ⟨d.failureThreshold.getD 5, d.cooldownSeconds.getD 30⟩

def toJson (s : BreakerSettings) : Json := .ofFields [
  ("failure_threshold", .ofNat s.failureThreshold), ("cooldown_seconds", .ofNat s.cooldownSeconds)]

end BreakerSettings

/-! ### The engine -/

/-- Limits and conventions of the engine. -/
structure EngineSettings where
  maxLoopDepth : Nat := 5
  maxLoopIterations : Nat := 1000
  maxSubworkflowDepth : Nat := 5
  triggerPattern : String := "trigger"
  errorHandlerType : String := "error_handler"
  breaker : BreakerSettings := {}
  httpTimeoutSeconds : Nat := 30

namespace EngineSettings

/-- Whether a type tag denotes a trigger: it holds the pattern. -/
def isTrigger (s : EngineSettings) (tag : String) : Bool := Text.contains tag s.triggerPattern

/-- Whether a type tag denotes an error handler. -/
def isErrorHandler (s : EngineSettings) (tag : String) : Bool := tag == s.errorHandlerType

/-- The settings given so far. -/
structure Draft where
  maxLoopDepth : Option Nat := none
  maxLoopIterations : Option Nat := none
  maxSubworkflowDepth : Option Nat := none
  triggerPattern : Option String := none
  errorHandlerType : Option String := none
  breaker : Option BreakerSettings := none
  httpTimeoutSeconds : Option Nat := none

/-- One entry. -/
def Draft.step (d : Draft) (name : String) (t : Tree) : Decoded Draft :=
  match name with
  | "max_loop_depth" => do
    let v ← Record.once name d.maxLoopDepth Tree.size t
    .ok { d with maxLoopDepth := v }
  | "max_loop_iterations" => do
    let v ← Record.once name d.maxLoopIterations Tree.size t
    .ok { d with maxLoopIterations := v }
  | "max_subworkflow_depth" => do
    let v ← Record.once name d.maxSubworkflowDepth Tree.size t
    .ok { d with maxSubworkflowDepth := v }
  | "trigger_pattern" => do
    let v ← Record.once name d.triggerPattern Tree.text t
    .ok { d with triggerPattern := v }
  | "error_handler_type" => do
    let v ← Record.once name d.errorHandlerType Tree.text t
    .ok { d with errorHandlerType := v }
  | "circuit_breaker" => do
    let v ← Record.once name d.breaker BreakerSettings.decode t
    .ok { d with breaker := v }
  | "http_timeout_seconds" => do
    let v ← Record.once name d.httpTimeoutSeconds Tree.word64 t
    .ok { d with httpTimeoutSeconds := v }
  | _ => Record.skip d t

/-- The names of the settings in their order. -/
def fieldNames : List String := [
  "max_loop_depth", "max_loop_iterations", "max_subworkflow_depth", "trigger_pattern",
  "error_handler_type", "circuit_breaker", "http_timeout_seconds"]

/-- The settings given, with defaults for the others. -/
def Draft.finish (d : Draft) : EngineSettings :=
  let base : EngineSettings := {}
  { maxLoopDepth := d.maxLoopDepth.getD base.maxLoopDepth
    maxLoopIterations := d.maxLoopIterations.getD base.maxLoopIterations
    maxSubworkflowDepth := d.maxSubworkflowDepth.getD base.maxSubworkflowDepth
    triggerPattern := d.triggerPattern.getD base.triggerPattern
    errorHandlerType := d.errorHandlerType.getD base.errorHandlerType
    breaker := d.breaker.getD base.breaker
    httpTimeoutSeconds := d.httpTimeoutSeconds.getD base.httpTimeoutSeconds }

def decode (t : Tree) : Decoded EngineSettings := do
  let r ← t.record "EngineConfig" fieldNames
  let d ← r.scan Draft.step {}
  r.close d.finish

def toJson (s : EngineSettings) : Json := .ofFields [
  ("max_loop_depth", .ofNat s.maxLoopDepth),
  ("max_loop_iterations", .ofNat s.maxLoopIterations),
  ("max_subworkflow_depth", .ofNat s.maxSubworkflowDepth),
  ("trigger_pattern", .str s.triggerPattern),
  ("error_handler_type", .str s.errorHandlerType),
  ("circuit_breaker", s.breaker.toJson),
  ("http_timeout_seconds", .ofNat s.httpTimeoutSeconds)]

end EngineSettings

end FlowGraph
