import FlowGraph.Engine.Journal
import FlowGraph.Session

/-! # The engine

An engine has the handlers, the settings and the breakers for its runs, one run at a time. The
breakers last from run to run; the context is that of the last run. -/

namespace FlowGraph

/-- What runs workflows. -/
structure Engine (σ τ : Type) where
  registry : Registry σ
  settings : EngineSettings := {}
  sink : Option (Sink τ) := none
  credentials : Option Credentials := none
  /-- On whose behalf credentials are looked up. -/
  userId : Option String := none
  /-- How many runs enclose the runs of this engine. -/
  depth : Nat := 0
  breakers : Breakers := { rule := settings.breaker.rule }
  /-- The context of the last run. -/
  context : RunContext := {}

namespace Engine

variable {σ τ : Type}

/-- An engine with other settings, and new breakers that follow them. -/
def withSettings (e : Engine σ τ) (settings : EngineSettings) : Engine σ τ :=
  { e with settings, breakers := { rule := settings.breaker.rule } }

/-- An engine with new breakers of another rule. -/
def withBreakerRule (e : Engine σ τ) (rule : BreakerRule) : Engine σ τ :=
  { e with breakers := { rule } }

/-- The state of the breaker of a resource. -/
def breakerState (e : Engine σ τ) (key : String) (now : Nat) : BreakerState :=
  e.breakers.state key now

end Engine

/-! ### The state of a run -/

/-- What changes in a run. -/
structure RunState (σ τ : Type) where
  context : RunContext
  breakers : Breakers
  session : Session σ
  /-- What the sink keeps. -/
  store : τ
  /-- What the run has done, the last first. -/
  journal : List Event := []

namespace RunState

variable {σ τ : Type}

/-- Writes down what happens. -/
def note (s : RunState σ τ) (e : Event) : RunState σ τ := { s with journal := e :: s.journal }

/-- Changes the context. -/
def onContext (s : RunState σ τ) (f : RunContext → RunContext) : RunState σ τ :=
  { s with context := f s.context }

/-- Adds one to a counter. -/
def count (s : RunState σ τ) (c : Counter) : RunState σ τ :=
  { s with session := s.session.count c }

/-- The time of day. -/
def now (s : RunState σ τ) : Timestamp := s.session.now

instance : Monitor (RunState σ τ) where
  now s := s.session.elapsed
  changed state s := s.count (.transition state.text)

end RunState

/-! ### Calling handlers -/

/-- A run of the workflow in the configuration of a node. -/
abbrev NestedRun (σ : Type) :=
  Json → NodeContext → Session σ → Except Error NodeResult × Session σ

/-- Calls a handler. -/
def Handler.invoke {σ : Type} (h : Handler σ) (nested : NestedRun σ) (config : Json)
    (ctx : NodeContext) (s : Session σ) : Except Error NodeResult × Session σ :=
  match h.behaviour with
  | .call run =>
    let (outcome, world) := run config ctx s.world
    (outcome, { s with world })
  | .subWorkflow => nested config ctx s

end FlowGraph
