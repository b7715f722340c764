import FlowGraph.Node.Standard
import FlowGraph.Proofs.Walk.Parallel
import FlowGraph.Proofs.Walk.Recursion

/-! # Runs that cannot be told apart

Two runs of one workflow may start from different sessions and with different credentials. A
`Likeness` says which differences are meant. If every handler of the engine answers alike in spite
of them, so does the engine, and so do the engines it starts for the workflows inside nodes, to any
depth.

* `Likeness.Respects` is what is asked of a handler. A handler that works by itself answers for its
  own call only (`respects_of_call`); the handler of nested workflows owes nothing.
* `Likeness.run_agrees` is the law for whole runs, `SubWorkflow.runWith_carries` the one for the
  workflow of a node. -/

namespace FlowGraph

variable {σ τ : Type}

/-- **Differences between two runs**: in the sessions they start from and in their credentials. The
time and the coming identifiers are the same, and what every run does to its session itself keeps
sessions alike. -/
structure Likeness (σ : Type) where
  Sessions : Session σ → Session σ → Prop
  Providers : Option Credentials → Option Credentials → Prop
  clock : ∀ {s s'}, Sessions s s' → s'.world.clock = s.world.clock
  nextId : ∀ {s s'}, Sessions s s' → s'.nextId = s.nextId
  count : ∀ {s s'}, Sessions s s' → ∀ c, Sessions (s.count c) (s'.count c)
  startRun : ∀ {s s'}, Sessions s s' → ∀ depth, Sessions (s.startRun depth) (s'.startRun depth)

namespace Likeness

variable (L : Likeness σ)

/-- The second snapshot is the first one with other credentials. -/
def Snapshots (ctx ctx' : NodeContext) : Prop :=
  ∃ c, L.Providers ctx.credentials c ∧ ctx' = { ctx with credentials := c }

/-- The second engine is the first one with other credentials. -/
def Engines (e e' : Engine σ τ) : Prop :=
  ∃ c, L.Providers e.credentials c ∧ e' = { e with credentials := c }

/-- The states agree in what the run knows, in the breakers and in what the sink keeps. -/
structure States (s s' : RunState σ τ) : Prop where
  context : s'.context = s.context
  breakers : s'.breakers = s.breakers
  store : s'.store = s.store
  session : L.Sessions s.session s'.session

/-- Two ways to run the workflows of nodes give alike results. -/
def Nests (nested nested' : NestedRun σ) : Prop :=
  ∀ config {ctx ctx'}, L.Snapshots ctx ctx' →
    Carries L.Sessions (nested config ctx) (nested' config ctx')

/-- **What is asked of a handler**: it names the same resource and answers alike. -/
structure Respects (h : Handler σ) : Prop where
  resource : ∀ config {ctx ctx'}, L.Snapshots ctx ctx' →
    h.resource? config ctx' = h.resource? config ctx
  invoke : ∀ {nested nested'}, L.Nests nested nested' → ∀ config {ctx ctx'},
    L.Snapshots ctx ctx' →
      Carries L.Sessions (h.invoke nested config ctx) (h.invoke nested' config ctx')

/-- All handlers of a registry answer alike. -/
def Covers (r : Registry σ) : Prop := ∀ {tag h}, r.resolve? tag = some h → L.Respects h

variable {L}

/-! ### Handlers -/

/-- A handler that works by itself answers for its own call. -/
theorem respects_of_call {h : Handler σ} {run : Call σ} (hb : h.behaviour = .call run)
    (hresource : ∀ config {ctx ctx'}, L.Snapshots ctx ctx' →
      h.resource? config ctx' = h.resource? config ctx)
    (hrun : ∀ config {ctx ctx'}, L.Snapshots ctx ctx' → ∀ {s s'}, L.Sessions s s' →
      let r := run config ctx s.world
      let r' := run config ctx' s'.world
      r'.1 = r.1 ∧ L.Sessions { s with world := r.2 } { s' with world := r'.2 }) :
    L.Respects h := by
  refine ⟨hresource, fun _ config ctx ctx' hctx s s' hs => ?_⟩
  simp only [Handler.invoke, hb]
  exact hrun config hctx hs

/-- A handler that neither touches the world nor names a resource answers alike if it does not look
at credentials. -/
theorem respects_of_fallible {h : Handler σ} {f : Json → NodeContext → Except Error NodeResult}
    (hb : h.behaviour = .fallible f) (hresource : h.resource? = fun _ _ => none)
    (hf : ∀ config ctx c, f config { ctx with credentials := c } = f config ctx) :
    L.Respects h := by
  refine respects_of_call hb (fun _ _ _ _ => by rw [hresource])
    fun config ctx ctx' hctx s s' hs => ?_
  obtain ⟨c, -, rfl⟩ := hctx
  exact ⟨hf config ctx c, hs⟩

/-- The handler of nested workflows leaves everything to the engine. -/
theorem respects_subWorkflowHandler : L.Respects (subWorkflowHandler σ) :=
  ⟨fun _ _ _ _ => rfl, fun hnests config _ _ hctx => hnests config hctx⟩

/-! ### Runs -/

section

variable {e e' : Engine σ τ} {nested nested' : NestedRun σ} {session session' : Session σ}

theorem parallel (he : L.Engines e e') (hcovers : L.Covers e.registry)
    (hnests : L.Nests nested nested') (graph : Graph) (name : String) (runId : Option String) :
    Walk.Parallel ⟨graph, name, e, runId, nested⟩ ⟨graph, name, e', runId, nested'⟩ L.States := by
  obtain ⟨c, hc, rfl⟩ := he
  let w : Walk σ τ := ⟨graph, name, e, runId, nested⟩
  let w' : Walk σ τ := ⟨graph, name, { e with credentials := c }, runId, nested'⟩
  have hctx : ∀ node input k,
      L.Snapshots (w.nodeContext node input k) (w'.nodeContext node input k) :=
    fun _ _ _ => ⟨c, hc, rfl⟩
  exact {
    graph := rfl
    settings := rfl
    registry := rfl
    context := States.context
    breakers := States.breakers
    clock := fun h => L.clock h.session
    note := fun h _ => ⟨h.context, h.breakers, h.store, h.session⟩
    onContext := fun h f => ⟨congrArg f h.context, h.breakers, h.store, h.session⟩
    settle := fun h _ => ⟨h.context, rfl, h.store, h.session⟩
    count := fun h k => ⟨h.context, h.breakers, h.store, L.count h.session k⟩
    report := fun {s s'} h r => by
      have hnow : s'.now = s.now := congrArg Clock.wall (L.clock h.session)
      simp only [Walk.report, hnow, h.store]
      cases e.sink with
      | none => exact h
      | some sink =>
        cases runId with
        | none => exact h
        | some id => exact ⟨h.context, h.breakers, rfl, h.session⟩
    resource := fun hr node input k => (hcovers hr).resource node.config (hctx node input k)
    call := fun hr node input k s s' h => by
      have hinvoke := (hcovers hr).invoke hnests node.config (hctx node input k)
      obtain ⟨hsame, hsession⟩ := hinvoke h.session
      exact ⟨hsame, h.context, h.breakers, h.store, hsession⟩ }

/-- **Two runs end alike** if all handlers answer alike, and so do the ways to run the workflows of
nodes. -/
theorem runWith_agrees (he : L.Engines e e') (hcovers : L.Covers e.registry)
    (hnests : L.Nests nested nested') (workflow : Workflow) (input : Json)
    (hs : L.Sessions session session') (store : τ) :
    (e.runWith nested workflow input session store).Agrees L.States
      (e'.runWith nested' workflow input session' store) := by
  have hp := parallel he hcovers hnests
  have hid : session'.upcomingId = session.upcomingId := congrArg Identifier.ofNat (L.nextId hs)
  have hnow : session'.now = session.now := congrArg Clock.wall (L.clock hs)
  have helapsed : session'.elapsed = session.elapsed := congrArg Clock.elapsed (L.clock hs)
  obtain ⟨hsink, hdepth, hbreakers⟩ :
      e'.sink = e.sink ∧ e'.depth = e.depth ∧ e'.breakers = e.breakers := by
    obtain ⟨c, -, rfl⟩ := he
    exact ⟨rfl, rfl, rfl⟩
  have hstart : ∀ context (kept : τ), L.States
      (e.initialState context (session.startRun e.depth) kept)
      (e'.initialState context (session'.startRun e.depth) kept) :=
    fun _ _ => ⟨rfl, hbreakers, rfl, L.startRun hs _⟩
  unfold Engine.runWith
  simp only [hid, hnow, helapsed, hsink, hdepth]
  cases e.sink with
  | none => exact Engine.runRecorded_parallel (fun g => hp g _ _) input (hstart _ _)
  | some sink =>
    rcases hc : sink.create session.upcomingId session.now workflow.name input store with
      ⟨error | runId, kept⟩
    · simp only [hc]
      exact Engine.fail_parallel (hp _ _ _) _ (hstart _ _) error
    · simp only [hc]
      exact Engine.runRecorded_parallel (fun g => hp g _ _) input (hstart _ _)

end

end Likeness

/-! ### The workflows of nodes -/

namespace SubWorkflow

/-- **Snapshots that start the same workflow** from the configuration of a node, with the same name
and the same input. -/
structure SameStart (config : Json) (ctx ctx' : NodeContext) : Prop where
  settings : ctx'.settings = ctx.settings
  depth : ctx'.depth = ctx.depth
  userId : ctx'.userId = ctx.userId
  name : ∀ c, Config.decode (.ofJson config) = .ok c →
    (c.workflow ctx').name = (c.workflow ctx).name
  input : ∀ c, Config.decode (.ofJson config) = .ok c → c.inputFor ctx' = c.inputFor ctx

variable {L : Likeness σ} {registry : Option (Registry σ)} {inner inner' : NestedRun σ}
  {config : Json} {ctx ctx' : NodeContext}

/-- **The workflow of a node ends alike** wherever the same one starts. -/
theorem runWith_carries (hcovers : ∀ r, registry = some r → L.Covers r)
    (hnests : L.Nests inner inner') (hstart : SameStart config ctx ctx')
    (hc : L.Providers ctx.credentials ctx'.credentials) :
    Carries L.Sessions (runWith registry inner config ctx)
      (runWith registry inner' config ctx') := by
  intro s s' hs
  unfold runWith
  rw [hstart.settings, hstart.depth]
  cases hdecode : Config.decode (.ofJson config) with
  | error e => exact ⟨rfl, hs⟩
  | ok c =>
    split_ifs with hdeep
    · exact ⟨rfl, hs⟩
    · cases registry with
      | none => exact ⟨rfl, hs⟩
      | some registry =>
        have hengines : L.Engines (engine registry ctx) (engine registry ctx') := by
          refine ⟨ctx'.credentials, hc, ?_⟩
          simp only [engine, hstart.settings, hstart.depth, hstart.userId]
        have hname := hstart.name c hdecode
        have hworkflow : c.workflow ctx' = c.workflow ctx := by
          simp only [Config.workflow] at hname ⊢
          rw [hname]
        obtain ⟨houtcome, hended⟩ := Likeness.runWith_agrees hengines (hcovers registry rfl) hnests
          (c.workflow ctx) (c.inputFor ctx) hs ()
        have hcontext := hended.context
        simp only [RunReport.state] at hcontext
        simp only [hworkflow, hstart.input c hdecode, houtcome, hcontext]
        split
        · exact ⟨rfl, hended.session⟩
        · exact ⟨rfl, hended.session⟩

/-- Credentials do not show in what is started. -/
theorem SameStart.of_snapshots (h : L.Snapshots ctx ctx') : SameStart config ctx ctx' := by
  obtain ⟨c, -, rfl⟩ := h
  exact ⟨rfl, rfl, rfl, fun _ _ => rfl, fun _ _ => rfl⟩

theorem nests_runWith (hcovers : ∀ r, registry = some r → L.Covers r)
    (hnests : L.Nests inner inner') :
    L.Nests (runWith registry inner) (runWith registry inner') := by
  intro config ctx ctx' h
  refine runWith_carries hcovers hnests (.of_snapshots h) ?_
  obtain ⟨c, hc, rfl⟩ := h
  exact hc

theorem nests_nestedRun (hcovers : ∀ r, registry = some r → L.Covers r) :
    ∀ levels, L.Nests (nestedRun registry levels) (nestedRun registry levels)
  | 0 => nests_runWith hcovers fun _ _ _ h _ _ hs => by
    obtain ⟨c, -, rfl⟩ := h
    exact ⟨rfl, hs⟩
  | levels + 1 => nests_runWith hcovers (nests_nestedRun hcovers levels)

/-- At every depth the workflow of a node ends alike. -/
theorem nests_unboundedRun (hcovers : ∀ r, registry = some r → L.Covers r) :
    L.Nests (unboundedRun registry) (unboundedRun registry) := by
  intro config ctx ctx' h
  have hlevels := nests_nestedRun hcovers (ctx.settings.maxSubworkflowDepth - ctx.depth) config h
  obtain ⟨c, hc, rfl⟩ := h
  exact hlevels

end SubWorkflow

/-- **Two runs with everything inside them end alike** if all handlers answer alike. -/
theorem Likeness.run_agrees {L : Likeness σ} {e e' : Engine σ τ} (he : L.Engines e e')
    (hcovers : L.Covers e.registry) (workflow : Workflow) (input : Json)
    {session session' : Session σ} (hs : L.Sessions session session') (store : τ) :
    (e.run workflow input session store).Agrees L.States
      (e'.run workflow input session' store) := by
  have hall : ∀ r, some e.registry = some r → L.Covers r := by
    rintro r ⟨⟩
    exact hcovers
  have hnests := SubWorkflow.nests_nestedRun hall (e.settings.maxSubworkflowDepth - e.depth)
  have hruns := runWith_agrees he hcovers hnests workflow input hs store
  obtain ⟨c, hc, rfl⟩ := he
  exact hruns

end FlowGraph
