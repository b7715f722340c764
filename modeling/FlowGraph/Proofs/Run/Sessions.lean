import FlowGraph.Proofs.Run.Start
import FlowGraph.Engine.Nested

/-! # What runs do to their session

A run touches its session in three ways only: it counts, it calls the handlers of its nodes, and it
has the workflows of its nodes run in the same way, one level deeper. So a relation between sessions
that holds for each of these, and from step to step, holds for whole runs with all the runs inside
them.

* `SessionLaw` is such a relation. It may depend on the level of a run and on the nodes it visits.
* `SessionLaw.course` carries it through a walk, `SessionLaw.nestedRun` down the levels, and
  `SessionLaw.run` says it of a run. -/

namespace FlowGraph

variable {σ τ : Type}

/-- **A law of sessions** between the beginning and the end of anything that runs do which have these
handlers and settings. `P depth nodes` is the relation for a run at a level with these nodes. -/
structure SessionLaw (registry : Registry σ) (settings : EngineSettings)
    (P : Nat → List Workflow.Node → Session σ → Session σ → Prop) : Prop where
  refl : ∀ depth nodes s, P depth nodes s s
  trans : ∀ {depth nodes s s' s''}, P depth nodes s s' → P depth nodes s' s'' → P depth nodes s s''
  count : ∀ depth nodes s c, P depth nodes s (s.count c)
  /-- A handler that works by itself is called. -/
  call : ∀ {depth nodes node h run ctx} (s : Session σ), node ∈ nodes →
    registry.resolve? node.tag = some h → h.behaviour = .call run → ctx.settings = settings →
    P depth nodes s { s with world := (run node.config ctx s.world).2 }
  /-- The workflow of a node is run one level deeper. -/
  inside : ∀ {depth nodes node h c s s'}, node ∈ nodes → registry.resolve? node.tag = some h →
    h.behaviour = .subWorkflow → SubWorkflow.Config.decode (.ofJson node.config) = .ok c →
    depth < settings.maxSubworkflowDepth → P (depth + 1) c.nodes (s.startRun (depth + 1)) s' →
    P depth nodes s s'

/-- A way to run the workflows of nodes that does not run any, or obeys a law one level deeper. -/
def NestedRun.Obeys (nested : NestedRun σ) (settings : EngineSettings)
    (P : Nat → List Workflow.Node → Session σ → Session σ → Prop) : Prop :=
  ∀ config (ctx : NodeContext) (s : Session σ), ctx.settings = settings →
    (nested config ctx s).2 = s ∨
      ∃ c, SubWorkflow.Config.decode (.ofJson config) = .ok c ∧
        ctx.depth < settings.maxSubworkflowDepth ∧
        P (ctx.depth + 1) c.nodes (s.startRun (ctx.depth + 1)) (nested config ctx s).2

namespace Walk

variable (w : Walk σ τ) (id : String) (s : RunState σ τ)

theorem session_complete (output : Json) : (w.complete id output s).session = s.session := by
  rw [complete, log, session_report, session_report]
  rfl

theorem session_skip (tag : String) : (w.skip id tag s).session = s.session := by
  rw [skip, log, session_report]
  rfl

theorem session_recordFailure (e : Error) : (w.recordFailure id e s).session = s.session := by
  rw [recordFailure, log, session_report]
  rfl

end Walk

namespace SessionLaw

variable {registry : Registry σ} {settings : EngineSettings}
  {P : Nat → List Workflow.Node → Session σ → Session σ → Prop}
  (hP : SessionLaw registry settings P)
include hP

section

variable {w : Walk σ τ} (hregistry : w.engine.registry = registry) (hsettings : w.settings = settings)
  (hnested : w.nested.Obeys settings P)

theorem noteChange (depth : Nat) (nodes : List Workflow.Node) (b b' : Breaker) (s : RunState σ τ) :
    P depth nodes s.session (Monitor.noteChange b b' s).session := by
  unfold Monitor.noteChange
  split_ifs
  · exact hP.refl _ _ _
  · exact hP.count _ _ _ _

include hregistry hsettings hnested

/-- A call of the handler of a node. -/
theorem call_walk {node : Workflow.Node} {h : Handler σ} (hn : node ∈ w.graph.nodes)
    (hr : w.engine.registry.resolve? node.tag = some h) (input : Json) (c : RunContext)
    (s : RunState σ τ) : P w.engine.depth w.graph.nodes s.session
      (w.call node h (w.nodeContext node input c) s).2.session := by
  rw [hregistry] at hr
  unfold Walk.call Handler.invoke
  cases hbehaviour : h.behaviour with
  | call run => exact hP.call s.session hn hr hbehaviour hsettings
  | subWorkflow =>
    rcases hnested node.config (w.nodeContext node input c) s.session hsettings with
      heq | ⟨k, hk, hdepth, hinside⟩
    · simp only [heq]
      exact hP.refl _ _ _
    · exact hP.inside hn hr hbehaviour hk hdepth hinside

theorem callGuarded {node : Workflow.Node} {h : Handler σ} {input : Json} {c : RunContext}
    {s s' : RunState σ τ} {outcome : Except Error NodeResult} (hn : node ∈ w.graph.nodes)
    (hr : w.engine.registry.resolve? node.tag = some h)
    (hc : w.callGuarded node h (w.nodeContext node input c) s = (outcome, s')) :
    P w.engine.depth w.graph.nodes s.session s'.session := by
  have hcall := hP.call_walk hregistry hsettings hnested hn hr input c
  unfold Walk.callGuarded at hc
  split at hc
  · have hplain := hcall s
    rwa [hc] at hplain
  · next key _ =>
    cases hb : (s.breakers.breaker key).admit? s.breakers.rule (Monitor.now s) with
    | none =>
      rw [Breakers.execute_of_none hb] at hc
      cases hc
      exact hP.refl _ _ _
    | some b =>
      rw [Breakers.execute_of_some hb] at hc
      cases hc
      exact hP.trans (hP.noteChange _ _ _ _ s)
        (hP.trans (hcall (Monitor.noteChange (s.breakers.breaker key) b s)) (hP.noteChange _ _ _ _ _))

theorem invoke {node : Workflow.Node} {h : Handler σ} {input : Json} {s s' : RunState σ τ}
    {outcome : Except Error Json} (hn : node ∈ w.graph.nodes)
    (hr : w.engine.registry.resolve? node.tag = some h)
    (hi : w.invoke node h input s = (outcome, s')) :
    P w.engine.depth w.graph.nodes s.session s'.session := by
  unfold Walk.invoke at hi
  split at hi
  · cases hi
    exact hP.refl _ _ _
  · rcases hc : w.callGuarded node h (w.nodeContext node input s.context) s with ⟨answer, s₁⟩
    have hcounted := hP.trans (hP.callGuarded hregistry hsettings hnested hn hr hc)
      (hP.count _ _ _ (.node node.tag (Walk.statusText answer)))
    rw [hc] at hi
    cases answer with
    | error e =>
      cases hi
      exact hcounted
    | ok result =>
      cases hi
      rw [Walk.session_complete]
      exact hcounted

/-- **A walk** obeys the law, whatever its tasks. -/
theorem course {task : Task} {s s' : RunState σ τ} {o : Except Error Unit}
    (hc : w.Course task s o s') : P w.engine.depth w.graph.nodes s.session s'.session := by
  have hinvoke : ∀ {enclosing cause id input s node h outcome s₁},
      w.graph.node? id = some node → w.engine.registry.resolve? node.tag = some h →
      w.invoke node h input (Walk.enter enclosing cause id input s) = (outcome, s₁) →
      P w.engine.depth w.graph.nodes s.session s₁.session := by
    intro enclosing cause id input s node h outcome s₁ hn hr hi
    have hcalled := hP.invoke hregistry hsettings hnested (List.mem_of_find?_eq_some hn) hr hi
    exact hcalled
  induction hc with
  | skipped hw hn hr =>
    rw [Walk.session_skip]
    exact hP.refl _ _ _
  | failed hw hn hr hi hc ih => exact hP.trans (hinvoke hn hr hi) ih
  | dispatched hw hn hr hi hf hc ih => exact hP.trans (hinvoke hn hr hi) ih
  | tooDeep hw hn hr hi hf hd hc ih => exact hP.trans (hinvoke hn hr hi) ih
  | looped hw hn hr hi hf hd hc ih => exact hP.trans (hinvoke hn hr hi) ih
  | recovered hr hc ih => rwa [Walk.session_recordFailure] at ih
  | unrecovered hr =>
    rw [Walk.session_recordFailure]
    exact hP.refl _ _ _
  | sweepNil => exact hP.refl _ _ _
  | sweepStop hc ih => exact ih
  | sweepNext hc hn ih ihn => exact hP.trans ih ihn
  | passesNil => exact hP.refl _ _ _
  | passesStop i hleft hc ih => exact ih
  | passesNext i hleft hc hn ih ihn => exact hP.trans ih ihn

end

/-! ### Runs -/

/-- A run with a given way to run the workflows inside it. -/
theorem runWith {e : Engine σ τ} {nested : NestedRun σ} (hregistry : e.registry = registry)
    (hsettings : e.settings = settings) (hnested : nested.Obeys settings P) (workflow : Workflow)
    (input : Json) (session : Session σ) (store : τ) :
    P e.depth workflow.nodes (session.startRun e.depth)
      (e.runWith nested workflow input session store).session := by
  have hwalk : ∀ {w : Walk σ τ} {trigger s o s'}, w.engine = e → w.nested = nested →
      w.graph = workflow.graph → w.Course (.visit [] .start trigger input) s o s' →
      P e.depth workflow.nodes s.session s'.session := by
    rintro w trigger s o s' rfl rfl hgraph hcourse
    have hnodes : w.graph.nodes = workflow.nodes := congrArg Graph.nodes hgraph
    exact hnodes ▸ hP.course hregistry hsettings hnested hcourse
  obtain ⟨outcome, s, hrun, hs⟩ := e.runWith_finish nested workflow input session store
    (I := fun s => P e.depth workflow.nodes (session.startRun e.depth) s.session)
    (fun _ _ => hP.refl _ _ _)
    (fun w report s hs => (Walk.session_report w report s).symm ▸ hs)
    (fun c s hs => hP.trans hs (hP.count _ _ _ c))
    (fun hengine hnested' hgraph hcourse hs =>
      hP.trans hs (hwalk hengine hnested' hgraph hcourse))
  exact hrun ▸ hs

theorem runWith_nested {inner : NestedRun σ} (hinner : inner.Obeys settings P) :
    NestedRun.Obeys (SubWorkflow.runWith (some registry) inner) settings P := by
  intro config ctx s hsettings
  unfold SubWorkflow.runWith
  cases hconfig : SubWorkflow.Config.decode (.ofJson config) with
  | error e => exact .inl rfl
  | ok c =>
    simp only
    split_ifs with hdepth
    · exact .inl rfl
    · have hrun := hP.runWith (e := SubWorkflow.engine registry ctx) rfl hsettings hinner
        (c.workflow ctx) (c.inputFor ctx) s ()
      refine .inr ⟨c, rfl, hsettings ▸ Nat.lt_of_not_le hdepth, ?_⟩
      split <;> exact hrun

theorem nestedRun : ∀ levels,
    NestedRun.Obeys (FlowGraph.nestedRun (some registry) levels) settings P
  | 0 => hP.runWith_nested fun _ _ _ _ => .inl rfl
  | levels + 1 => hP.runWith_nested (nestedRun levels)

/-- **A run obeys the law**, with all the runs inside it. -/
theorem run {e : Engine σ τ} (hregistry : e.registry = registry) (hsettings : e.settings = settings)
    (workflow : Workflow) (input : Json) (session : Session σ) (store : τ) :
    P e.depth workflow.nodes (session.startRun e.depth)
      (e.run workflow input session store).session := by
  subst hregistry
  exact hP.runWith rfl hsettings (hP.nestedRun _) workflow input session store

end SessionLaw

end FlowGraph
