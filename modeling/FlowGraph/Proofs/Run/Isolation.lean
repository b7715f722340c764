import FlowGraph.Proofs.Run.Likeness
import FlowGraph.Proofs.Run.Start

/-! # Nested workflows are isolated

The workflow of a node is run by an engine of its own. What it gives depends on its configuration,
its input and what the engine around it hands down, and on nothing else of the run around it: not
on outputs, variables and loops, not on the breakers, and not on the counters of the process. In the
other direction nothing that happens inside shows in the run around it but one entry of the node.

* `Likeness.uncounted` compares sessions in which the same time has come and the same identifiers
  are coming. Counters do not steer a run, whatever its handlers are.
* `Walk.visit_unnamed` says what a visit does to a run before the walk goes on, if the handler names
  no resource.
* `Walk.subWorkflow_isolated` says both of the handler of nested workflows. -/

namespace FlowGraph

variable {σ τ : Type}

/-! ### Counters -/

/-- Sessions with one world and the same coming identifiers, whatever they have counted. -/
def Likeness.uncounted (σ : Type) : Likeness σ where
  Sessions s s' := s'.world = s.world ∧ s'.nextId = s.nextId
  Providers c c' := c' = c
  clock h := congrArg World.clock h.1
  nextId h := h.2
  count h _ := h
  startRun h _ := ⟨h.1, congrArg (· + 1) h.2⟩

/-- No handler sees the counters. -/
theorem Likeness.covers_uncounted (r : Registry σ) : (uncounted σ).Covers r := by
  intro tag h _
  have hsame : ∀ {ctx ctx' : NodeContext}, (uncounted σ).Snapshots ctx ctx' → ctx' = ctx := by
    rintro ctx _ ⟨c, rfl, rfl⟩
    rfl
  refine ⟨fun config ctx ctx' hctx => by rw [hsame hctx], fun hnests config ctx ctx' hctx => ?_⟩
  unfold Handler.invoke
  cases h.behaviour with
  | call run =>
    rintro s s' ⟨hworld, hid⟩
    simp only [hsame hctx, hworld]
    exact ⟨trivial, rfl, hid⟩
  | subWorkflow => exact hnests config hctx

namespace Walk

/-! ### What a visit leaves in a run -/

section

variable {w : Walk σ τ} {node : Workflow.Node} {h : Handler σ}

/-- What a node gives, if no breaker keeps its handler from being called. -/
def answer (w : Walk σ τ) (node : Workflow.Node) (h : Handler σ) (ctx : NodeContext)
    (session : Session σ) : Except Error Json :=
  match missingField? node.config h.requiredFields with
  | some field => .error (.missingField node.id field)
  | none => (h.invoke w.nested node.config ctx session).1.map (·.data)

/-- Goes on from a failure that is noted: an error handler stands in, if there is one. -/
def standIn (w : Walk σ τ) (go : Onward σ τ) (id : String) (e : Error) (s : RunState σ τ) :
    Except Error Unit × RunState σ τ :=
  match w.recovery? id with
  | some handler => go (.failure id) handler (failureInput id e) s
  | none => (.error e, s)

/-- **A visit goes on** from the state `s₁` with the answer of its node, which started in the
context `started`: the context has got the output or the failure of the node and nothing else. -/
def Resumes (w : Walk σ τ) (go : Onward σ τ) (flow : ControlFlow) (id : String)
    (started : RunContext) (visited : Except Error Unit × RunState σ τ) (s₁ : RunState σ τ) :
    Except Error Json → Prop
  | .ok output =>
    s₁.context = started.complete id output ∧ visited = w.dispatch go flow id output s₁
  | .error e =>
    s₁.context = started.recordError id e.message s₁.now ∧ visited = w.standIn go id e s₁

/-- A node whose handler names no resource gives its answer, and comes to no breaker. -/
theorem invoke_of_unnamed (hres : ∀ ctx, h.resource? node.config ctx = none) (input : Json)
    (s : RunState σ τ) :
    (w.invoke node h input s).1 = w.answer node h (w.nodeContext node input s.context) s.session ∧
      (w.invoke node h input s).2.breakers = s.breakers := by
  unfold invoke answer callGuarded
  cases missingField? node.config h.requiredFields with
  | some field => exact ⟨rfl, rfl⟩
  | none =>
    let ctx := w.nodeContext node input s.context
    have hcalled : (w.call node h ctx s).1 = (h.invoke w.nested node.config ctx s.session).1 := rfl
    have hbreakers : (w.call node h ctx s).2.breakers = s.breakers := rfl
    simp only [hres, ← hcalled, ctx]
    rcases hcall : w.call node h ctx s with ⟨e | result, s₁⟩ <;> rw [hcall] at hbreakers
    · exact ⟨rfl, hbreakers⟩
    · exact ⟨rfl, (told_complete w node.id result.data _).breakers.trans hbreakers⟩

/-- **What a visit leaves in a run** before the walk goes on, if its handler names no resource: when
the node started, and its output or its failure. -/
theorem visit_unnamed {id : String} (hn : w.graph.node? id = some node)
    (hr : w.engine.registry.resolve? node.tag = some h)
    (hres : ∀ ctx, h.resource? node.config ctx = none) (fuel : Nat) (enclosing : List ActiveVisit)
    (cause : Cause) (input : Json) (s : RunState σ τ) :
    let started := s.context.checkpoint id s.now
    ∃ s₁, s₁.breakers = s.breakers ∧
      w.Resumes (w.visit fuel (⟨id, cause⟩ :: enclosing)) h.controlFlow id started
        (w.visit (fuel + 1) enclosing cause id input s) s₁
        (w.answer node h (w.nodeContext node input started) s.session) := by
  intro started
  obtain rfl := Graph.id_of_node? hn
  let entered := enter enclosing cause node.id input s
  have hvisit : w.visit (fuel + 1) enclosing cause node.id input s =
      w.visitWith (w.visit fuel (⟨node.id, cause⟩ :: enclosing)) node h input entered := by
    simp only [visit_succ, visitVia, hn, hr]
    rfl
  obtain ⟨hanswer, hbreakers⟩ := invoke_of_unnamed (w := w) hres input entered
  change _ = w.answer node h (w.nodeContext node input started) s.session at hanswer
  rw [← hanswer, hvisit, visitWith]
  rcases hi : w.invoke node h input entered with ⟨e | output, s₁⟩ <;> rw [hi] at hbreakers
  · let noted := s₁.note (.failed node.id e)
    have htold := told_recordFailure w node.id e noted
    have hnow : (w.recordFailure node.id e noted).now = s₁.now :=
      congrArg Session.now (session_report w _ _)
    obtain ⟨hcontext, -⟩ := invoke_error hi
    refine ⟨w.recordFailure node.id e noted, htold.breakers.trans hbreakers, ?_, rfl⟩
    rw [htold.context, hnow]
    simp only [noted, RunState.onContext_context, RunState.note_context, hcontext]
    rfl
  · obtain ⟨hcontext, -⟩ := invoke_ok hi
    exact ⟨s₁, hbreakers, hcontext, rfl⟩

end

/-! ### The workflow of a node -/

/-- **The workflow of a node is isolated from the run around it.** Let two runs, of any workflows,
call the handler of nested workflows with one configuration, from snapshots that start the same
workflow with the same credentials. However much else differs, the snapshots and the runs around
them, their breakers and counters, both calls give the same, as long as they begin in the same world
and draw the same identifiers, which the handlers inside may look at. In turn, a visit of the node
changes nothing in the run around it before the walk goes on but the entries of the node itself, and
no breaker. -/
theorem subWorkflow_isolated {w : Walk σ τ} {registry : Option (Registry σ)}
    (hnested : w.nested = SubWorkflow.unboundedRun registry) (node : Workflow.Node) :
    (∀ {τ' : Type} (w' : Walk σ τ') (node' : Workflow.Node) (ctx ctx' : NodeContext)
        (s : RunState σ τ) (s' : RunState σ τ'),
      w'.nested = SubWorkflow.unboundedRun registry → node'.config = node.config →
      SubWorkflow.SameStart node.config ctx ctx' → ctx'.credentials = ctx.credentials →
      s'.session.world = s.session.world → s'.session.nextId = s.session.nextId →
        let r := w.callGuarded node (subWorkflowHandler σ) ctx s
        let r' := w'.callGuarded node' (subWorkflowHandler σ) ctx' s'
        r'.1 = r.1 ∧ r'.2.session.world = r.2.session.world ∧
          r'.2.session.nextId = r.2.session.nextId) ∧
    ∀ id, w.graph.node? id = some node →
      w.engine.registry.resolve? node.tag = some (subWorkflowHandler σ) →
      ∀ fuel enclosing cause input s,
        let started := s.context.checkpoint id s.now
        ∃ s₁, s₁.breakers = s.breakers ∧
          w.Resumes (w.visit fuel (⟨id, cause⟩ :: enclosing)) .sequential id started
            (w.visit (fuel + 1) enclosing cause id input s) s₁
            (w.answer node (subWorkflowHandler σ) (w.nodeContext node input started)
              s.session) := by
  refine ⟨?_, fun id hn hr fuel enclosing cause input s =>
    visit_unnamed hn hr (fun _ => rfl) fuel enclosing cause input s⟩
  intro τ' w' node' ctx ctx' s s' hnested' hconfig hstart hcredentials hworld hid
  have hcovers : ∀ r, registry = some r → (Likeness.uncounted σ).Covers r :=
    fun r _ => Likeness.covers_uncounted r
  obtain ⟨hsame, hended⟩ := SubWorkflow.runWith_carries hcovers
    (SubWorkflow.nests_unboundedRun hcovers) hstart hcredentials ⟨hworld, hid⟩
  rw [← SubWorkflow.unboundedRun_eq] at hsame hended
  have hcall : ∀ {τ : Type} (w : Walk σ τ) (node : Workflow.Node) ctx s,
      let ran := w.nested node.config ctx s.session
      let r := w.callGuarded node (subWorkflowHandler σ) ctx s
      r.1 = ran.1 ∧ r.2.session = ran.2 := fun _ _ _ _ => ⟨rfl, rfl⟩
  obtain ⟨houtcome, hsession⟩ := hcall w node ctx s
  obtain ⟨houtcome', hsession'⟩ := hcall w' node' ctx' s'
  rw [hnested] at houtcome hsession
  rw [hnested', hconfig] at houtcome' hsession'
  intro r r'
  rw [houtcome, houtcome', hsession, hsession']
  exact ⟨hsame, hended.1, hended.2⟩

/-- Handlers: a trigger, an error handler, one that fails its resource, and nested workflows. -/
def nesting : Registry Unit := ⟨[
  ("error_handler", Engine.constant "error_handler" .sequential),
  ("refuse", { Engine.refusing with resource? := fun _ _ => some "remote" }),
  ("sub_workflow", subWorkflowHandler Unit),
  ("trigger", Engine.constant "trigger" .sequential)]⟩

/-- A node that holds a workflow with a call that fails. -/
def nest : Workflow.Node where
  id := "nest"
  tag := "sub_workflow"
  config := .obj [
    ("edges", .arr [.obj [("source", .str "start"), ("target", .str "call")],
      .obj [("source", .str "call"), ("target", .str "rescue")]]),
    ("nodes", .arr [.obj [("id", .str "start"), ("type", .str "trigger")],
      .obj [("id", .str "call"), ("type", .str "refuse")],
      .obj [("id", .str "rescue"), ("type", .str "error_handler")]])]

/-- A walk through that node, in which one failure opens a breaker. -/
def nestWalk : Walk Unit Unit where
  graph := ⟨[nest], []⟩
  workflowName := "outer"
  engine := { registry := nesting, settings := { breaker := { failureThreshold := 1 } } }
  runId := none
  nested := SubWorkflow.unboundedRun (some nesting)

/-- Inside, a call opens the breaker of its resource. Outside that breaker stays closed if it was
closed, and if it was open it keeps nothing inside from being called. -/
theorem subWorkflow_isolated_nest :
    let calm : RunState Unit Unit :=
      { context := {}, breakers := nestWalk.engine.breakers, session := .dawn, store := () }
    let busy : RunState Unit Unit :=
      { context := { executionId := "other", vars := [("x", .null)], outputs := [("y", .null)],
                     loops := [⟨"l", 1, 2⟩] }
        breakers := ⟨⟨1, 30000⟩, [("remote", ⟨.opened, 1, some 0⟩)]⟩
        session := Session.dawn.count (.run "failed"), store := () }
    let call := fun s : RunState Unit Unit => nestWalk.callGuarded nest (subWorkflowHandler Unit)
      (nestWalk.nodeContext nest .null s.context) s
    calm.breakers.state "remote" 0 = .closed ∧ busy.breakers.state "remote" 0 = .opened ∧
      (call calm).1.isOk = true ∧ (call busy).1 = (call calm).1 ∧
      (call calm).2.session.metrics.counts.lookup (.transition "open") = some 1 ∧
      ∃ (s₁ : RunState Unit Unit) (output : Json), s₁.breakers = calm.breakers ∧
        s₁.context = (calm.context.checkpoint "nest" calm.now).complete "nest" output := by
  intro calm busy call
  have hnone : (SubWorkflow.Config.decode (.ofJson nest.config)).toOption.bind (·.input) = none :=
    rfl
  have hstart : SubWorkflow.SameStart nest.config (nestWalk.nodeContext nest .null calm.context)
      (nestWalk.nodeContext nest .null busy.context) := by
    refine ⟨rfl, rfl, rfl, fun _ _ => rfl, fun c hc => ?_⟩
    rw [hc] at hnone
    have hinput : c.input = none := hnone
    simp only [SubWorkflow.Config.inputFor, hinput]
    rfl
  obtain ⟨hsame, hframe⟩ := subWorkflow_isolated (w := nestWalk) rfl nest
  obtain ⟨houtcome, -⟩ := hsame nestWalk nest _ _ calm busy rfl rfl hstart rfl rfl rfl
  obtain ⟨s₁, hbreakers, hended⟩ := hframe "nest" rfl rfl 0 [] .start .null calm
  let answer := nestWalk.answer nest (subWorkflowHandler Unit) (nestWalk.nodeContext nest .null
    (calm.context.checkpoint "nest" calm.now)) calm.session
  have hok : answer.isOk = true := by decide +kernel
  have hresumes : nestWalk.Resumes _ _ _ _ _ s₁ answer := hended
  rcases answer with e | output
  · cases hok
  · exact ⟨rfl, rfl, by decide +kernel, houtcome, by decide +kernel, s₁, output, hbreakers,
      hresumes.1⟩

end Walk

end FlowGraph
