import FlowGraph.Proofs.Run.Failure
import FlowGraph.Proofs.Run.Isolation
import FlowGraph.Proofs.Run.Sessions
import FlowGraph.Proofs.Walk.Moments
import FlowGraph.Proofs.Walk.Span

/-! # Runs inside runs

A node may hold a workflow, a node of that workflow another one, and so on. Each of them is run one
level deeper than the run around it, and none below the limit of the settings, so all the runs
inside a run are between it and the limit (`Engine.run_deepens`). At the limit a node that holds a
workflow just fails.

A failure goes the other way. What ends a run inside another one is the failure of the node that
holds its workflow, under the name of the workflow, and if that node has no error handler it ends
the run around it in turn (`Engine.EndedBy.outcome`). The names add up from the outside in, and what
the error is does not change (`Error.within`).

* `Engine.run_nesting` puts it together. -/

namespace FlowGraph

variable {σ τ : Type}

/-! ### Errors of workflows within workflows -/

namespace Error

/-- An error of a workflow within others, the outermost first. -/
def within (names : List String) (e : Error) : Error := names.foldr .subWorkflow e

/-- How the wording of an error starts outside of the workflow that it is from. -/
def prefixOf (name : String) : String := "Sub-workflow '" ++ name ++ "' failed: "

variable (names : List String) (e : Error)

theorem code_within : (e.within names).code = e.code := by
  induction names with
  | nil => rfl
  | cons name names ih => exact ih

theorem isTransient_within : (e.within names).isTransient = e.isTransient := by
  induction names with
  | nil => rfl
  | cons name names ih => exact ih

theorem countsAgainstBreaker_within :
    (e.within names).countsAgainstBreaker = e.countsAgainstBreaker := by
  induction names with
  | nil => rfl
  | cons name names ih => exact ih

theorem message_within :
    (e.within names).message = String.join (names.map prefixOf) ++ e.message := by
  induction names with
  | nil => simp [within]
  | cons name names ih =>
    change prefixOf name ++ (e.within names).message = _
    rw [ih, List.map_cons, String.join_cons, String.append_assoc]

end Error

/-! ### How deep runs are -/

/-- Sessions between which runs started that are deeper than `depth` and not below `limit`. -/
def Session.Deepens (depth limit : Nat) (s s' : Session σ) : Prop :=
  ∃ inner, s'.depths = inner ++ s.depths ∧ ∀ d ∈ inner, depth < d ∧ d ≤ limit

namespace Session.Deepens

variable {depth limit : Nat} {s s' s'' : Session σ}

theorem of_eq (h : s'.depths = s.depths) : Deepens depth limit s s' := ⟨[], h, by simp⟩

theorem trans (h : Deepens depth limit s s') (h' : Deepens depth limit s' s'') :
    Deepens depth limit s s'' := by
  obtain ⟨inner, hs, hall⟩ := h
  obtain ⟨inner', hs', hall'⟩ := h'
  exact ⟨inner' ++ inner, by rw [hs', hs, List.append_assoc],
    List.forall_mem_append.mpr ⟨hall', hall⟩⟩

/-- A run one level deeper, with all the runs inside it. -/
theorem below (h : Deepens (depth + 1) limit (s.startRun (depth + 1)) s') (hlt : depth < limit) :
    Deepens depth limit s s' := by
  obtain ⟨inner, hs, hall⟩ := h
  refine ⟨inner ++ [depth + 1], by rw [hs, List.append_assoc]; rfl, ?_⟩
  refine List.forall_mem_append.mpr ⟨fun d hd => ?_, ?_⟩
  · obtain ⟨hgt, hle⟩ := hall d hd
    exact ⟨Nat.lt_of_succ_lt hgt, hle⟩
  · simpa using Nat.succ_le_of_lt hlt

end Session.Deepens

/-- **No run starts others but deeper ones**, and none below the limit: this is a law of sessions. -/
theorem Session.law_deepens (registry : Registry σ) (settings : EngineSettings) :
    SessionLaw registry settings fun depth _ =>
      Session.Deepens depth settings.maxSubworkflowDepth where
  refl _ _ _ := .of_eq rfl
  trans h h' := h.trans h'
  count _ _ _ _ := .of_eq rfl
  call _ _ _ _ _ := .of_eq rfl
  inside _ _ _ _ hlt h := h.below hlt

/-- **How deep the runs inside a run are**: deeper than the run and not below the limit. -/
theorem Engine.run_deepens (e : Engine σ τ) (workflow : Workflow) (input : Json)
    (session : Session σ) (store : τ) :
    Session.Deepens e.depth e.settings.maxSubworkflowDepth (session.startRun e.depth)
      (e.run workflow input session store).session :=
  (Session.law_deepens e.registry e.settings).run rfl rfl workflow input session store

/-! ### Nodes that hold a workflow -/

/-- **A node that holds a workflow**, with all that its handler needs to run it. -/
structure Engine.Holds (e : Engine σ τ) (g : Graph) (node : Workflow.Node)
    (c : SubWorkflow.Config) : Prop where
  declared : g.node? node.id = some node
  handler : e.registry.resolve? node.tag = some (subWorkflowHandler σ)
  fields : missingField? node.config (subWorkflowHandler σ).requiredFields = none
  config : SubWorkflow.Config.decode (.ofJson node.config) = .ok c

namespace SubWorkflow

variable (registry : Registry σ) (inner : NestedRun σ) (config : Json) (ctx : NodeContext)
  (s : Session σ)

/-- At the limit of levels no workflow of a node is run. -/
theorem runWith_tooDeep (hlimit : ctx.settings.maxSubworkflowDepth ≤ ctx.depth) :
    ∃ err, (runWith (some registry) inner config ctx s).1 = .error err ∧
      ∀ c, Config.decode (.ofJson config) = .ok c →
        err = .node (.nestedTooDeep ctx.settings.maxSubworkflowDepth) := by
  unfold runWith
  cases Config.decode (.ofJson config) with
  | error e => exact ⟨_, rfl, fun c hc => by cases hc⟩
  | ok c =>
    simp only [if_pos hlimit]
    exact ⟨_, rfl, fun _ _ => rfl⟩

/-- A nested run that fails gives its error the name of the workflow. -/
theorem runWith_error {c : Config} {f : RunFailure}
    (hconfig : Config.decode (.ofJson config) = .ok c)
    (hlimit : ctx.depth < ctx.settings.maxSubworkflowDepth)
    (hrun : ((engine registry ctx).runWith inner (c.workflow ctx) (c.inputFor ctx) s ()).outcome =
      .error f) :
    (runWith (some registry) inner config ctx s).1 =
      .error (.subWorkflow (c.workflow ctx).name f.error) := by
  unfold runWith
  rw [hconfig]
  simp only [if_neg (Nat.not_le.mpr hlimit), hrun]

end SubWorkflow

namespace Walk

variable {w : Walk σ τ} {node : Workflow.Node} {input : Json} {s : RunState σ τ}

/-- A node fails as the run of its workflow does. -/
theorem invoke_of_nested {err : Error}
    (hfields : missingField? node.config (subWorkflowHandler σ).requiredFields = none)
    (hinner : (w.nested node.config (w.nodeContext node input s.context) s.session).1 =
      .error err) : (w.invoke node (subWorkflowHandler σ) input s).1 = .error err := by
  rw [(invoke_of_unnamed (fun _ => rfl) input s).1]
  unfold answer
  rw [hfields]
  exact congrArg (Except.map _) hinner

variable (hnested : w.nested = SubWorkflow.unboundedRun (some w.engine.registry))
include hnested

/-- At the limit of levels a node that holds a workflow fails. -/
theorem invoke_tooDeep (hlimit : w.settings.maxSubworkflowDepth ≤ w.engine.depth)
    (node : Workflow.Node) (input : Json) (s : RunState σ τ) :
    ∃ err, (w.invoke node (subWorkflowHandler σ) input s).1 = .error err ∧
      ∀ c, w.engine.Holds w.graph node c →
        err = .node (.nestedTooDeep w.settings.maxSubworkflowDepth) := by
  cases hfields : missingField? node.config (subWorkflowHandler σ).requiredFields with
  | some field =>
    refine ⟨.missingField node.id field, ?_, fun c hc => ?_⟩
    · unfold invoke
      rw [hfields]
    · rw [hc.fields] at hfields
      cases hfields
  | none =>
    obtain ⟨err, herr, hdeep⟩ := SubWorkflow.runWith_tooDeep w.engine.registry
      (SubWorkflow.unboundedRun (some w.engine.registry)) node.config
      (w.nodeContext node input s.context) s.session hlimit
    rw [← SubWorkflow.unboundedRun_eq, ← hnested] at herr
    exact ⟨err, invoke_of_nested hfields herr, fun c hc => hdeep c hc.config⟩

/-- A nested run that fails is the failure of its node, under the name of its workflow. -/
theorem invoke_nested_error {c : SubWorkflow.Config} {f : RunFailure} {ctx : NodeContext}
    (hholds : w.engine.Holds w.graph node c)
    (hlimit : w.engine.depth < w.settings.maxSubworkflowDepth)
    (hctx : ctx = w.nodeContext node input s.context)
    (hrun : ((SubWorkflow.engine w.engine.registry ctx).run (c.workflow ctx) (c.inputFor ctx)
      s.session ()).outcome = .error f) :
    (w.invoke node (subWorkflowHandler σ) input s).1 =
      .error (.subWorkflow (c.workflow ctx).name f.error) := by
  subst hctx
  rw [Engine.run_eq_runWith] at hrun
  refine invoke_of_nested hholds.fields ?_
  rw [hnested, SubWorkflow.unboundedRun_eq]
  exact SubWorkflow.runWith_error _ _ _ _ _ hholds.config hlimit hrun

end Walk

/-! ### Failures end the runs around them -/

namespace Walk

variable {w : Walk σ τ} {s t : RunState σ τ} {o : Except Error Unit}

/-- **A task leads to another**: while it is done from a state on, the other one is begun in
another state. -/
def LeadsTo (w : Walk σ τ) : Task × RunState σ τ → Task × RunState σ τ → Prop :=
  Relation.ReflTransGen fun a b => w.Includes a.1 a.2 b.1 b.2

/-- A visit that completes leads to the first of the children. -/
theorem leadsTo_child {enclosing : List ActiveVisit} {cause : Cause} {id child : String}
    {input output : Json} {rest : List String} {node : Workflow.Node} {h : Handler σ}
    {s₁ : RunState σ τ} (hn : w.graph.node? id = some node)
    (hr : w.engine.registry.resolve? node.tag = some h)
    (hi : w.invoke node h input (enter enclosing cause id input s) = (.ok output, s₁))
    (hf : h.controlFlow = .sequential) (hchildren : w.flowChildren id = child :: rest) :
    w.LeadsTo (.visit enclosing cause id input, s)
      (.visit (⟨id, cause⟩ :: enclosing) (.output id) child output, s₁) := by
  have hselected : w.selected h.controlFlow id output = child :: rest := by
    rw [hf]
    exact hchildren
  have hsweep := Includes.dispatched hn hr hi (by rw [hf]; decide)
  rw [hselected] at hsweep
  exact .head (b := (_, s₁)) hsweep (.single .sweepFirst)

/-- A failure of a task ends every task that has led to it. -/
theorem LeadsTo.ends (hg : w.graph.Valid) {a b : Task × RunState σ τ} (h : w.LeadsTo a b) :
    ∀ {o t}, w.Course a.1 a.2 o t → ∃ o' t', w.Course b.1 b.2 o' t' ∧
      ∀ err, o' = .error err → o = .error err := by
  induction h using Relation.ReflTransGen.head_induction_on with
  | refl => exact fun hc => ⟨_, _, hc, fun _ ho => ho⟩
  | head hfirst _ ih =>
    intro o t hc
    obtain ⟨o₁, t₁, hc₁, -, herr₁⟩ := hfirst.ends hg hc
    obtain ⟨o', t', hc', herr⟩ := ih hc₁
    exact ⟨o', t', hc', fun err ho => herr₁ err (herr err ho)⟩

section

variable {enclosing : List ActiveVisit} {cause : Cause} {id : String} {input : Json}
  {node : Workflow.Node} {h : Handler σ} {err : Error} (hn : w.graph.node? id = some node)
  (hr : w.engine.registry.resolve? node.tag = some h)
  (hi : (w.invoke node h input (enter enclosing cause id input s)).1 = .error err)
include hn hr hi

/-- A visit whose handler fails goes on with its failure. -/
theorem Course.recover_of_invoke (hc : w.Course (.visit enclosing cause id input) s o t) :
    ∃ s₁ t', w.invoke node h input (enter enclosing cause id input s) = (.error err, s₁) ∧
      w.Course (.recover ⟨id, cause⟩ enclosing err) (s₁.note (.failed id err)) o t' ∧
      t'.journal = t.journal := by
  rcases hinvoke : w.invoke node h input (enter enclosing cause id input s) with ⟨outcome, s₁⟩
  obtain rfl : outcome = .error err := by rw [← hi, hinvoke]
  obtain ⟨t', hc', hj⟩ := (Includes.failed hn hr hinvoke).ends_visit hc
  exact ⟨s₁, t', rfl, hc', hj⟩

/-- A visit whose handler fails fails, if no error handler stands in. -/
theorem Course.error_of_invoke (hc : w.Course (.visit enclosing cause id input) s o t)
    (hunhandled : ¬ w.Handles id) : o = .error err := by
  obtain ⟨s₁, t', -, hrecover, -⟩ := hc.recover_of_invoke hn hr hi
  cases hrecover with
  | recovered hrec => exact absurd (handles_of_recovery? hrec) hunhandled
  | unrecovered => rfl

/-- A visit whose handler fails has its call, if there was one, and its failure right after it. -/
theorem Visiting.failed {after before own : List Event}
    (hv : w.Visiting enclosing cause id input after before own s o t) :
    ∃ later call, after = later ++ .failed id err :: call ∧
      (call = [] ∨ ∃ ctx, call = [.invoked ctx]) := by
  obtain ⟨s₁, t', hinvoke, hrecover, hj⟩ := hv.course.recover_of_invoke hn hr hi
  obtain ⟨rest, hrest⟩ := hrecover.suffix
  obtain ⟨call, hcalled, hcall⟩ : ∃ call, s₁.journal =
      call ++ .visited id input cause enclosing s.context.loops :: before ∧
        (call = [] ∨ ∃ ctx, call = [.invoked ctx]) := by
    rw [← hv.start_journal]
    rcases (invoke_error hinvoke).2 with hj | hj
    · exact ⟨[], hj, .inl rfl⟩
    · exact ⟨[_], hj, .inr ⟨_, rfl⟩⟩
  obtain rfl : rest ++ .failed id err :: call = own := by
    refine hv.eq_own ?_
    rw [← hj, ← hrest, RunState.note_journal, hcalled]
    simp
  obtain ⟨later, rfl, -⟩ := hv.after_eq
  exact ⟨later ++ rest, call, by simp, hcall⟩

end

end Walk

/-- A node without children has no error handler. -/
theorem Graph.not_hasErrorHandler {g : Graph} {settings : EngineSettings} {id : String}
    (h : g.children id = []) : ¬ g.HasErrorHandler settings id := by
  rintro ⟨c, hc, -⟩
  rw [h] at hc
  cases hc

namespace Engine

/-- **A run comes to run the workflow of a node**, with the snapshot `ctx` of the node and from the
session `inner` on. -/
structure Opens (e : Engine σ τ) (workflow : Workflow) (input : Json) (session : Session σ)
    (store : τ) (node : Workflow.Node) (c : SubWorkflow.Config) (ctx : NodeContext)
    (inner : Session σ) : Prop where
  holds : e.Holds workflow.graph node c
  limit : e.depth < e.settings.maxSubworkflowDepth
  reached : ∃ w trigger s₀ s₁ o enclosing cause received s,
    Walked e workflow input (e.run workflow input session store) w trigger s₀ s₁ o ∧
    w.nested = SubWorkflow.unboundedRun (some e.registry) ∧
    s₀.session = session.startRun e.depth ∧
    w.LeadsTo (.visit [] .start trigger input, s₀) (.visit enclosing cause node.id received, s) ∧
    ctx = w.nodeContext node received (s.context.checkpoint node.id s.now) ∧
    inner = s.session

/-- A run without a record whose first trigger passes on to a node that holds a workflow. -/
theorem Opens.of_first_child {e : Engine σ τ} {workflow : Workflow} {input output : Json}
    {session : Session σ} {store : τ} {d : Diagnostics} {h : Handler σ} {rest : List String}
    {s : RunState σ τ} (trigger node : Workflow.Node) (c : SubWorkflow.Config)
    (hsink : e.sink = none) (hd : validate workflow.nodes workflow.edges e.settings = .ok d)
    (hhead : (workflow.graph.triggers e.settings).head? = some trigger.id)
    (hn : workflow.graph.node? trigger.id = some trigger)
    (hr : e.registry.resolve? trigger.tag = some h) (hf : h.controlFlow = .sequential)
    (hchildren : workflow.graph.flowChildren e.settings trigger.id = node.id :: rest)
    (hholds : e.Holds workflow.graph node c) (hlimit : e.depth < e.settings.maxSubworkflowDepth) :
    let w : Walk σ τ :=
      ⟨workflow.graph, workflow.name, e, none, SubWorkflow.unboundedRun (some e.registry)⟩
    let s₀ := e.initialState { executionId := session.upcomingId, vars := workflow.vars }
      (session.startRun e.depth) store
    w.invoke trigger h input (Walk.enter [] .start trigger.id input s₀) = (.ok output, s) →
    e.Opens workflow input session store node c
      (w.nodeContext node output (s.context.checkpoint node.id s.now)) s.session := by
  intro w s₀ hi
  have hlog : w.log none .info "Run started" none s₀ = s₀ := by
    simp only [w, Walk.log, Walk.report, hsink]
  have hrun : e.run workflow input session store =
      e.runRecorded w.nested workflow input none s₀ := by
    rw [run_eq_runWith]
    unfold runWith
    simp only [hsink]
    rfl
  obtain ⟨id, s₁, o, hw⟩ := runRecorded_walked hd w.nested input none session.upcomingId
    (session.startRun e.depth) store
  obtain rfl := Option.some.inj (hhead.symm.trans hw.trigger_head)
  rw [hlog, ← hrun] at hw
  have hleads := Walk.leadsTo_child hn hr hi hf hchildren
  exact ⟨hholds, hlimit, w, trigger.id, s₀, s₁, o, _, _, output, s, hw, rfl, rfl, hleads, rfl, rfl⟩

/-- **What ends a run**: the error of a run inside it, which runs the workflow of a node without an
error handler in a run inside it, and so on. The names are those of the workflows, the outermost
first; without names it is the error of the run itself. -/
inductive EndedBy : {τ : Type} → Engine σ τ → Workflow → Json → Session σ → τ → List String →
    Error → Prop
  | here {τ : Type} {e : Engine σ τ} {workflow input session store f}
    (h : (e.run workflow input session store).outcome = .error f) :
    EndedBy e workflow input session store [] f.error
  | inside {τ : Type} {e : Engine σ τ} {workflow input session store node c ctx inner names err}
    (hopens : e.Opens workflow input session store node c ctx inner)
    (hunhandled : ¬ workflow.graph.HasErrorHandler e.settings node.id)
    (h : EndedBy (SubWorkflow.engine e.registry ctx) (c.workflow ctx) (c.inputFor ctx) inner ()
      names err) :
    EndedBy e workflow input session store ((c.workflow ctx).name :: names) err

/-- **The error of a run** is the one that ends it, under the names of the workflows around. -/
theorem EndedBy.outcome {τ : Type} {e : Engine σ τ} {workflow : Workflow} {input : Json}
    {session : Session σ} {store : τ} {names : List String} {err : Error}
    (h : EndedBy e workflow input session store names err) :
    ∃ f, (e.run workflow input session store).outcome = .error f ∧
      f.error = err.within names := by
  induction h with
  | here h => exact ⟨_, h, rfl⟩
  | @inside τ e workflow input session store node c ctx inner names err hopens hunhandled _ ih =>
    obtain ⟨f, hf, herror⟩ := ih
    obtain ⟨w, trigger, s₀, s₁, o, enclosing, cause, received, s, hw, hnested, -, hleads, hctx,
      rfl⟩ := hopens.reached
    obtain rfl := hw.engine
    rw [← hw.handles_eq] at hunhandled
    have hholds : w.engine.Holds w.graph node c := hw.graph ▸ hopens.holds
    obtain ⟨o', t', hvisit, herr⟩ := hleads.ends hw.valid hw.course
    have hfailed := Walk.invoke_nested_error
      (s := Walk.enter enclosing cause node.id received s) hnested hholds hopens.limit hctx hf
    have ho := herr _ (hvisit.error_of_invoke hholds.declared hholds.handler hfailed hunhandled)
    obtain ⟨d, hd⟩ := hw.end_error _ ho
    refine ⟨_, hd, ?_⟩
    simp only [herror]
    rfl

end Engine

namespace Engine

variable {e : Engine σ τ} {workflow : Workflow} {input : Json} {session : Session σ} {store : τ}

/-- At the limit of levels a run starts no other run. -/
theorem depths_of_limit (hlimit : e.settings.maxSubworkflowDepth ≤ e.depth) :
    (e.run workflow input session store).session.depths = e.depth :: session.depths := by
  obtain ⟨inner, hdepths, hall⟩ := e.run_deepens workflow input session store
  have hnone : inner = [] := by
    refine List.eq_nil_iff_forall_not_mem.mpr fun d hd => ?_
    obtain ⟨hgt, hle⟩ := hall d hd
    omega
  rw [hdepths, hnone]
  rfl

/-- **Runs inside a run.** The runs that start inside a run are deeper than it and not below the
limit of the settings. A run at the limit starts none, and every node in it that is to run a
workflow fails right after its call, because of the limit if nothing else is wrong. The error that
ends a run some levels deeper ends the whole run if there is no error handler on any level: it gets
a name for each level and stays the same in all else. -/
theorem run_nesting (e : Engine σ τ) (workflow : Workflow) (input : Json) (session : Session σ)
    (store : τ) :
    let r := e.run workflow input session store
    let limit := e.settings.maxSubworkflowDepth
    (∃ inner, r.session.depths = inner ++ e.depth :: session.depths ∧
      ∀ d ∈ inner, e.depth < d ∧ d ≤ limit) ∧
    (limit ≤ e.depth → r.session.depths = e.depth :: session.depths ∧
      ∀ after before id received cause enclosing loops node,
        r.journal = after ++ .visited id received cause enclosing loops :: before →
        workflow.graph.node? id = some node →
        e.registry.resolve? node.tag = some (subWorkflowHandler σ) →
        ∃ later call err, after = later ++ .failed id err :: call ∧
          (call = [] ∨ ∃ ctx, call = [.invoked ctx]) ∧
          ∀ c, e.Holds workflow.graph node c → err = .node (.nestedTooDeep limit)) ∧
    ∀ names err, EndedBy e workflow input session store names err →
      ∃ f, r.outcome = .error f ∧ f.error = names.foldr .subWorkflow err ∧
        f.error.code = err.code ∧ f.error.isTransient = err.isTransient ∧
        f.error.countsAgainstBreaker = err.countsAgainstBreaker ∧
        f.error.message = String.join (names.map Error.prefixOf) ++ err.message := by
  intro r limit
  refine ⟨e.run_deepens workflow input session store,
    fun hlimit => ⟨depths_of_limit hlimit, ?_⟩, ?_⟩
  · intro after before id received cause enclosing loops node hjournal hn hr
    rw [show r = _ from e.run_eq_runWith workflow input session store] at hjournal
    obtain ⟨w, own, s, o, s', hgraph, rfl, hnested, -, -, hv⟩ := runWith_visit hjournal
    rw [← hgraph] at hn ⊢
    obtain ⟨err, herr, hdeep⟩ := Walk.invoke_tooDeep hnested hlimit node received
      (Walk.enter enclosing cause id received s)
    obtain ⟨later, call, hafter, hcall⟩ := hv.failed hn hr herr
    exact ⟨later, call, err, hafter, hcall, hdeep⟩
  · intro names err h
    obtain ⟨f, hf, herror⟩ := h.outcome
    exact ⟨f, hf, herror, herror ▸ Error.code_within .., herror ▸ Error.isTransient_within ..,
      herror ▸ Error.countsAgainstBreaker_within .., herror ▸ Error.message_within ..⟩

/-- A workflow that fails. -/
def core : SubWorkflow.Config where
  name := some "core"
  nodes := [{ id := "start", tag := "trigger" }, { id := "call", tag := "refuse" }]
  edges := [⟨"start", "call"⟩]
  vars := []
  input := none

/-- A node that holds it. -/
def coreNode : Workflow.Node where
  id := "inner"
  tag := "sub_workflow"
  config := .obj [("edges", .arr [.obj [("source", .str "start"), ("target", .str "call")]]),
    ("name", .str "core"),
    ("nodes", .arr [.obj [("id", .str "start"), ("type", .str "trigger")],
      .obj [("id", .str "call"), ("type", .str "refuse")]])]

/-- A workflow with that node. -/
def box : SubWorkflow.Config where
  name := some "box"
  nodes := [{ id := "start", tag := "trigger" }, coreNode]
  edges := [⟨"start", "inner"⟩]
  vars := []
  input := none

/-- A node that holds the workflow with that node. -/
def boxNode : Workflow.Node where
  id := "outer"
  tag := "sub_workflow"
  config := .obj [("edges", .arr [.obj [("source", .str "start"), ("target", .str "inner")]]),
    ("name", .str "box"),
    ("nodes", .arr [.obj [("id", .str "start"), ("type", .str "trigger")],
      .obj [("config", coreNode.config), ("id", .str "inner"), ("type", .str "sub_workflow")]])]

/-- A workflow in a workflow in a workflow. -/
def doll : Workflow where
  nodes := [{ id := "start", tag := "trigger" }, boxNode]
  edges := [⟨"start", "outer"⟩]

/-- An engine for it. -/
def nester : Engine Unit Unit := { registry := Walk.nesting }

theorem endedBy_doll : EndedBy nester doll .null .dawn () ["box", "core"]
    (.node (.other "refused")) := by
  have hbox : Opens nester doll .null .dawn () boxNode box _ _ :=
    .of_first_child { id := "start", tag := "trigger" } _ _ rfl rfl rfl rfl rfl rfl rfl
      ⟨rfl, rfl, rfl, rfl⟩ (by decide) rfl
  refine .inside hbox (Graph.not_hasErrorHandler rfl) (.inside (.of_first_child
    { id := "start", tag := "trigger" } coreNode core rfl rfl rfl rfl rfl rfl rfl
    ⟨rfl, rfl, rfl, rfl⟩ ?_ rfl) (Graph.not_hasErrorHandler rfl) ?_)
  · exact (by decide : 1 < 5)
  · exact .here (f := ⟨_, .node (.other "refused"), _, _, _, _⟩) rfl

/-- The same engine, but no level is left. -/
def levelled : Engine Unit Unit := { nester with settings := { maxSubworkflowDepth := 0 } }

theorem run_nesting_doll :
    let r := nester.run doll .null .dawn ()
    let r' := levelled.run doll .null .dawn ()
    EndedBy nester doll .null .dawn () ["box", "core"] (.node (.other "refused")) ∧
      r.session.depths = [2, 1, 0] ∧
      (∃ f, r.outcome = .error f ∧
        f.error = .subWorkflow "box" (.subWorkflow "core" (.node (.other "refused"))) ∧
        f.error.message =
          "Sub-workflow 'box' failed: Sub-workflow 'core' failed: Node error: refused") ∧
      levelled.settings.maxSubworkflowDepth ≤ levelled.depth ∧ r'.session.depths = [0] ∧
      ∃ later call, r'.journal = later ++ .failed "outer" (.node (.nestedTooDeep 0)) :: call := by
  intro r r'
  have hlimit : levelled.settings.maxSubworkflowDepth ≤ levelled.depth := Nat.le_refl _
  obtain ⟨-, -, hended⟩ := run_nesting nester doll .null .dawn ()
  obtain ⟨f, hf, herror, -, -, -, hmessage⟩ := hended _ _ endedBy_doll
  obtain ⟨-, hdeep, -⟩ := run_nesting levelled doll .null .dawn ()
  obtain ⟨hdepths, hfails⟩ := hdeep hlimit
  have hjournal : r'.journal = r'.journal.take 2 ++
      .visited "outer" (.obj []) (.output "start") [⟨"start", .start⟩] [] ::
        r'.journal.drop 3 := rfl
  obtain ⟨later, call, err, hafter, -, herr⟩ := hfails _ _ _ _ _ _ _ boxNode hjournal rfl rfl
  rw [hafter, herr box ⟨rfl, rfl, rfl, rfl⟩, List.append_assoc] at hjournal
  exact ⟨endedBy_doll, by decide +kernel, ⟨f, hf, herror, hmessage.trans (by decide)⟩, hlimit,
    hdepths, later, _, hjournal⟩

end Engine

end FlowGraph
