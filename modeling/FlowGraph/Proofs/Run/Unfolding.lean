import FlowGraph.Proofs.Graph.Unfolding
import FlowGraph.Proofs.Run.Start
import FlowGraph.Proofs.Walk.Kept

/-! # The order of a run

A run in which no node fails, and whose nodes go on to all of their children or repeat them, calls
the handlers in the order of an unfolding of its graph. What the run does is then known in advance:
every path from the trigger is taken as often as the loops on it make passes.

* `Calm` is what such a run has in its journal, `Graph.IsFlowWay` where it goes. On the way to a
  node there are as many loops as on the stack (`OnWay`), so none of them is turned away.
* `Calls` says whose handlers a stretch of a walk calls, in their order.
* `Course.unfolds` is the induction over the course, `runWith_unfolding` the law of runs. -/

namespace FlowGraph

variable {σ τ : Type}

/-- The node that a handler is called for. -/
def Event.invoked? : Event → Option String
  | invoked ctx => some ctx.nodeId
  | _ => none

/-- The nodes whose handlers are called, in their order. -/
def invokedIds (journal : List Event) : List String := journal.reverse.filterMap Event.invoked?

@[simp] theorem invokedIds_append (later j : List Event) :
    invokedIds (later ++ j) = invokedIds j ++ invokedIds later := by
  simp [invokedIds]

theorem invokedIds_cons (ev : Event) (j : List Event) :
    invokedIds (ev :: j) = invokedIds j ++ ev.invoked?.toList := by
  cases h : ev.invoked? <;> simp [invokedIds, h]

@[simp] theorem invokedIds_reports (rs : List Report) :
    invokedIds (rs.map .reported) = [] := by
  have hnone : ∀ ev ∈ rs.map Event.reported, ev.invoked? = none :=
    List.forall_mem_map.mpr fun _ _ => rfl
  exact List.filterMap_eq_nil_iff.mpr fun ev hev => hnone ev (List.mem_reverse.mp hev)

/-- How many loops are among some nodes. -/
def loopCount (flow? : String → Option ControlFlow) (ids : List String) : Nat :=
  ids.countP fun id => flow? id == some .loop

/-- How often a node repeats its children: a loop `c` times, any other node once. -/
def repeats (flow? : String → Option ControlFlow) (c : String → Nat) (id : String) : Nat :=
  if flow? id = some .loop then c id else 1

/-- An event of a run in which no node fails and every loop makes `c` passes. -/
def Calm (flow? : String → Option ControlFlow) (c : String → Nat) : Event → Prop
  | .failed _ _ => False
  | .completed id output => flow? id = some .loop → Walk.passCount output = c id
  | _ => True

instance (flow? : String → Option ControlFlow) (c : String → Nat) :
    DecidablePred (Calm flow? c)
  | .failed _ _ => instDecidableFalse
  | .completed id output =>
    inferInstanceAs (Decidable (flow? id = some .loop → Walk.passCount output = c id))
  | .visited .. | .skipped _ | .invoked _ | .entered .. | .tooDeep .. | .reported _
  | .exhausted _ => instDecidableTrue

namespace Walk

variable {w : Walk σ τ} {s s' : RunState σ τ} {o : Except Error Unit} {c : String → Nat}
  {start : String}

/-- What is asked of the ways of a walk: there are only nodes that go on to all of their children or
repeat them, and not too many loops. -/
structure Plain (w : Walk σ τ) (start : String) : Prop where
  flow : ∀ way, w.graph.IsFlowWay w.settings start way → ∀ id ∈ way,
    w.flow? id = some .sequential ∨ w.flow? id = some .loop
  depth : ∀ way, w.graph.IsFlowWay w.settings start way →
    loopCount w.flow? way ≤ w.settings.maxLoopDepth

/-- What a task needs: it is on a way from the start, and the loops on the way are on the stack. -/
def OnWay (w : Walk σ τ) (start : String) (task : Task) (s : RunState σ τ) : Prop :=
  match task with
  | .visit enclosing _ id _ => w.graph.IsFlowWay w.settings start (id :: enclosing.map (·.id)) ∧
      s.context.loops.length = loopCount w.flow? (enclosing.map (·.id))
  | .recover .. => False
  | .sweep chain _ _ ids =>
      (∀ id ∈ ids, w.graph.IsFlowWay w.settings start (id :: chain.map (·.id))) ∧
      s.context.loops.length = loopCount w.flow? (chain.map (·.id))
  | .passes v enclosing _ _ =>
      w.graph.IsFlowWay w.settings start (v.id :: enclosing.map (·.id)) ∧
      s.context.loops.length = loopCount w.flow? (v.id :: enclosing.map (·.id))

/-- The order in which a task calls handlers. -/
def Orders (w : Walk σ τ) (c : String → Nat) (task : Task) (order : List String) : Prop :=
  match task with
  | .visit _ _ id _ => w.graph.Unfolds w.settings (repeats w.flow? c) [id] order
  | .recover .. => True
  | .sweep _ _ _ ids => w.graph.Unfolds w.settings (repeats w.flow? c) ids order
  | .passes v _ _ left => ∀ block,
      w.graph.Unfolds w.settings (repeats w.flow? c) (w.flowChildren v.id) block →
      order = (List.replicate left block).flatten

/-! ### The calls of a stretch -/

/-- A stretch of a walk that calls the handlers of some nodes, in their order, and executes them. -/
structure Calls (order : List String) (s s' : RunState σ τ) : Prop where
  ids : invokedIds s'.journal = invokedIds s.journal ++ order
  executed : s'.context.nodesExecuted = s.context.nodesExecuted + order.length

theorem Calls.trans {order order' : List String} {s₁ : RunState σ τ} (h : Calls order s s₁)
    (h' : Calls order' s₁ s') : Calls (order ++ order') s s' := by
  refine ⟨?_, ?_⟩
  · rw [h'.ids, h.ids, List.append_assoc]
  · rw [h'.executed, h.executed, List.length_append, Nat.add_assoc]

theorem calls_nil (hids : invokedIds s'.journal = invokedIds s.journal)
    (hexecuted : s'.context.nodesExecuted = s.context.nodesExecuted) : Calls [] s s' :=
  ⟨by rw [hids, List.append_nil], hexecuted⟩

/-- A visit up to the output of its node calls the handler of the node. -/
theorem calls_enter_invoke {enclosing : List ActiveVisit} {cause : Cause} {id : String}
    {input output : Json} {node : Workflow.Node} {h : Handler σ}
    (hn : w.graph.node? id = some node)
    (hi : w.invoke node h input (enter enclosing cause id input s) = (.ok output, s')) :
    Calls [id] s s' := by
  obtain rfl := Graph.id_of_node? hn
  obtain ⟨hctx, rs, hj⟩ := invoke_ok hi
  refine ⟨?_, by rw [hctx]; simp [enter]⟩
  rw [hj, invokedIds_append, invokedIds_reports, List.append_nil]
  simp [invokedIds_cons, enter, Event.invoked?, nodeContext]

theorem calls_enterLoop (id : String) (total : Nat) (s : RunState σ τ) :
    Calls [] s (enterLoop id total s) :=
  calls_nil (by simp [invokedIds_cons, enterLoop, Event.invoked?]) rfl

/-! ### The next task on a way -/

section

variable {enclosing : List ActiveVisit} {cause : Cause} {id : String} {input output : Json}
  {node : Workflow.Node} {h : Handler σ} {outcome : Except Error Json}

theorem length_loops_enter_invoke
    (hi : w.invoke node h input (enter enclosing cause id input s) = (outcome, s')) :
    s'.context.loops.length = s.context.loops.length :=
  congrArg List.length ((loops_invoke hi).trans (loops_enter ..))

/-- The children of a node that is no loop. -/
theorem onWay_children {flow : ControlFlow} (hflow : w.flow? id = some flow) (hf : flow ≠ .loop)
    (hi : w.invoke node h input (enter enclosing cause id input s) = (outcome, s'))
    (hready : w.OnWay start (.visit enclosing cause id input) s) :
    w.OnWay start (.sweep (⟨id, cause⟩ :: enclosing) (.output id) output
      (w.selected flow id output)) s' := by
  obtain ⟨hway, hloops⟩ := hready
  refine ⟨fun child hchild => hway.cons (w.selected_subset_flowChildren _ _ _ hchild), ?_⟩
  rw [length_loops_enter_invoke hi, hloops]
  simp [loopCount, hflow, hf]

/-- The passes of a loop. -/
theorem onWay_passes (hflow : w.flow? id = some .loop)
    (hi : w.invoke node h input (enter enclosing cause id input s) = (outcome, s'))
    (hready : w.OnWay start (.visit enclosing cause id input) s) (total : Nat) :
    w.OnWay start (.passes ⟨id, cause⟩ enclosing output total) (enterLoop id total s') := by
  obtain ⟨hway, hloops⟩ := hready
  refine ⟨hway, ?_⟩
  rw [loops_enterLoop, List.length_cons, length_loops_enter_invoke hi, hloops]
  simp [loopCount, hflow]

/-- A pass of a loop. -/
theorem onWay_pass {v : ActiveVisit} {left : Nat}
    (hready : w.OnWay start (.passes v enclosing output left) s) (i : Nat) :
    w.OnWay start (.sweep (v :: enclosing) cause input (w.flowChildren v.id))
      (s.onContext (·.setIteration (i + 1))) :=
  ⟨fun _ hchild => hready.1.cons hchild, by simpa using hready.2⟩

/-- The stack has room for every loop on the way. -/
theorem loopDepth_lt_of_onWay (hplain : w.Plain start) (hflow : w.flow? id = some .loop)
    (hi : w.invoke node h input (enter enclosing cause id input s) = (outcome, s'))
    (hready : w.OnWay start (.visit enclosing cause id input) s) :
    s'.context.loopDepth < w.settings.maxLoopDepth := by
  obtain ⟨hway, hloops⟩ := hready
  have hdepth := hplain.depth _ hway
  simp only [loopCount, List.countP_cons, hflow, beq_self_eq_true, if_true] at hdepth
  rw [RunContext.loopDepth, length_loops_enter_invoke hi, hloops, loopCount]
  omega

theorem flow_eq_sequential {flow : ControlFlow} (hplain : w.Plain start)
    (hready : w.OnWay start (.visit enclosing cause id input) s) (hflow : w.flow? id = some flow)
    (hf : flow ≠ .loop) : flow = .sequential := by
  have hplainId := hplain.flow _ hready.1 id List.mem_cons_self
  rw [hflow] at hplainId
  rcases hplainId with hseq | hloop
  · exact Option.some.inj hseq
  · exact absurd (Option.some.inj hloop) hf

end

/-! ### A whole walk -/

/-- **A calm course** goes through and calls the handlers in the order of an unfolding. -/
theorem Course.unfolds (hg : w.graph.Valid) (hplain : w.Plain start) {task : Task}
    (h : w.Course task s o s') :
    w.OnWay start task s → (∀ ev ∈ s'.journal, Calm w.flow? c ev) →
      o = .ok () ∧ ∃ order, Calls order s s' ∧ w.Orders c task order := by
  induction h with
  | @skipped enclosing cause id input s node hw hn hr =>
    intro hready
    have hflow := hplain.flow _ hready.1 id List.mem_cons_self
    simp [flow?_of_resolve?_none hn hr] at hflow
  | @failed enclosing cause id input s node h e s₁ o s' hw hn hr hi hc ih =>
    intro _ hcalm
    exact (hcalm (.failed id e) (hc.suffix.subset List.mem_cons_self)).elim
  | @dispatched enclosing cause id input s node h output s₁ o s' hw hn hr hi hf hc ih =>
    intro hready hcalm
    have hflow := flow?_of_resolve? hn hr
    have hseq := flow_eq_sequential hplain hready hflow hf
    obtain ⟨hok, order, hcalls, horder⟩ := ih (onWay_children hflow hf hi hready) hcalm
    have hblock : w.graph.Unfolds w.settings (repeats w.flow? c)
        (w.graph.flowChildren w.settings id) order := by
      simpa [Orders, hseq, selected, flowChildren] using horder
    refine ⟨hok, id :: order, (calls_enter_invoke hn hi).trans hcalls, ?_⟩
    have hsingle := hblock.single
    simpa [Orders, repeats, hflow, hseq] using hsingle
  | @tooDeep enclosing cause id input s node h output s₁ o s' hw hn hr hi hf hd hc ih =>
    intro hready
    have hflow : w.flow? id = some .loop := hf ▸ flow?_of_resolve? hn hr
    have hlt := loopDepth_lt_of_onWay hplain hflow hi hready
    omega
  | @looped enclosing cause id input s node h output s₁ o s' hw hn hr hi hf hd hc ih =>
    intro hready hcalm
    have hflow : w.flow? id = some .loop := hf ▸ flow?_of_resolve? hn hr
    obtain ⟨hok, order, hcalls, horder⟩ := ih (onWay_passes hflow hi hready _) hcalm
    have hcompleted : .completed id output ∈ s₁.journal :=
      Graph.id_of_node? hn ▸ completed_mem_invoke hi
    have hpasses : passCount output = c id :=
      hcalm _ (hc.suffix.subset (List.mem_cons_of_mem _ hcompleted)) hflow
    obtain ⟨block, hblock⟩ := hg.exists_unfolds w.settings (repeats w.flow? c)
      (w.flowChildren id)
    have hvisit := ((calls_enter_invoke hn hi).trans (calls_enterLoop ..)).trans hcalls
    refine ⟨hok, id :: order, ⟨hvisit.ids, hvisit.executed⟩, ?_⟩
    have hsingle := hblock.single
    rw [Orders, horder block hblock, hpasses]
    simpa [repeats, hflow] using hsingle
  | recovered hr hc ih => exact fun h => h.elim
  | unrecovered hr => exact fun h => h.elim
  | sweepNil => exact fun _ _ => ⟨rfl, [], calls_nil rfl rfl, .nil⟩
  | sweepStop hc ih =>
    intro hready hcalm
    obtain ⟨hok, -⟩ := ih ⟨hready.1 _ List.mem_cons_self, hready.2⟩ hcalm
    cases hok
  | @sweepNext chain cause input id rest s s₁ o s' hc hn ih ihn =>
    intro hready hcalm
    have hsame : s₁.context.loops = s.context.loops := hc.keeps
    obtain ⟨-, first, hfirst, hunfolds⟩ := ih ⟨hready.1 id List.mem_cons_self, hready.2⟩
      fun ev hev => hcalm ev (hn.suffix.subset hev)
    obtain ⟨hok, others, hothers, hunfolds'⟩ :=
      ihn ⟨fun d hd => hready.1 d (List.mem_cons_of_mem _ hd), hsame ▸ hready.2⟩ hcalm
    exact ⟨hok, first ++ others, hfirst.trans hothers, Graph.Unfolds.append hunfolds hunfolds'⟩
  | passesNil => exact fun _ _ => ⟨rfl, [], calls_nil rfl rfl, fun _ _ => rfl⟩
  | passesStop i hleft hc ih =>
    intro hready hcalm
    obtain ⟨hok, -⟩ := ih (onWay_pass hready i) hcalm
    cases hok
  | @passesNext v enclosing output left s s₁ o s' i hleft hc hn ih ihn =>
    intro hready hcalm
    have hsame : s₁.context.loops.length = s.context.loops.length :=
      (congrArg List.length hc.keeps).trans (RunContext.length_loops_setIteration _ _)
    obtain ⟨-, first, hfirst, hunfolds⟩ := ih (onWay_pass hready i)
      fun ev hev => hcalm ev (hn.suffix.subset hev)
    obtain ⟨hok, others, hothers, hothers'⟩ := ihn ⟨hready.1, hsame.trans hready.2⟩ hcalm
    have hpass : Calls first s s₁ := ⟨hfirst.ids, hfirst.executed.trans (by simp)⟩
    refine ⟨hok, first ++ others, hpass.trans hothers, fun block hblock => ?_⟩
    rw [Graph.Unfolds.unique hunfolds hblock, hothers' block hblock, List.replicate_succ,
      List.flatten_cons]

end Walk

namespace Engine

variable {e : Engine σ τ} {workflow : Workflow} {input : Json} {session : Session σ} {store : τ}

/-- **The order of a run.** Let no node of a run fail and every loop always ask for `c` passes. If
the ways from the trigger have only nodes that go on to all of their children or repeat them, and no
more loops than the stack can hold, then the handlers are called in the order of the unfolding of
the graph. So a node is executed once for each path from the trigger, times the passes of the loops
before its end, and the run completes with the sum of all of these executed. -/
theorem runWith_unfolding (h : e.Accepts workflow input session store) (nested : NestedRun σ)
    {trigger : String} (c : String → Nat)
    (htrigger : (workflow.graph.triggers e.settings).head? = some trigger)
    (hflow : ∀ way, workflow.graph.IsFlowWay e.settings trigger way → ∀ id ∈ way,
      e.flow? workflow.graph id = some .sequential ∨ e.flow? workflow.graph id = some .loop)
    (hdepth : ∀ way, workflow.graph.IsFlowWay e.settings trigger way →
      loopCount (e.flow? workflow.graph) way ≤ e.settings.maxLoopDepth)
    (hsucceed : ∀ id err, .failed id err ∉ (e.runWith nested workflow input session store).journal)
    (hcount : ∀ id output,
      .completed id output ∈ (e.runWith nested workflow input session store).journal →
      e.flow? workflow.graph id = some .loop → Walk.passCount output = c id) :
    let r := e.runWith nested workflow input session store
    let order := invokedIds r.journal
    let times := repeats (e.flow? workflow.graph) c
    (∀ order', workflow.graph.Unfolds e.settings times [trigger] order' ↔ order' = order) ∧
    (∀ n, ∃ paths : Finset (List (Fin workflow.graph.edges.length)),
      (∀ path, path ∈ paths ↔ workflow.graph.IsPath e.settings n trigger path) ∧
      order.count n = ∑ path ∈ paths, workflow.graph.weight times path) ∧
    ∃ success, r.outcome = .ok success ∧
      success.nodesExecuted = ∑ n ∈ workflow.graph.order.toFinset, order.count n := by
  intro r order times
  obtain ⟨w, trigger', s₀, s₁, o, hw⟩ := h.walked nested
  obtain rfl : trigger' = trigger := Option.some.inj (hw.trigger_head.symm.trans htrigger)
  obtain ⟨rs₀, hj₀⟩ := hw.start_journal
  obtain ⟨rs₁, hj₁⟩ := hw.end_journal
  obtain ⟨executionId, hctx⟩ := hw.start_context
  have hsettings : w.settings = e.settings := congrArg Engine.settings hw.engine
  have hflow? : w.flow? = e.flow? workflow.graph := hw.flow_eq
  have hvalid : workflow.graph.Valid := hw.graph ▸ hw.valid
  have hplain : w.Plain trigger' := by
    refine ⟨?_, ?_⟩ <;> rw [hw.graph, hsettings, hflow?]
    · exact hflow
    · exact hdepth
  have honWay : w.OnWay trigger' (.visit [] .start trigger' input) s₀ :=
    ⟨w.graph.isFlowWay_singleton w.settings trigger', by rw [hctx]; rfl⟩
  have hcalm : ∀ ev ∈ s₁.journal, Calm w.flow? c ev := by
    intro ev hev
    have hmem : ev ∈ r.journal := by
      rw [show r.journal = _ from hj₁]
      exact List.mem_append_right _ hev
    rw [hflow?]
    cases ev with
    | failed id err => exact hsucceed id err hmem
    | completed id output => exact hcount id output hmem
    | _ => trivial
  obtain ⟨hok, order', hcalls, hunfolds⟩ := hw.course.unfolds hw.valid hplain honWay hcalm
  obtain rfl : order' = order := by
    have hids := hcalls.ids
    rw [hj₀, invokedIds_reports, List.nil_append] at hids
    simp [order, show r.journal = _ from hj₁, hids]
  have hexecuted := hcalls.executed
  rw [Walk.Orders, hw.graph, hsettings, hflow?] at hunfolds
  refine ⟨fun order' => ⟨fun h' => h'.unique hunfolds, fun h' => h' ▸ hunfolds⟩, fun n => ?_, ?_⟩
  · obtain ⟨paths, hpaths⟩ := hvalid.exists_paths e.settings times n trigger'
    exact ⟨paths, hpaths.mem_iff, hpaths.count_eq order hunfolds⟩
  · obtain ⟨durationMs, hsuccess⟩ := hw.end_ok hok
    refine ⟨_, hsuccess, ?_⟩
    have hsub : order ⊆ workflow.graph.order := by
      refine hunfolds.subset_order hvalid ?_
      rw [← hw.graph]
      exact hw.trigger_way.declared
    have htotal : ∑ n ∈ workflow.graph.order.toFinset, (order : Multiset String).count n =
        order.length :=
      Multiset.sum_count_eq_card fun n hn => List.mem_toFinset.mpr (hsub hn)
    simp only [Multiset.coe_count] at htotal
    rw [htotal, hexecuted, hctx, Nat.zero_add]

/-- A loop of two passes whose children share a child, one of them by two edges. -/
def shared : Workflow where
  nodes := [{ id := "start", tag := "trigger" },
    { id := "l", tag := "loop", config := .obj [("iterations", .ofNat 2)] },
    { id := "a", tag := "step" }, { id := "z", tag := "step" },
    { id := "rescue", tag := "error_handler" }]
  edges := [⟨"start", "l"⟩, ⟨"l", "a"⟩, ⟨"l", "z"⟩, ⟨"l", "z"⟩, ⟨"a", "z"⟩, ⟨"l", "rescue"⟩]

theorem runWith_unfolding_shared :
    small.Accepts shared .null .dawn () ∧
    let r := small.runWith unnested shared .null .dawn ()
    let times := repeats (small.flow? shared.graph) fun _ => 2
    (∀ order, shared.graph.Unfolds small.settings times ["start"] order ↔
      order = ["start", "l", "a", "z", "z", "z", "a", "z", "z", "z"]) ∧
    (∃ paths : Finset (List (Fin shared.graph.edges.length)),
      (∀ path, path ∈ paths ↔ shared.graph.IsPath small.settings "z" "start" path) ∧
      6 = ∑ path ∈ paths, shared.graph.weight times path) ∧
    ∃ success, r.outcome = .ok success := by
  have haccepts : small.Accepts shared .null .dawn () :=
    ⟨⟨_, rfl⟩, fun _ h => by cases h⟩
  obtain ⟨d, hd⟩ := haccepts.checked
  have hvalid := (prepare_of_validate hd).2.1
  have hways : ∀ way, shared.graph.IsFlowWay small.settings "start" way →
      shared.graph.IsWay way := fun way hway => hway.isWay hvalid (by decide)
  have hflow : ∀ id ∈ shared.graph.order, small.flow? shared.graph id = some .sequential ∨
      small.flow? shared.graph id = some .loop := by decide
  have hcalm : ∀ ev ∈ (small.runWith unnested shared .null .dawn ()).journal,
      Calm (small.flow? shared.graph) (fun _ => 2) ev := by decide
  obtain ⟨horder, hpaths, success, hok, -⟩ := runWith_unfolding haccepts unnested (fun _ => 2) rfl
    (fun way hway id hid => hflow id ((hways way hway).declared hid))
    (fun way hway => List.countP_le_length.trans (hvalid.length_le_of_isWay (hways way hway)))
    (fun id err hmem => hcalm _ hmem) (fun id output hmem => hcalm _ hmem)
  exact ⟨haccepts, horder, hpaths "z", success, hok⟩

end Engine

end FlowGraph
