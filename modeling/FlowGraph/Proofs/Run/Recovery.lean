import FlowGraph.Proofs.Graph.Without
import FlowGraph.Proofs.Run.Part
import FlowGraph.Proofs.Walk.Recovery

/-! # Error handlers run only after a failure

The run starts with the first trigger, even if it is an error handler. Any other visit of an error
handler comes of a failure, so a run without failures visits none: it does the same on the workflow
without them.

* `Course.spared`: a task in which nothing fails has the same course on a graph without error
  handlers.
* `Workflow.spare` is the workflow without its error handlers, `runRecorded_spare` says that a run
  without failures is the same there.
* `runWith_recoveries` is the law of runs. -/

namespace FlowGraph

variable {σ τ : Type}

/-- The nodes that a task begins with and those of the visits around it stay. -/
structure Task.Stays (task : Task) (gone : String → Bool) : Prop where
  nodes : ∀ id ∈ task.nodes, gone id = false
  chain : ∀ v ∈ task.chain, gone v.id = false

namespace Walk

variable {w : Walk σ τ} {s s' s₁ : RunState σ τ} {o : Except Error Unit}

/-! ### Failures are never taken back -/

theorem steady_errors (w : Walk σ τ) (count : Nat) :
    w.Steady fun s => count ≤ s.context.errors.length where
  enter _ _ _ _ _ h := h
  skip id tag s h := by rwa [(told_skip w id tag s).context]
  call _ _ _ _ _ _ _ hc h := by rwa [(callGuarded_effect hc).1]
  count _ _ h := h
  complete id output s _ _ h := by rwa [(complete_effect w id output s).1]
  failed _ _ _ h := h
  tooDeep _ _ _ _ h := h
  recordFailure id e s _ h := by
    rw [(told_recordFailure w id e s).context, RunState.onContext_context, RunContext.recordError,
      List.length_append]
    exact Nat.le_add_right_of_le h
  enterLoop _ _ _ h := h
  setIteration i s h := by rwa [RunState.onContext_context, RunContext.errors_setIteration]
  popLoop _ h := h

theorem length_errors_recordFailure (w : Walk σ τ) (id : String) (e : Error) (s : RunState σ τ) :
    (w.recordFailure id e s).context.errors.length = s.context.errors.length + 1 := by
  rw [(told_recordFailure w id e s).context, RunState.onContext_context, RunContext.recordError,
    List.length_append, List.length_singleton]

/-- A failure that is dealt with stays among the failures. -/
theorem Course.length_errors_lt {v : ActiveVisit} {enclosing : List ActiveVisit} {e : Error}
    (h : w.Course (.recover v enclosing e) s o s') :
    s.context.errors.length < s'.context.errors.length := by
  have hrecorded := length_errors_recordFailure w v.id e s
  cases h with
  | recovered hr hc =>
    have hlater := (steady_errors w _).course hc trivial (Nat.le_refl _)
    omega
  | unrecovered hr => omega

theorem errors_invoke {node : Workflow.Node} {h : Handler σ} {input : Json}
    {outcome : Except Error Json} (hi : w.invoke node h input s = (outcome, s₁)) :
    s₁.context.errors = s.context.errors := by
  cases outcome with
  | error e => rw [(invoke_error hi).1]
  | ok output =>
    rw [(invoke_ok hi).1]
    rfl

/-! ### The same without error handlers -/

section

variable {gone : String → Bool} (hgone : ∀ id, gone id → w.graph.isErrorHandler w.settings id)
  {id : String} (hid : gone id = false)
include hgone

theorem stays_of_mem_flowChildren {c : String} (hc : c ∈ w.flowChildren id) : gone c = false := by
  have hhandler := Graph.isErrorHandler_of_mem_flowChildren hc
  refine Bool.eq_false_iff.mpr fun hc => ?_
  rw [hgone c hc] at hhandler
  cases hhandler

include hid

theorem flowChildren_spared :
    (w.withGraph (w.graph.without gone)).flowChildren id = w.flowChildren id :=
  Graph.flowChildren_without hid hgone

theorem select?_spared (p : Workflow.Node → Bool) :
    (w.withGraph (w.graph.without gone)).select? id p = w.select? id p := by
  unfold select?
  rw [flowChildren_spared hgone hid]
  refine List.find?_congr fun c hc => ?_
  rw [show (w.withGraph (w.graph.without gone)).graph = w.graph.without gone from rfl,
    Graph.node?_without (stays_of_mem_flowChildren hgone hc)]

theorem selected_spared (flow : ControlFlow) (output : Json) :
    (w.withGraph (w.graph.without gone)).selected flow id output = w.selected flow id output := by
  cases flow with
  | sequential => exact flowChildren_spared hgone hid
  | branch => simp only [selected, select?_spared hgone hid]
  | switch => simp only [selected, select?_spared hgone hid]
  | loop => rfl

end

theorem isWay_spared {gone : String → Bool} {enclosing : List ActiveVisit} {cause : Cause}
    {id : String} {input : Json} (hw : w.graph.IsWay (id :: enclosing.map (·.id)))
    (hstay : (Task.visit enclosing cause id input).Stays gone) :
    (w.graph.without gone).IsWay (id :: enclosing.map (·.id)) := by
  refine Graph.isWay_without hw (List.forall_mem_cons.mpr ⟨?_, ?_⟩)
  · exact hstay.nodes id List.mem_cons_self
  · exact List.forall_mem_map.mpr hstay.chain

/-- **A task in which nothing fails** has the same course on the graph without error handlers. -/
theorem Course.spared {gone : String → Bool}
    (hgone : ∀ id, gone id → w.graph.isErrorHandler w.settings id) {task : Task}
    (h : w.Course task s o s') : task.Stays gone →
      s'.context.errors.length ≤ s.context.errors.length →
      (w.withGraph (w.graph.without gone)).Course task s o s' := by
  induction h with
  | skipped hw hn hr =>
    intro hstay _
    have hid := hstay.nodes _ List.mem_cons_self
    exact .skipped (isWay_spared hw hstay) ((Graph.node?_without hid).trans hn) hr
  | failed hw hn hr hi hc ih =>
    intro _ hle
    have hlt := hc.length_errors_lt
    rw [RunState.note_context, errors_invoke hi] at hlt
    exact absurd hlt (Nat.not_lt.mpr hle)
  | @dispatched enclosing cause id input s node h output s₁ o s' hw hn hr hi hf hc ih =>
    intro hstay hle
    have hid := hstay.nodes id List.mem_cons_self
    have hrest := ih
      ⟨fun c hc => stays_of_mem_flowChildren hgone (w.selected_subset_flowChildren _ _ _ hc),
        List.forall_mem_cons.mpr ⟨hid, hstay.chain⟩⟩ (by rw [errors_invoke hi]; exact hle)
    rw [← selected_spared hgone hid] at hrest
    exact .dispatched (isWay_spared hw hstay) ((Graph.node?_without hid).trans hn) hr hi hf hrest
  | tooDeep hw hn hr hi hf hd hc ih =>
    intro _ hle
    have hlt := hc.length_errors_lt
    rw [RunState.note_context, errors_invoke hi] at hlt
    exact absurd hlt (Nat.not_lt.mpr hle)
  | @looped enclosing cause id input s node h output s₁ o s' hw hn hr hi hf hd hc ih =>
    intro hstay hle
    have hid := hstay.nodes id List.mem_cons_self
    have herrors := errors_invoke hi
    have hrest := ih ⟨hstay.nodes, List.forall_mem_cons.mpr ⟨hid, hstay.chain⟩⟩
      (le_of_le_of_eq hle (congrArg List.length herrors.symm))
    exact .looped (isWay_spared hw hstay) ((Graph.node?_without hid).trans hn) hr hi hf hd hrest
  | recovered hr hc ih =>
    intro _ hle
    exact absurd (Course.recovered hr hc).length_errors_lt (Nat.not_lt.mpr hle)
  | @unrecovered v enclosing e s hr =>
    intro _ hle
    have hrecorded := length_errors_recordFailure w v.id e s
    omega
  | sweepNil => exact fun _ _ => .sweepNil
  | sweepStop hc ih =>
    intro hstay hle
    have hid := hstay.nodes _ List.mem_cons_self
    exact .sweepStop (ih ⟨List.forall_mem_singleton.mpr hid, hstay.chain⟩ hle)
  | sweepNext hc hn ih ihn =>
    intro hstay hle
    obtain ⟨hid, hrest⟩ := List.forall_mem_cons.mp hstay.nodes
    have hfirst := (steady_errors w _).course hc trivial (Nat.le_refl _)
    have hlater := (steady_errors w _).course hn trivial (Nat.le_refl _)
    exact .sweepNext (ih ⟨List.forall_mem_singleton.mpr hid, hstay.chain⟩ (by omega))
      (ihn ⟨hrest, hstay.chain⟩ (by omega))
  | passesNil => exact fun _ _ => .passesNil
  | @passesStop v enclosing output left s e s' i hleft hc ih =>
    intro hstay hle
    have hid := hstay.nodes v.id List.mem_cons_self
    have hpass := ih ⟨fun _ hc => stays_of_mem_flowChildren hgone hc, hstay.chain⟩ ?_
    · rw [← flowChildren_spared hgone hid] at hpass
      exact .passesStop i hleft hpass
    · rwa [RunState.onContext_context, RunContext.errors_setIteration]
  | @passesNext v enclosing output left s s₁ o s' i hleft hc hn ih ihn =>
    intro hstay hle
    have hid := hstay.nodes v.id List.mem_cons_self
    have hset : (s.onContext (·.setIteration (i + 1))).context.errors = s.context.errors :=
      RunContext.errors_setIteration _ _
    have hfirst := (steady_errors w _).course hc trivial (Nat.le_refl _)
    have hlater := (steady_errors w _).course hn trivial (Nat.le_refl _)
    rw [hset] at hfirst
    have hpass := ih ⟨fun _ hc => stays_of_mem_flowChildren hgone hc, hstay.chain⟩
      (by rw [hset]; omega)
    rw [← flowChildren_spared hgone hid] at hpass
    exact .passesNext i hleft hpass (ihn ⟨hstay.nodes, hstay.chain⟩ (by omega))

end Walk

/-! ### Workflows without error handlers -/

namespace Workflow

/-- Whether a node is an error handler that is not the first trigger. -/
def isSpare (workflow : Workflow) (s : EngineSettings) (id : String) : Bool :=
  workflow.graph.isErrorHandler s id && (workflow.graph.triggers s).head? != some id

/-- **The workflow without its error handlers**, but for the first trigger. -/
def spare (workflow : Workflow) (s : EngineSettings) : Workflow :=
  let graph := workflow.graph.without (workflow.isSpare s)
  { workflow with nodes := graph.nodes, edges := graph.edges }

variable {workflow : Workflow} {s : EngineSettings}

theorem graph_spare : (workflow.spare s).graph = workflow.graph.without (workflow.isSpare s) := rfl

theorem isErrorHandler_of_isSpare {id : String} (h : workflow.isSpare s id) :
    workflow.graph.isErrorHandler s id :=
  (Bool.and_eq_true_iff.mp h).1

theorem isSpare_trigger {trigger : String}
    (hhead : (workflow.graph.triggers s).head? = some trigger) :
    workflow.isSpare s trigger = false := by
  simp [isSpare, hhead]

/-- The first trigger stays the first. -/
theorem trigger_spare {trigger : String}
    (hhead : (workflow.graph.triggers s).head? = some trigger) :
    ((workflow.spare s).graph.triggers s).head? = some trigger := by
  have htriggers : (workflow.spare s).graph.triggers s =
      (workflow.graph.triggers s).filter fun id => !workflow.isSpare s id := by
    simp only [graph_spare, Graph.triggers, Graph.without, List.filter_filter, List.filter_map]
    congr 1
    refine List.filter_congr fun n _ => ?_
    exact Bool.and_comm _ _
  obtain ⟨rest, hrest⟩ := List.head?_eq_some_iff.mp hhead
  rw [htriggers, hrest, List.filter_cons_of_pos (by simp [isSpare_trigger hhead])]
  rfl

end Workflow

namespace Engine

variable {e : Engine σ τ} {nested : NestedRun σ} {workflow : Workflow} {input : Json}
  {session : Session σ} {store : τ} {d : Diagnostics}

/-- A workflow that passes the check passes it without its error handlers. -/
theorem validate_spare (hd : validate workflow.nodes workflow.edges e.settings = .ok d) :
    ∃ d', validate (workflow.spare e.settings).nodes (workflow.spare e.settings).edges e.settings =
      .ok d' := by
  obtain ⟨-, hvalid, -⟩ := prepare_of_validate hd
  obtain ⟨trigger, hhead⟩ := exists_trigger hd
  have hspare := Workflow.trigger_spare hhead
  refine Graph.validate_of_valid (g := (workflow.spare e.settings).graph) (hvalid.without _) ?_
  intro hnil
  rw [hnil] at hspare
  cases hspare

/-- **A run without failures is the same without error handlers**, if its record is made. -/
theorem runRecorded_spare (hd : validate workflow.nodes workflow.edges e.settings = .ok d)
    (runId : Option String) {s : RunState σ τ} (hs : s.context.errors = [])
    (herrors : (e.runRecorded nested workflow input runId s).engine.context.errors = []) :
    e.runRecorded nested (workflow.spare e.settings) input runId s =
      e.runRecorded nested workflow input runId s := by
  obtain ⟨-, hvalid, -⟩ := prepare_of_validate hd
  obtain ⟨d', hd'⟩ := validate_spare hd
  obtain ⟨trigger, hhead, -, hrun, hcourse⟩ := runRecorded_eq_close hd nested input runId s
  obtain ⟨trigger', hhead', -, hrun', -⟩ := runRecorded_eq_close hd' nested input runId s
  obtain rfl : trigger' = trigger :=
    Option.some.inj (hhead'.symm.trans (Workflow.trigger_spare hhead))
  let w : Walk σ τ := ⟨workflow.graph, workflow.name, e, runId, nested⟩
  let s₀ := w.log none .info "Run started" none s
  let ended := w.visit w.graph.nodes.length [] .start trigger' input s₀
  let gone := workflow.isSpare e.settings
  have hstart : s₀.context.errors = [] := by rw [(Walk.told_log w _ _ _ _ s).context, hs]
  have hend : ended.2.context.errors = [] := by
    rw [hrun] at herrors
    rwa [close_context w _ ended.2 ended.1] at herrors
  have hspared : (w.withGraph (w.graph.without gone)).Course (.visit [] .start trigger' input) s₀
      ended.1 ended.2 := by
    refine hcourse.spared (fun _ => Workflow.isErrorHandler_of_isSpare)
      ⟨List.forall_mem_singleton.mpr (Workflow.isSpare_trigger hhead), by simp [Task.chain]⟩ ?_
    rw [hend]
    exact Nat.zero_le _
  -- what is left of the graph is valid, so the visit there does what its course says
  have hvisit := hspared.eq_perform (Walk.follows_visit (hvalid.without gone))
  rw [hrun, hrun']
  exact congrArg (close w _) hvisit

theorem runWith_spare (hd : validate workflow.nodes workflow.edges e.settings = .ok d)
    (herrors : (e.runWith nested workflow input session store).engine.context.errors = []) :
    e.runWith nested (workflow.spare e.settings) input session store =
      e.runWith nested workflow input session store := by
  unfold runWith at herrors ⊢
  simp only at herrors ⊢
  cases hsink : e.sink with
  | none =>
    simp only [hsink] at herrors
    exact runRecorded_spare hd none rfl herrors
  | some sink =>
    simp only [hsink] at herrors
    rcases hc : sink.create session.upcomingId session.now workflow.name input store with
      ⟨err | id, store'⟩
    · simp only [show (workflow.spare e.settings).name = workflow.name from rfl, hc]
    · simp only [show (workflow.spare e.settings).name = workflow.name from rfl, hc] at herrors ⊢
      exact runRecorded_spare hd (some id) rfl herrors

theorem Walked.places {r : RunReport σ τ} {w : Walk σ τ} {trigger : String}
    {s₀ s₁ : RunState σ τ} {o : Except Error Unit}
    (hw : Walked e workflow input r w trigger s₀ s₁ o) :
    Stretch (Places workflow.graph e.settings) [] r.journal := by
  obtain ⟨rs₀, hj₀⟩ := hw.start_journal
  have hquiet : ∀ ev ∈ rs₀.map Event.reported, ev.visited? = none :=
    List.forall_mem_map.mpr fun _ _ => rfl
  have hvisits : visits s₀.journal = [] := by
    rw [hj₀, ← List.append_nil (rs₀.map _), visits_append [] hquiet]
    rfl
  have htrigger : (w.graph.triggers w.settings).head? = some trigger := by
    rw [hw.graph, Walk.settings, hw.engine]
    exact hw.trigger_head
  have hcourse := hw.course.recoveries (placed_start htrigger hvisits input)
  rw [Walk.placesIn, hw.graph, Walk.settings, hw.engine] at hcourse
  exact hw.stretch (lasting_places _ _) (fun _ _ _ => trivial) hcourse

/-- **Error handlers run only on failure.** In every run of a workflow that passes the check, a
visit of an error handler is the first visit of the run, or it comes of a failure: a visit of a node
has just failed that has visited nothing, and the error handler is the first one among the children
of the node. No visit goes to an error handler and to another node. So a run without failures is the
same, in everything it does, on the workflow without its error handlers, which passes the check
too. -/
theorem runWith_recoveries (hd : validate workflow.nodes workflow.edges e.settings = .ok d)
    (nested : NestedRun σ) (input : Json) (session : Session σ) (store : τ) :
    let r := e.runWith nested workflow input session store
    (∀ after id v cause enclosing loops before,
      r.journal = after ++ .visited id v cause enclosing loops :: before →
      Placed workflow.graph e.settings id v cause enclosing before) ∧
    (∃ d', validate (workflow.spare e.settings).nodes (workflow.spare e.settings).edges e.settings =
      .ok d') ∧
    (r.engine.context.errors = [] →
      e.runWith nested (workflow.spare e.settings) input session store = r) := by
  intro r
  refine ⟨fun after id v cause enclosing loops before heq => ?_, validate_spare hd,
    fun herrors => runWith_spare hd herrors⟩
  by_cases haccepts : e.Accepts workflow input session store
  · obtain ⟨w, trigger, s₀, s₁, o, hw⟩ := haccepts.walked nested
    exact hw.places.get heq
  · obtain ⟨rs, hrs⟩ := journal_of_not_accepts haccepts nested
    have hmem : Event.visited id v cause enclosing loops ∈ rs.map Event.reported := by
      rw [← hrs, show (e.runWith nested workflow input session store).journal = _ from heq]
      simp
    obtain ⟨report, -, hreport⟩ := List.mem_map.mp hmem
    cases hreport

/-- A node with two error handlers and another child. -/
def guarded : Workflow where
  nodes := [{ id := "start", tag := "trigger" }, { id := "a", tag := "step" },
    { id := "rescue", tag := "error_handler" }, { id := "b", tag := "step" },
    { id := "second", tag := "error_handler" }]
  edges := [⟨"start", "a"⟩, ⟨"a", "rescue"⟩, ⟨"a", "b"⟩, ⟨"a", "second"⟩, ⟨"second", "b"⟩]

/-- A run without failures, and one in which a node fails that has an error handler. -/
theorem runWith_recoveries_guarded :
    let r := small.runWith unnested guarded .null .dawn ()
    let failing := small.runWith unnested halfHandled .null .dawn ()
    validate guarded.nodes guarded.edges small.settings = .ok ⟨["start"], []⟩ ∧
      r.engine.context.errors = [] ∧ visits r.journal = ["start", "a", "b"] ∧
      (guarded.spare small.settings).nodes.map (·.id) = ["start", "a", "b"] ∧
      small.runWith unnested (guarded.spare small.settings) .null .dawn () = r ∧
      halfHandled.graph.isErrorHandler small.settings "rescue" ∧
      ∃ after v cause enclosing loops before,
        failing.journal = after ++ .visited "rescue" v cause enclosing loops :: before ∧
        Recovers halfHandled.graph small.settings "rescue" v cause enclosing before := by
  intro r failing
  have hd : validate guarded.nodes guarded.edges small.settings = .ok ⟨["start"], []⟩ := rfl
  have hd' : validate halfHandled.nodes halfHandled.edges small.settings =
      .ok ⟨["start"], []⟩ := rfl
  have hj : failing.journal = failing.journal.take 5 ++ .visited "rescue" _ _ _ _ ::
      failing.journal.drop 6 := rfl
  obtain ⟨-, -, hspare⟩ := runWith_recoveries (e := small) hd unnested .null .dawn ()
  obtain ⟨hplaced, -, -⟩ := runWith_recoveries (e := small) hd' unnested .null .dawn ()
  exact ⟨hd, rfl, rfl, rfl, hspare rfl, rfl, _, _, _, _, _, _, hj,
    (hplaced _ _ _ _ _ _ _ hj).recovers rfl⟩

end Engine

end FlowGraph
