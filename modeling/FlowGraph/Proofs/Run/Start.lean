import FlowGraph.Proofs.Walk.Course
import FlowGraph.Proofs.Walk.Journal

/-! # From a run to its walk

A run that is accepted is one walk from the first trigger, with the record opened before it and
closed after it. `Accepts` says what a run needs for that: a workflow that passes the check, and a
record, if there is a sink. `Accepts.walked` gives the walk, with all that the laws of runs need of
its beginning and its end.

`runWith_finish` is for what holds of every run, accepted or not: it carries a property of states
from the beginning of a run to its end. -/

namespace FlowGraph

/-- The graph of a workflow. -/
def Workflow.graph (workflow : Workflow) : Graph := ⟨workflow.nodes, workflow.edges⟩

namespace Engine

variable {σ τ : Type} {e : Engine σ τ} {nested : NestedRun σ} {workflow : Workflow} {input : Json}
  {session : Session σ} {store : τ}

/-- The workflow passes the check, and the sink makes a record of the run, if there is a sink. -/
structure Accepts (e : Engine σ τ) (workflow : Workflow) (input : Json) (session : Session σ)
    (store : τ) : Prop where
  checked : ∃ d, validate workflow.nodes workflow.edges e.settings = .ok d
  recorded : ∀ sink, e.sink = some sink → ∃ runId,
    (sink.create session.upcomingId session.now workflow.name input store).1 = .ok runId

/-- **A run as a walk** `w` from `trigger`, from the state `s₀` to the state `s₁`. -/
structure Walked (e : Engine σ τ) (workflow : Workflow) (input : Json) (r : RunReport σ τ)
    (w : Walk σ τ) (trigger : String) (s₀ s₁ : RunState σ τ) (o : Except Error Unit) : Prop where
  graph : w.graph = workflow.graph
  engine : w.engine = e
  valid : w.graph.Valid
  trigger_head : (workflow.graph.triggers e.settings).head? = some trigger
  trigger_way : w.graph.IsWay [trigger]
  start_context : ∃ id, s₀.context = { executionId := id, vars := workflow.vars }
  start_breakers : s₀.breakers = e.breakers
  start_journal : ∃ rs : List Report, s₀.journal = rs.map .reported
  course : w.Course (.visit [] .start trigger input) s₀ o s₁
  end_context : r.engine.context = s₁.context
  end_journal : ∃ rs : List Report, r.journal = rs.map .reported ++ s₁.journal
  end_ok : o = .ok () → ∃ durationMs,
    r.outcome = .ok ⟨s₁.context.executionId, durationMs, s₁.context.nodesExecuted⟩
  end_error : ∀ err, o = .error err → ∃ durationMs, r.outcome = .error
    ⟨s₁.context.executionId, err, s₁.context.errors, s₁.context.lastCompleted,
      s₁.context.nodesExecuted, durationMs⟩

theorem Walked.flow_eq {r : RunReport σ τ} {w : Walk σ τ} {trigger : String} {s₀ s₁ : RunState σ τ}
    {o : Except Error Unit} (hw : Walked e workflow input r w trigger s₀ s₁ o) :
    w.flow? = e.flow? workflow.graph := by
  funext id
  simp only [Walk.flow?, hw.graph, hw.engine]

/-- What is said of the events of a walk and of all reports is said of the whole journal. -/
theorem Walked.stretch {r : RunReport σ τ} {w : Walk σ τ} {trigger : String} {s₀ s₁ : RunState σ τ}
    {o : Except Error Unit} (hw : Walked e workflow input r w trigger s₀ s₁ o)
    {P : List Event → Event → List Event → Prop} (hP : Lasting P)
    (hreport : ∀ report after before, P after (.reported report) before)
    (h : Stretch P s₀.journal s₁.journal) : Stretch P [] r.journal := by
  have hreports : ∀ (rs : List Report) (j : List Event), Stretch P j (rs.map .reported ++ j) :=
    fun rs _ => Stretch.of_forall _ (List.forall_mem_map.mpr fun report _ => hreport report)
  obtain ⟨rs₀, hj₀⟩ := hw.start_journal
  obtain ⟨rs₁, hj₁⟩ := hw.end_journal
  have hstart : Stretch P [] s₀.journal := by
    rw [hj₀, ← List.append_nil (rs₀.map _)]
    exact hreports rs₀ []
  have hend : Stretch P s₁.journal r.journal := hj₁ ▸ hreports rs₁ s₁.journal
  exact (hstart.trans hP h).trans hP hend

/-! ### The end of a run -/

section

variable (w : Walk σ τ) (started : Nat) (s : RunState σ τ)

/-- Closes a run with the outcome of its walk. -/
def close (w : Walk σ τ) (started : Nat) : Except Error Unit × RunState σ τ → RunReport σ τ
  | (.error error, s) => fail w started error s
  | (.ok _, s) => succeed w started s

theorem close_context (o : Except Error Unit) :
    (close w started (o, s)).engine.context = s.context := by
  cases o with
  | error error => exact (Walk.told_report w _ s).context
  | ok _ => exact (Walk.told_report w _ s).context

theorem close_journal (o : Except Error Unit) :
    ∃ rs : List Report, (close w started (o, s)).journal = rs.map .reported ++ s.journal := by
  cases o with
  | error error => exact (Walk.told_report w _ s).journal
  | ok _ => exact (Walk.told_report w _ s).journal

end

/-! ### The walk of a run -/

theorem prepare_of_validate {d : Diagnostics}
    (h : validate workflow.nodes workflow.edges e.settings = .ok d) :
    e.prepare workflow = .ok (workflow.graph, workflow.graph.triggers e.settings) ∧
      workflow.graph.Valid ∧ workflow.graph.triggers e.settings ≠ [] := by
  obtain ⟨hbuild, hvalid, htriggers, hne⟩ := Graph.valid_of_validate h
  refine ⟨?_, hvalid, htriggers ▸ hne⟩
  unfold prepare
  simp only [h, hbuild, htriggers, Workflow.graph]

/-- A run whose record is made is closed with the outcome of a visit of the first trigger, and the
visit follows its course. -/
theorem runRecorded_eq_close {d : Diagnostics}
    (h : validate workflow.nodes workflow.edges e.settings = .ok d) (nested : NestedRun σ)
    (input : Json) (runId : Option String) (s : RunState σ τ) :
    let w : Walk σ τ := ⟨workflow.graph, workflow.name, e, runId, nested⟩
    let s₀ := w.log none .info "Run started" none s
    ∃ trigger, (workflow.graph.triggers e.settings).head? = some trigger ∧
      w.graph.IsWay [trigger] ∧
      let ended := w.visit w.graph.nodes.length [] .start trigger input s₀
      e.runRecorded nested workflow input runId s = close w s.session.elapsed ended ∧
        w.Course (.visit [] .start trigger input) s₀ ended.1 ended.2 := by
  intro w s₀
  obtain ⟨hprep, hvalid, hne⟩ := prepare_of_validate h
  obtain ⟨trigger, rest, htriggers⟩ := List.exists_cons_of_ne_nil hne
  have hway : w.graph.IsWay [trigger] := by
    refine Graph.isWay_singleton (Graph.mem_order_of_mem_triggers (s := e.settings) ?_)
    rw [show w.graph = workflow.graph from rfl, htriggers]
    simp
  refine ⟨trigger, by rw [htriggers]; rfl, hway, ?_,
    Walk.visit_course hvalid s₀ hway (Nat.le_refl _)⟩
  unfold runRecorded
  simp only [hprep, htriggers]
  rfl

/-- A run whose record is made is a walk from the first trigger. -/
theorem runRecorded_walked {d : Diagnostics}
    (h : validate workflow.nodes workflow.edges e.settings = .ok d) (nested : NestedRun σ)
    (input : Json) (runId : Option String) (id : String) (session : Session σ) (store : τ) :
    let w : Walk σ τ := ⟨workflow.graph, workflow.name, e, runId, nested⟩
    let s := e.initialState { executionId := id, vars := workflow.vars } session store
    ∃ trigger s₁ o, Walked e workflow input (e.runRecorded nested workflow input runId s)
      w trigger (w.log none .info "Run started" none s) s₁ o := by
  intro w s
  obtain ⟨-, hvalid, -⟩ := prepare_of_validate h
  let s₀ := w.log none .info "Run started" none s
  have htold : Walk.Told s s₀ := Walk.told_log w _ _ _ _ s
  obtain ⟨rs, hrs⟩ := htold.journal
  obtain ⟨trigger, hhead, hway, hrun, hcourse⟩ :=
    runRecorded_eq_close h nested input runId s
  rw [hrun]
  rcases hv : w.visit w.graph.nodes.length [] .start trigger input s₀ with ⟨o, s₁⟩
  rw [hv] at hcourse
  exact ⟨trigger, s₁, o, {
    graph := rfl
    engine := rfl
    valid := hvalid
    trigger_head := hhead
    trigger_way := hway
    start_context := ⟨id, htold.context⟩
    start_breakers := htold.breakers
    start_journal := ⟨rs, hrs.trans (List.append_nil _)⟩
    course := hcourse
    end_context := close_context ..
    end_journal := close_journal ..
    end_ok := by rintro rfl; exact ⟨_, rfl⟩
    end_error := by rintro err rfl; exact ⟨_, rfl⟩ }⟩

/-- **A run that is accepted** is a walk from the first trigger, which runs the workflows of nodes
in the given way. -/
theorem Accepts.walked_nested (h : e.Accepts workflow input session store)
    (nested : NestedRun σ) : ∃ w trigger s₀ s₁ o, w.nested = nested ∧
      Walked e workflow input (e.runWith nested workflow input session store)
        w trigger s₀ s₁ o := by
  obtain ⟨d, hd⟩ := h.checked
  unfold runWith
  simp only
  have hwalked := runRecorded_walked hd nested input
  cases hs : e.sink with
  | none =>
    obtain ⟨trigger, s₁, o, hw⟩ := hwalked none _ _ store
    exact ⟨_, trigger, _, s₁, o, rfl, hw⟩
  | some sink =>
    obtain ⟨runId, hid⟩ := h.recorded sink hs
    rcases hc : sink.create session.upcomingId session.now workflow.name input store with
      ⟨err | id, store'⟩
    · rw [hc] at hid
      cases hid
    · obtain ⟨trigger, s₁, o, hw⟩ := hwalked (some id) id _ store'
      simp only [hc]
      exact ⟨_, trigger, _, s₁, o, rfl, hw⟩

theorem Accepts.walked (h : e.Accepts workflow input session store) (nested : NestedRun σ) :
    ∃ w trigger s₀ s₁ o, Walked e workflow input (e.runWith nested workflow input session store)
      w trigger s₀ s₁ o := by
  obtain ⟨w, trigger, s₀, s₁, o, -, hw⟩ := h.walked_nested nested
  exact ⟨w, trigger, s₀, s₁, o, hw⟩

/-- A run that is not accepted fails at its start. -/
theorem fail_of_not_accepts (h : ¬ e.Accepts workflow input session store)
    (nested : NestedRun σ) : ∃ (w : Walk σ τ) (started : Nat) (error : Error) (id : String)
      (vars : Fields Json) (session' : Session σ) (store' : τ),
      e.runWith nested workflow input session store =
        fail w started error (e.initialState { executionId := id, vars } session' store') := by
  have hrecorded : (∀ d, validate workflow.nodes workflow.edges e.settings ≠ .ok d) →
      ∀ runId s, ∃ (w : Walk σ τ) (error : Error),
        e.runRecorded nested workflow input runId s = fail w s.session.elapsed error s := by
    intro hcheck runId s
    unfold runRecorded prepare
    cases hd : validate workflow.nodes workflow.edges e.settings with
    | ok d => exact absurd hd (hcheck d)
    | error fault => exact ⟨_, _, rfl⟩
  unfold runWith
  simp only
  cases hs : e.sink with
  | none =>
    have hcheck : ∀ d, validate workflow.nodes workflow.edges e.settings ≠ .ok d := by
      refine fun d hd => h ⟨⟨d, hd⟩, ?_⟩
      rw [hs]
      rintro sink ⟨⟩
    obtain ⟨w, error, heq⟩ := hrecorded hcheck none (e.initialState
      { executionId := session.upcomingId, vars := workflow.vars } (session.startRun e.depth) store)
    exact ⟨w, _, error, _, _, _, _, heq⟩
  | some sink =>
    rcases hc : sink.create session.upcomingId session.now workflow.name input store with
      ⟨err | id, store'⟩
    · simp only [hc]
      exact ⟨_, _, _, _, _, _, _, rfl⟩
    · simp only [hc]
      have hcheck : ∀ d, validate workflow.nodes workflow.edges e.settings ≠ .ok d := by
        refine fun d hd => h ⟨⟨d, hd⟩, ?_⟩
        rw [hs]
        rintro sink ⟨⟩
        exact ⟨id, by rw [hc]⟩
      obtain ⟨w, error, heq⟩ := hrecorded hcheck (some id) (e.initialState
        { executionId := id, vars := workflow.vars } (session.startRun e.depth) store')
      exact ⟨w, _, error, _, _, _, _, heq⟩

/-- A run that is not accepted does nothing but report. -/
theorem journal_of_not_accepts (h : ¬ e.Accepts workflow input session store)
    (nested : NestedRun σ) : ∃ rs : List Report,
      (e.runWith nested workflow input session store).journal = rs.map .reported := by
  obtain ⟨w, started, error, id, vars, session', store', heq⟩ := fail_of_not_accepts h nested
  obtain ⟨rs, hrs⟩ := close_journal w started
    (e.initialState { executionId := id, vars } session' store') (.error error)
  rw [heq]
  exact ⟨rs, by simpa [close, initialState] using hrs⟩

/-- **What a run keeps**: what holds wherever a run starts, and what no report, no counter and no walk
through the graph of the workflow breaks, holds when the run comes to its end. -/
theorem runWith_finish (e : Engine σ τ) (nested : NestedRun σ) (workflow : Workflow) (input : Json)
    (session : Session σ) (store : τ) {I : RunState σ τ → Prop}
    (hstart : ∀ context store, I (e.initialState context (session.startRun e.depth) store))
    (hreport : ∀ (w : Walk σ τ) report s, I s → I (w.report report s))
    (hcount : ∀ (c : Counter) s, I s → I (s.count c))
    (hwalk : ∀ {w : Walk σ τ} {trigger s o s'}, w.engine = e → w.nested = nested →
      w.graph = workflow.graph → w.Course (.visit [] .start trigger input) s o s' → I s → I s') :
    ∃ outcome s, e.runWith nested workflow input session store = e.finish outcome s ∧ I s := by
  have hclose : ∀ (w : Walk σ τ) started o s, w.engine = e → I s →
      ∃ outcome s', close w started (o, s) = e.finish outcome s' ∧ I s' := by
    rintro w started o s rfl hs
    cases o with
    | error error => exact ⟨_, _, rfl, hcount _ _ (hreport _ _ _ hs)⟩
    | ok _ => exact ⟨_, _, rfl, hcount _ _ (hreport _ _ _ hs)⟩
  have hrecorded : ∀ runId s, I s →
      ∃ outcome s', e.runRecorded nested workflow input runId s = e.finish outcome s' ∧ I s' := by
    intro runId s hs
    cases hd : validate workflow.nodes workflow.edges e.settings with
    | error fault =>
      have hfail : e.runRecorded nested workflow input runId s =
          close ⟨⟨[], []⟩, workflow.name, e, runId, nested⟩ s.session.elapsed
            (.error (.structural fault), s) := by
        unfold runRecorded prepare
        rw [hd]
        rfl
      exact hfail ▸ hclose _ _ _ s rfl hs
    | ok d =>
      obtain ⟨trigger, -, -, hrun, hcourse⟩ := runRecorded_eq_close hd nested input runId s
      exact hrun ▸ hclose _ _ _ _ rfl (hwalk rfl rfl rfl hcourse (hreport _ _ _ hs))
  unfold runWith
  simp only
  cases e.sink with
  | none => exact hrecorded none _ (hstart _ store)
  | some sink =>
    simp only
    rcases sink.create session.upcomingId session.now workflow.name input store with
      ⟨err | id, store'⟩
    · exact hclose ⟨⟨[], []⟩, workflow.name, e, none, nested⟩ session.elapsed (.error err) _ rfl
        (hstart _ store')
    · exact hrecorded (some id) _ (hstart _ store')

/-! ### A small engine -/

/-- A handler that gives the configuration of its node as the output. -/
def constant (tag : String) (controlFlow : ControlFlow) : Handler Unit :=
  { tag, controlFlow, behaviour := .pure fun config _ => { data := config }, requiredFields := [] }

/-- A handler that fails. -/
def refusing : Handler Unit :=
  { tag := "refuse", controlFlow := .sequential, requiredFields := []
    behaviour := .fallible fun _ _ => .error (.node (.other "refused")) }

/-- An engine with a trigger, a loop, an error handler and a handler that fails. -/
def small : Engine Unit Unit where
  registry := ⟨[("error_handler", constant "error_handler" .sequential),
    ("loop", constant "loop" .loop), ("refuse", refusing),
    ("step", constant "step" .sequential), ("trigger", constant "trigger" .sequential)]⟩

/-- Nested workflows are not run. -/
def unnested : NestedRun Unit := fun _ _ s => (.error (.node .noRegistry), s)

end Engine

end FlowGraph
