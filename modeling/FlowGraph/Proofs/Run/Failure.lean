import FlowGraph.Proofs.Run.Start

/-! # Failures and the outcome of a run

A failure of a node is noted in the journal, entered among the errors of the context and handed to
the first child that is an error handler. Only a failure without such a child ends the walk, and
nothing is visited or called after it. So the errors of the context tell how a run went: it
completed exactly if every one of them has an error handler, and otherwise the last one, alone
without, is what the run failed with.

* `Settled` says this of any stretch of a walk; `Settled.trans` joins stretches.
* `Course.settled` is the induction over the course, `runWith_outcome` the law of runs. -/

namespace FlowGraph

variable {σ τ : Type}

/-- The node and the wording of a failure. -/
def Event.failure? : Event → Option (String × String)
  | failed id e => some (id, e.message)
  | tooDeep id e => some (id, e.message)
  | _ => none

/-- Whether a node has a child that is an error handler. -/
def Graph.HasErrorHandler (g : Graph) (s : EngineSettings) (id : String) : Prop :=
  ∃ c ∈ g.children id, g.isErrorHandler s c

namespace Walk

variable {w : Walk σ τ}

/-- Whether the failures of a node are handled in a walk. -/
def Handles (w : Walk σ τ) (id : String) : Prop := w.graph.HasErrorHandler w.settings id

theorem handles_of_recovery? {id handler : String} (h : w.recovery? id = some handler) :
    w.Handles id :=
  ⟨handler, recovery?_mem h, List.find?_some h⟩

theorem not_handles_of_recovery? {id : String} (h : w.recovery? id = none) : ¬ w.Handles id := by
  rintro ⟨c, hc, hh⟩
  exact List.find?_eq_none.mp h c hc hh

/-- The event of a failure. -/
def IsMark (mark : Event) (id : String) (e : Error) : Prop :=
  mark = .failed id e ∨ mark = .tooDeep id e

theorem IsMark.failure? {mark : Event} {id : String} {e : Error} (h : IsMark mark id e) :
    mark.failure? = some (id, e.message) := by
  rcases h with rfl | rfl <;> rfl

/-- What the failures since a journal `j` and errors `errs` have to do with an outcome. -/
def Agrees (w : Walk σ τ) (new : List NodeError) (evs : List Event) : Except Error Unit → Prop
  | .ok _ => ∀ x ∈ new, w.Handles x.nodeId
  | .error e => ∃ front last, new = front ++ [last] ∧ (∀ x ∈ front, w.Handles x.nodeId) ∧
      ¬ w.Handles last.nodeId ∧ last.message = e.message ∧
      ∃ (rs : List Report) (mark : Event) (before : List Event),
        evs = rs.map .reported ++ mark :: before ∧ IsMark mark last.nodeId e

/-- **A stretch of a walk** from the errors `errs` and the journal `j` on: the failures in the
journal are the new errors, and they agree with the outcome. -/
def Settled (w : Walk σ τ) (errs : List NodeError) (j : List Event) (o : Except Error Unit)
    (s : RunState σ τ) : Prop :=
  ∃ new evs, s.context.errors = errs ++ new ∧ s.journal = evs ++ j ∧
    evs.reverse.filterMap Event.failure? = new.map (fun x => (x.nodeId, x.message)) ∧
    w.Agrees new evs o

variable {errs : List NodeError} {j : List Event} {o : Except Error Unit} {s s' : RunState σ τ}

/-- A stretch without failures. -/
theorem settled_of_quiet (evs : List Event) (he : s.context.errors = errs)
    (hj : s.journal = evs ++ j) (hq : ∀ ev ∈ evs, ev.failure? = none) :
    w.Settled errs j (.ok ()) s := by
  refine ⟨[], evs, by simp [he], hj, ?_, by simp [Agrees]⟩
  rw [List.filterMap_eq_nil_iff.mpr fun ev hev => hq ev (by simpa using hev)]
  rfl

theorem Settled.trans (h : w.Settled errs j (.ok ()) s)
    (h' : w.Settled s.context.errors s.journal o s') : w.Settled errs j o s' := by
  obtain ⟨new, evs, he, hj, hf, ha⟩ := h
  obtain ⟨new', evs', he', hj', hf', ha'⟩ := h'
  refine ⟨new ++ new', evs' ++ evs, by rw [he', he]; simp, by rw [hj', hj]; simp,
    by simp [hf, hf'], ?_⟩
  cases o with
  | ok _ =>
    intro x hx
    exact (List.mem_append.mp hx).elim (ha x) (ha' x)
  | error e =>
    obtain ⟨front, last, rfl, hfront, hlast, hmsg, rs, mark, before, rfl, hmark⟩ := ha'
    refine ⟨new ++ front, last, by simp, fun x hx => ?_, hlast, hmsg, rs, mark, before ++ evs,
      by simp, hmark⟩
    exact (List.mem_append.mp hx).elim (ha x) (hfront x)

theorem quiet_reports (rs : List Report) : ∀ ev ∈ rs.map Event.reported, ev.failure? = none :=
  List.forall_mem_map.mpr fun _ _ => rfl

/-- **Recording a failure** settles it one way or the other. -/
theorem settled_recordFailure {mark : Event} {id : String} {e : Error} (hs : s.journal = mark :: j)
    (hm : IsMark mark id e) :
    (w.Handles id → w.Settled s.context.errors j (.ok ()) (w.recordFailure id e s)) ∧
    (¬ w.Handles id → w.Settled s.context.errors j (.error e) (w.recordFailure id e s)) := by
  have htold := told_recordFailure w id e s
  obtain ⟨rs, hrs⟩ := htold.journal
  have he : (w.recordFailure id e s).context.errors =
      s.context.errors ++ [⟨id, e.message, s.now⟩] := by rw [htold.context]; rfl
  have hj : (w.recordFailure id e s).journal = (rs.map .reported ++ [mark]) ++ j := by
    rw [hrs, RunState.onContext_journal, hs]; simp
  have hf : (rs.map Event.reported ++ [mark]).reverse.filterMap Event.failure? =
      [(id, e.message)] := by
    have hnil := List.filterMap_eq_nil_iff.mpr fun ev hev =>
      quiet_reports rs ev (List.mem_reverse.mp hev)
    rw [List.reverse_append, List.filterMap_append, hnil]
    simp [hm.failure?]
  constructor
  · intro hh
    exact ⟨_, _, he, hj, hf, by simpa [Agrees] using hh⟩
  · intro hh
    exact ⟨_, _, he, hj, hf, [], _, rfl, by simp, hh, rfl, rs, mark, [], rfl, hm⟩

theorem settled_skip (w : Walk σ τ) (id tag : String) (s : RunState σ τ) :
    w.Settled s.context.errors s.journal (.ok ()) (w.skip id tag s) := by
  have h := told_skip w id tag s
  obtain ⟨rs, hrs⟩ := h.journal
  refine settled_of_quiet (rs.map .reported ++ [.skipped id]) ?_ ?_ ?_
  · exact congrArg (·.errors) h.context
  · rw [hrs]; simp
  · intro ev hev
    rcases List.mem_append.mp hev with hev | hev
    · exact quiet_reports rs ev hev
    · cases List.mem_singleton.mp hev; rfl

theorem settled_enter (w : Walk σ τ) (enclosing : List ActiveVisit) (cause : Cause) (id : String)
    (input : Json) (s : RunState σ τ) :
    w.Settled s.context.errors s.journal (.ok ()) (enter enclosing cause id input s) :=
  settled_of_quiet [.visited id input cause enclosing s.context.loops] rfl rfl
    (by simp [Event.failure?])

theorem settled_invoke_error {node : Workflow.Node} {h : Handler σ} {input : Json} {e : Error}
    (hi : w.invoke node h input s = (.error e, s')) :
    w.Settled s.context.errors s.journal (.ok ()) s' := by
  obtain ⟨hctx, hj | hj⟩ := invoke_error hi
  · exact settled_of_quiet [] (by rw [hctx]) hj (by simp)
  · exact settled_of_quiet [.invoked _] (by rw [hctx]) hj (by simp [Event.failure?])

theorem settled_invoke_ok {node : Workflow.Node} {h : Handler σ} {input output : Json}
    (hi : w.invoke node h input s = (.ok output, s')) :
    w.Settled s.context.errors s.journal (.ok ()) s' := by
  obtain ⟨hctx, rs, hrs⟩ := invoke_ok hi
  refine settled_of_quiet (rs.map .reported ++ [.completed node.id output, .invoked _])
    (by rw [hctx]; rfl) (by rw [hrs]; simp; rfl) ?_
  intro ev hev
  rcases List.mem_append.mp hev with hev | hev
  · exact quiet_reports rs ev hev
  · rcases List.mem_pair.mp hev with rfl | rfl <;> rfl

theorem settled_enterLoop (w : Walk σ τ) (id : String) (total : Nat) (s : RunState σ τ) :
    w.Settled s.context.errors s.journal (.ok ()) (enterLoop id total s) :=
  settled_of_quiet [.entered id _] rfl rfl (by simp [Event.failure?])

/-- What a task settles. The failure that is to be dealt with is in the journal already. -/
def Settles (w : Walk σ τ) (task : Task) (s : RunState σ τ) (o : Except Error Unit)
    (s' : RunState σ τ) : Prop :=
  match task with
  | .recover v _ e => ∀ mark j, s.journal = mark :: j → IsMark mark v.id e →
      w.Settled s.context.errors j o s'
  | _ => w.Settled s.context.errors s.journal o s'

/-- **Every course settles its failures.** -/
theorem Course.settled {task : Task} (h : w.Course task s o s') : w.Settles task s o s' := by
  induction h with
  | skipped hw hn hr =>
    exact (settled_enter w _ _ _ _ _).trans (settled_skip w _ _ _)
  | failed hw hn hr hi hc ih =>
    refine ((settled_enter w _ _ _ _ _).trans (settled_invoke_error hi)).trans ?_
    exact ih _ _ rfl (Or.inl rfl)
  | dispatched hw hn hr hi hf hc ih =>
    exact ((settled_enter w _ _ _ _ _).trans (settled_invoke_ok hi)).trans ih
  | tooDeep hw hn hr hi hf hd hc ih =>
    refine ((settled_enter w _ _ _ _ _).trans (settled_invoke_ok hi)).trans ?_
    exact ih _ _ rfl (Or.inr rfl)
  | looped hw hn hr hi hf hd hc ih =>
    refine ((settled_enter w _ _ _ _ _).trans (settled_invoke_ok hi)).trans ?_
    -- leaving the loop touches neither the errors nor the journal
    exact (settled_enterLoop w _ _ _).trans ih
  | recovered hr hc ih =>
    intro mark j hs hm
    exact ((settled_recordFailure hs hm).1 (handles_of_recovery? hr)).trans ih
  | unrecovered hr =>
    intro mark j hs hm
    exact (settled_recordFailure hs hm).2 (not_handles_of_recovery? hr)
  | sweepNil => exact settled_of_quiet [] rfl rfl (by simp)
  | sweepStop hc ih => exact ih
  | sweepNext hc hn ih ihn => exact ih.trans ihn
  | passesNil => exact settled_of_quiet [] rfl rfl (by simp)
  | passesStop i hleft hc ih => simpa [Settles] using ih
  | passesNext i hleft hc hn ih ihn =>
    have ih' := by simpa [Settles] using ih
    exact Settled.trans ih' ihn

end Walk

namespace Engine

variable {e : Engine σ τ} {workflow : Workflow} {input : Json} {session : Session σ} {store : τ}

/-- The failures of a run are those of its walk. -/
theorem Walked.settled {r : RunReport σ τ} {w : Walk σ τ} {trigger : String} {s₀ s₁ : RunState σ τ}
    {o : Except Error Unit} (hw : Walked e workflow input r w trigger s₀ s₁ o) :
    ∃ (evs : List Event) (rs₀ rs₁ : List Report),
      r.journal = rs₁.map .reported ++ (evs ++ rs₀.map .reported) ∧
      evs.reverse.filterMap Event.failure? =
        r.engine.context.errors.map (fun x => (x.nodeId, x.message)) ∧
      w.Agrees r.engine.context.errors evs o := by
  obtain ⟨id, hctx⟩ := hw.start_context
  obtain ⟨rs₀, hj₀⟩ := hw.start_journal
  obtain ⟨rs₁, hj₁⟩ := hw.end_journal
  obtain ⟨new, evs, he, hj, hf, ha⟩ := hw.course.settled
  have herrors : r.engine.context.errors = new := by
    rw [hw.end_context, he, hctx]
    rfl
  rw [herrors]
  exact ⟨evs, rs₀, rs₁, by rw [hj₁, hj, hj₀], hf, ha⟩

/-- The failures in the journal of a run are those of the context, in the same order. -/
theorem Walked.failures {r : RunReport σ τ} {w : Walk σ τ} {trigger : String} {s₀ s₁ : RunState σ τ}
    {o : Except Error Unit} (hw : Walked e workflow input r w trigger s₀ s₁ o) :
    r.journal.reverse.filterMap Event.failure? =
      r.engine.context.errors.map (fun x => (x.nodeId, x.message)) := by
  obtain ⟨evs, rs₀, rs₁, hjournal, hf, -⟩ := hw.settled
  have hnil : ∀ rs : List Report, (rs.map Event.reported).reverse.filterMap Event.failure? = [] :=
    fun rs => List.filterMap_eq_nil_iff.mpr fun ev hev =>
      Walk.quiet_reports rs ev (List.mem_reverse.mp hev)
  rw [hjournal]
  simp only [List.reverse_append, List.filterMap_append, hnil, hf]
  simp

theorem Walked.handles_eq {r : RunReport σ τ} {w : Walk σ τ} {trigger : String}
    {s₀ s₁ : RunState σ τ} {o : Except Error Unit}
    (hw : Walked e workflow input r w trigger s₀ s₁ o) :
    w.Handles = workflow.graph.HasErrorHandler e.settings := by
  funext id
  simp only [Walk.Handles, Walk.settings, hw.graph, hw.engine]

/-- **Failures and outcome.** A run that is accepted completes exactly if every failure it recorded
is of a node with an error handler. Otherwise it fails with the last failure recorded, the only one
of a node without an error handler, and after that failure nothing happens but reports. The failures
in the journal are those of the context, in the same order. -/
theorem runWith_outcome (h : e.Accepts workflow input session store) (nested : NestedRun σ) :
    let r := e.runWith nested workflow input session store
    let errors := r.engine.context.errors
    let handled := workflow.graph.HasErrorHandler e.settings
    ((∃ success, r.outcome = .ok success) ↔ ∀ x ∈ errors, handled x.nodeId) ∧
    r.journal.reverse.filterMap Event.failure? = errors.map (fun x => (x.nodeId, x.message)) ∧
    ∀ failure, r.outcome = .error failure → failure.errors = errors ∧
      ∃ front last, errors = front ++ [last] ∧ (∀ x ∈ front, handled x.nodeId) ∧
        ¬ handled last.nodeId ∧ last.message = failure.error.message ∧
        ∃ (rs : List Report) (mark : Event) (before : List Event),
          r.journal = rs.map .reported ++ mark :: before ∧
          (mark = .failed last.nodeId failure.error ∨
            mark = .tooDeep last.nodeId failure.error) := by
  intro r errors handled
  obtain ⟨w, trigger, s₀, s₁, o, hw⟩ := h.walked nested
  obtain ⟨evs, rs₀, rs₁, hjournal, hf, ha⟩ := hw.settled
  have hhandled : w.Handles = handled := hw.handles_eq
  have hfailures := hw.failures
  cases o with
  | ok _ =>
    obtain ⟨d, hok⟩ := hw.end_ok rfl
    refine ⟨⟨fun _ => hhandled ▸ ha, fun _ => ⟨_, hok⟩⟩, hfailures, fun failure hfail => ?_⟩
    rw [show r.outcome = _ from hok] at hfail
    cases hfail
  | error err =>
    obtain ⟨d, herr⟩ := hw.end_error err rfl
    obtain ⟨front, last, hnew, hfront, hlast, hmsg, rs, mark, before, rfl, hmark⟩ := ha
    rw [hhandled] at hfront hlast
    refine ⟨⟨fun hok => ?_, fun hall => ?_⟩, hfailures, fun failure hfail => ?_⟩
    · obtain ⟨success, hok⟩ := hok
      rw [show r.outcome = _ from herr] at hok
      cases hok
    · exact absurd (hall last (by simp [errors, r, hnew])) hlast
    · rw [show r.outcome = _ from herr] at hfail
      cases hfail
      refine ⟨hw.end_context ▸ rfl, front, last, hnew, hfront, hlast, hmsg, rs₁ ++ rs, mark,
        before ++ rs₀.map .reported, ?_, hmark⟩
      rw [show r.journal = _ from hjournal]
      simp

/-- Two nodes fail, and only the first of them has an error handler. -/
def halfHandled : Workflow where
  nodes := [{ id := "start", tag := "trigger" }, { id := "a", tag := "refuse" },
    { id := "rescue", tag := "error_handler" }, { id := "b", tag := "refuse" },
    { id := "never", tag := "step" }]
  edges := [⟨"start", "a"⟩, ⟨"a", "rescue"⟩, ⟨"start", "b"⟩, ⟨"start", "never"⟩]

theorem runWith_outcome_halfHandled :
    small.Accepts halfHandled .null .dawn () ∧
    let r := small.runWith unnested halfHandled .null .dawn ()
    r.engine.context.errors.map (·.nodeId) = ["a", "b"] ∧
      halfHandled.graph.HasErrorHandler small.settings "a" ∧
      ¬ halfHandled.graph.HasErrorHandler small.settings "b" ∧
      ¬ ∃ success, r.outcome = .ok success := by
  have haccepts : small.Accepts halfHandled .null .dawn () :=
    ⟨⟨_, rfl⟩, fun _ h => by cases h⟩
  have hb : ¬ halfHandled.graph.HasErrorHandler small.settings "b" := by
    rintro ⟨c, hc, -⟩
    rw [show halfHandled.graph.children "b" = [] from rfl] at hc
    cases hc
  refine ⟨haccepts, rfl, ⟨"rescue", by decide, rfl⟩, hb, ?_⟩
  obtain ⟨hiff, -, -⟩ := runWith_outcome haccepts unnested
  rw [hiff]
  intro hall
  exact hb (hall ⟨"b", "Node error: refused", ⟨0, 0⟩⟩ (by decide))

end Engine

end FlowGraph
