import FlowGraph.Proofs.Run.Failure
import FlowGraph.Proofs.Walk.Filing
import FlowGraph.Proofs.Walk.Memory
import FlowGraph.Proofs.Walk.Moments
import Mathlib.Algebra.Ring.Int.Defs

/-! # The accounts of a run

The context of a run keeps count of what the run does: the nodes that completed and the last of
them, their outputs, when every node last started, and the failures. These are written at different
moments of a visit, but at every moment they agree with the journal.

* `Accounts` says what they agree on, `steady_accounts` that no step of a walk breaks it.
* `Event.weight` makes a balance of the journal, in which a visit is open until it has an outcome.
  `Course.balance`: a task leaves no visit open that it began.
* `runWith_accounts` is the law of runs. -/

namespace FlowGraph

variable {σ τ : Type}

/-! ### Outcomes in a journal -/

/-- The node that an event passes over, because it has no handler. -/
def Event.skipped? : Event → Option String
  | .skipped id => some id
  | _ => none

/-- The node that an event lets fail. -/
def Event.failed? : Event → Option String
  | .failed id _ => some id
  | _ => none

/-- The loop that an event turns away. -/
def Event.tooDeep? : Event → Option String
  | .tooDeep id _ => some id
  | _ => none

/-- The nodes without a handler that were passed over, the first one first. -/
def skips (j : List Event) : List String := j.reverse.filterMap Event.skipped?

/-- The nodes that failed, the first one first. -/
def breakdowns (j : List Event) : List String := j.reverse.filterMap Event.failed?

/-- The loops that were turned away, the first one first. -/
def refusals (j : List Event) : List String := j.reverse.filterMap Event.tooDeep?

theorem length_filterMap_cons {α : Type} (f : Event → Option α) (ev : Event) (j : List Event) :
    ((ev :: j).reverse.filterMap f).length =
      (j.reverse.filterMap f).length + (f ev).toList.length := by
  cases h : f ev <;> simp [h]

/-- A failure is one of two kinds. -/
theorem length_failures (j : List Event) :
    (j.reverse.filterMap Event.failure?).length = (breakdowns j).length + (refusals j).length := by
  unfold breakdowns refusals
  induction j with
  | nil => rfl
  | cons ev j ih =>
    have hkind : ev.failure?.toList.length =
        ev.failed?.toList.length + ev.tooDeep?.toList.length := by
      cases ev <;> rfl
    rw [length_filterMap_cons, length_filterMap_cons, length_filterMap_cons]
    omega

/-! ### The balance of visits -/

/-- What an event adds to the visits without an outcome. -/
def Event.weight : Event → Int
  | .visited .. => 1
  | .skipped _ => -1
  | .completed .. => -1
  | .failed .. => -1
  | _ => 0

/-- The visits without an outcome. -/
def balance (j : List Event) : Int := (j.map Event.weight).sum

@[simp] theorem balance_cons (ev : Event) (j : List Event) :
    balance (ev :: j) = ev.weight + balance j := by
  simp [balance]

@[simp] theorem balance_reports (rs : List Report) (j : List Event) :
    balance (rs.map .reported ++ j) = balance j := by
  induction rs with
  | nil => rfl
  | cons r rs ih => simpa [Event.weight] using ih

/-- **The visits are those with an outcome and those without one.** -/
theorem length_visits (j : List Event) :
    ((visits j).length : Int) =
      (completions j).length + (skips j).length + (breakdowns j).length + balance j := by
  unfold visits completions skips breakdowns
  induction j with
  | nil => rfl
  | cons ev j ih =>
    have hweight : (ev.visited?.toList.length : Int) = ev.completed?.toList.length +
        ev.skipped?.toList.length + ev.failed?.toList.length + ev.weight := by
      cases ev <;> rfl
    rw [length_filterMap_cons, length_filterMap_cons, length_filterMap_cons, length_filterMap_cons,
      balance_cons]
    omega

namespace Walk

variable {w : Walk σ τ} {s s' : RunState σ τ} {o : Except Error Unit}

theorem Told.balance_eq (h : Told s s') : balance s'.journal = balance s.journal := by
  obtain ⟨rs, hrs⟩ := h.journal
  rw [hrs, balance_reports]

theorem balance_recordFailure (w : Walk σ τ) (id : String) (e : Error) (s : RunState σ τ) :
    balance (w.recordFailure id e s).journal = balance s.journal :=
  (told_recordFailure w id e s).balance_eq

theorem balance_enter (enclosing : List ActiveVisit) (cause : Cause) (id : String) (input : Json)
    (s : RunState σ τ) :
    balance (enter enclosing cause id input s).journal = 1 + balance s.journal := by
  simp [enter, Event.weight]

/-- A visit of a node without a handler is over at once. -/
theorem balance_enter_skip (w : Walk σ τ) (enclosing : List ActiveVisit) (cause : Cause)
    (id : String) (input : Json) (tag : String) (s : RunState σ τ) :
    balance (w.skip id tag (enter enclosing cause id input s)).journal = balance s.journal := by
  rw [(told_skip w id tag _).balance_eq, RunState.note_journal, balance_cons, balance_enter]
  exact Int.neg_add_cancel_left 1 _

/-- A visit whose node fails is still open when the handler has answered. -/
theorem balance_enter_error {enclosing : List ActiveVisit} {cause : Cause} {id : String}
    {input : Json} {node : Workflow.Node} {h : Handler σ} {e : Error}
    (hi : w.invoke node h input (enter enclosing cause id input s) = (.error e, s')) :
    balance (s'.note (.failed id e)).journal = balance s.journal := by
  have henter := balance_enter enclosing cause id input s
  have hcall : balance s'.journal = balance (enter enclosing cause id input s).journal := by
    rcases (invoke_error hi).2 with hj | hj
    · rw [hj]
    · rw [hj]
      simp [Event.weight]
  rw [RunState.note_journal, balance_cons, hcall, henter]
  exact Int.neg_add_cancel_left 1 _

/-- A visit whose node completes has its outcome. -/
theorem balance_enter_ok {enclosing : List ActiveVisit} {cause : Cause} {id : String}
    {input output : Json} {node : Workflow.Node} {h : Handler σ}
    (hi : w.invoke node h input (enter enclosing cause id input s) = (.ok output, s')) :
    balance s'.journal = balance s.journal := by
  obtain ⟨-, rs, hj⟩ := invoke_ok hi
  rw [hj, balance_reports, balance_cons, balance_cons, balance_enter]
  simp only [Event.weight]
  omega

/-- **A task leaves no visit open** that it began. -/
theorem Course.balance {task : Task} (h : w.Course task s o s') :
    balance s'.journal = balance s.journal := by
  induction h with
  | skipped hw hn hr => exact balance_enter_skip ..
  | failed hw hn hr hi hc ih => exact ih.trans (balance_enter_error hi)
  | dispatched hw hn hr hi hf hc ih => exact ih.trans (balance_enter_ok hi)
  | tooDeep hw hn hr hi hf hd hc ih =>
    rw [ih, RunState.note_journal, balance_cons, balance_enter_ok hi]
    simp [Event.weight]
  | looped hw hn hr hi hf hd hc ih =>
    refine ih.trans ?_
    rw [show (enterLoop _ _ _).journal = _ :: _ from rfl, balance_cons, RunState.onContext_journal,
      balance_enter_ok hi]
    simp [Event.weight]
  | recovered hr hc ih => exact ih.trans (balance_recordFailure ..)
  | unrecovered hr => exact balance_recordFailure ..
  | sweepNil => rfl
  | sweepStop hc ih => exact ih
  | sweepNext hc hn ih ihn => exact ihn.trans ih
  | passesNil => rfl
  | passesStop i hleft hc ih => exact ih
  | passesNext i hleft hc hn ih ihn => exact ihn.trans ih

end Walk

/-! ### Accounts -/

/-- **What an event stands on**: a node completes right after its handler was called, and a loop is
turned away right after it has completed. -/
def Grounded (_ : List Event) (ev : Event) (before : List Event) : Prop :=
  match ev with
  | .completed id _ => JustCalled id before
  | .tooDeep id _ => JustCompleted id before
  | _ => True

theorem lasting_grounded : Lasting Grounded := fun _ _ _ _ h => h

/-- **The accounts of a run** that started with the context `start`: what the context says agrees
with what the journal says up to the same moment. -/
structure Accounts (start : RunContext) (s : RunState σ τ) : Prop where
  executionId : s.context.executionId = start.executionId
  vars : s.context.vars = start.vars
  nodesExecuted : s.context.nodesExecuted = (completions s.journal).length
  lastCompleted : s.context.lastCompleted = (completions s.journal).getLast?
  outputs : ∀ id, id ∈ Fields.names s.context.outputs ↔ id ∈ completions s.journal
  checkpoints : ∀ id, id ∈ Fields.names s.context.checkpoints ↔ id ∈ visits s.journal
  outputs_subset : Fields.names s.context.outputs ⊆ Fields.names s.context.checkpoints
  errors_subset : s.context.errors.map (·.nodeId) ⊆ Fields.names s.context.checkpoints
  grounded : Stretch Grounded [] s.journal

/-- An event that changes no account. -/
def IsUncounted (ev : Event) : Prop :=
  ev.visited? = none ∧ ev.completed? = none ∧ ev.tooDeep? = none

theorem uncounted_reports (rs : List Report) : ∀ ev ∈ rs.map Event.reported, IsUncounted ev :=
  List.forall_mem_map.mpr fun _ _ => ⟨rfl, rfl, rfl⟩

section

variable {evs : List Event} (h : ∀ ev ∈ evs, IsUncounted ev) (j : List Event)
include h

theorem visits_uncounted : visits (evs ++ j) = visits j :=
  visits_append j fun ev hev => (h ev hev).1

theorem completions_uncounted : completions (evs ++ j) = completions j :=
  completions_append j fun ev hev => (h ev hev).2.1

theorem stretch_uncounted : Stretch Grounded j (evs ++ j) := by
  refine Stretch.of_forall evs fun ev hev after before => ?_
  obtain ⟨-, hcompleted, hdeep⟩ := h ev hev
  cases ev <;> trivial

end

namespace Accounts

variable {start : RunContext} {s s' : RunState σ τ} (h : Accounts start s)
include h

/-- A step that changes nothing but the loops around a visit. -/
theorem uncounted (evs : List Event)
    (hctx : s'.context = { s.context with loops := s'.context.loops })
    (hj : s'.journal = evs ++ s.journal) (hevs : ∀ ev ∈ evs, IsUncounted ev) :
    Accounts start s' := by
  have hvisits : visits s'.journal = visits s.journal := hj ▸ visits_uncounted hevs _
  have hcompletions : completions s'.journal = completions s.journal :=
    hj ▸ completions_uncounted hevs _
  constructor
  · rw [hctx]; exact h.executionId
  · rw [hctx]; exact h.vars
  · rw [hctx, hcompletions]; exact h.nodesExecuted
  · rw [hctx, hcompletions]; exact h.lastCompleted
  · rw [hctx, hcompletions]; exact h.outputs
  · rw [hctx, hvisits]; exact h.checkpoints
  · rw [hctx]; exact h.outputs_subset
  · rw [hctx]; exact h.errors_subset
  · rw [hj]; exact h.grounded.trans lasting_grounded (stretch_uncounted hevs _)

theorem told (ht : Walk.Told s s') : Accounts start s' := by
  obtain ⟨rs, hrs⟩ := ht.journal
  exact h.uncounted _ (by rw [ht.context]) hrs (uncounted_reports rs)

theorem enter (enclosing : List ActiveVisit) (cause : Cause) (id : String) (input : Json) :
    Accounts start (Walk.enter enclosing cause id input s) := by
  have hmore : Fields.names s.context.checkpoints ⊆
      Fields.names (Walk.enter enclosing cause id input s).context.checkpoints :=
    fun _ hid => Fields.mem_names_insert.mpr (Or.inr hid)
  have hevent : ∀ ev ∈ [Event.visited id input cause enclosing s.context.loops],
      ev.completed? = none := by simp [Event.completed?]
  have hcompletions : completions (Walk.enter enclosing cause id input s).journal =
      completions s.journal := completions_append _ hevent
  constructor
  · exact h.executionId
  · exact h.vars
  · rw [hcompletions]; exact h.nodesExecuted
  · rw [hcompletions]; exact h.lastCompleted
  · rw [hcompletions]; exact h.outputs
  · intro n
    simp only [Walk.enter, RunState.onContext_context, RunState.note_context,
      RunState.onContext_journal, RunState.note_journal, RunContext.checkpoint]
    rw [Fields.mem_names_insert, h.checkpoints, visits_visited, List.mem_append, List.mem_singleton]
    exact or_comm
  · exact List.Subset.trans h.outputs_subset hmore
  · exact List.Subset.trans h.errors_subset hmore
  · exact h.grounded.trans lasting_grounded (Stretch.of_forall [_] (by simp [Grounded]))

theorem complete (w : Walk σ τ) {id : String} (hid : id ∈ visits s.journal)
    (hcalled : JustCalled id s.journal) (output : Json) :
    Accounts start (w.complete id output s) := by
  obtain ⟨hctx, rs, hj⟩ := Walk.complete_effect w id output s
  have hcompletions : completions (w.complete id output s).journal =
      completions s.journal ++ [id] := by
    rw [hj, completions_uncounted (uncounted_reports rs), completions_completed]
  have hvisits : visits (w.complete id output s).journal = visits s.journal := by
    have hevent : ∀ ev ∈ [Event.completed id output], ev.visited? = none := by
      simp [Event.visited?]
    rw [hj, visits_uncounted (uncounted_reports rs)]
    exact visits_append _ hevent
  constructor
  · rw [hctx]; exact h.executionId
  · rw [hctx]; exact h.vars
  · rw [hctx, hcompletions, List.length_append]
    exact congrArg (· + 1) h.nodesExecuted
  · rw [hctx, hcompletions, List.getLast?_append]
    rfl
  · intro n
    rw [hctx, hcompletions, List.mem_append, List.mem_singleton, ← h.outputs]
    exact Fields.mem_names_insert.trans or_comm
  · rw [hctx, hvisits]; exact h.checkpoints
  · rw [hctx]
    intro n hn
    rcases Fields.mem_names_insert.mp hn with rfl | hn
    · exact (h.checkpoints n).mpr hid
    · exact h.outputs_subset hn
  · rw [hctx]; exact h.errors_subset
  · rw [hj]
    have hevent : Stretch Grounded s.journal (.completed id output :: s.journal) :=
      (Stretch.refl _).first fun _ _ => hcalled
    exact (h.grounded.trans lasting_grounded hevent).trans lasting_grounded
      (stretch_uncounted (uncounted_reports rs) _)

theorem tooDeep {id : String} (hid : JustCompleted id s.journal) (e : Error) :
    Accounts start (s.note (.tooDeep id e)) := by
  have hevent : ∀ ev ∈ [Event.tooDeep id e], ev.visited? = none ∧ ev.completed? = none := by
    simp [Event.visited?, Event.completed?]
  have hvisits : visits (s.note (.tooDeep id e)).journal = visits s.journal :=
    visits_append _ fun ev hev => (hevent ev hev).1
  have hcompletions : completions (s.note (.tooDeep id e)).journal = completions s.journal :=
    completions_append _ fun ev hev => (hevent ev hev).2
  have hrefusal : Stretch Grounded s.journal (.tooDeep id e :: s.journal) :=
    (Stretch.refl _).first fun _ _ => hid
  exact { h with
    nodesExecuted := by rw [hcompletions]; exact h.nodesExecuted
    lastCompleted := by rw [hcompletions]; exact h.lastCompleted
    outputs := by rw [hcompletions]; exact h.outputs
    checkpoints := by rw [hvisits]; exact h.checkpoints
    grounded := h.grounded.trans lasting_grounded hrefusal }

theorem recordFailure (w : Walk σ τ) {id : String} (hid : id ∈ visits s.journal) (e : Error) :
    Accounts start (w.recordFailure id e s) := by
  have hrecorded : Accounts start (s.onContext (·.recordError id e.message s.now)) := by
    refine { h with errors_subset := ?_ }
    rw [RunState.onContext_context, RunContext.recordError, List.map_append]
    refine List.append_subset.mpr ⟨h.errors_subset, ?_⟩
    simpa using (h.checkpoints id).mpr hid
  exact hrecorded.told (Walk.told_recordFailure w id e s)

end Accounts

/-- **No step of a walk breaks the accounts.** -/
theorem steady_accounts (w : Walk σ τ) (start : RunContext) : w.Steady (Accounts start) where
  enter enclosing cause id input s h := h.enter enclosing cause id input
  skip id tag s h := by
    have hnote : Accounts start (s.note (.skipped id)) :=
      h.uncounted [_] rfl rfl (by simp [IsUncounted, Event.visited?, Event.completed?,
        Event.tooDeep?])
    exact hnote.told (Walk.told_skip w id tag s)
  call node hd input c s outcome s' hc h := by
    obtain ⟨hctx, hj | ⟨hj, -⟩⟩ := Walk.callGuarded_effect hc
    · exact h.uncounted [_] (by rw [hctx]) hj (by simp [IsUncounted, Event.visited?,
        Event.completed?, Event.tooDeep?])
    · exact h.uncounted [] (by rw [hctx]) hj (by simp)
  count c s h := h.uncounted [] rfl rfl (by simp)
  complete id output s hid hcalled h := h.complete w hid hcalled output
  failed id e s h := h.uncounted [_] rfl rfl (by simp [IsUncounted, Event.visited?,
    Event.completed?, Event.tooDeep?])
  tooDeep id e s hid h := h.tooDeep hid e
  recordFailure id e s hid h := h.recordFailure w hid e
  enterLoop id total s h := h.uncounted [_] rfl rfl (by simp [IsUncounted,
    Event.visited?, Event.completed?, Event.tooDeep?])
  setIteration i s h := by
    refine h.uncounted [] ?_ rfl (by simp)
    simp only [RunState.onContext_context, RunContext.setIteration]
    split <;> rfl
  popLoop s h := h.uncounted [] rfl rfl (by simp)

theorem uncounted_of_reports (rs : List Report) : visits (rs.map .reported) = [] ∧
    completions (rs.map .reported) = [] ∧ Stretch Grounded [] (rs.map .reported) := by
  have hrs := uncounted_reports rs
  have hvisits := visits_uncounted hrs []
  have hcompletions := completions_uncounted hrs []
  have hgrounded := stretch_uncounted hrs []
  rw [List.append_nil] at hvisits hcompletions hgrounded
  exact ⟨hvisits, hcompletions, hgrounded⟩

theorem accounts_start {s : RunState σ τ} {id : String} {vars : Fields Json} {rs : List Report}
    (hctx : s.context = { executionId := id, vars }) (hj : s.journal = rs.map .reported) :
    Accounts s.context s := by
  obtain ⟨hvisits, hcompletions, hgrounded⟩ := uncounted_of_reports rs
  constructor
  · rfl
  · rfl
  · rw [hctx, hj, hcompletions]; rfl
  · rw [hctx, hj, hcompletions]; rfl
  · rw [hctx, hj, hcompletions]; simp [Fields.names]
  · rw [hctx, hj, hvisits]; simp [Fields.names]
  · rw [hctx]; simp [Fields.names]
  · rw [hctx]; simp
  · rw [hj]; exact hgrounded

namespace Engine

variable {e : Engine σ τ} {nested : NestedRun σ} {workflow : Workflow} {input : Json}
  {session : Session σ} {store : τ}

/-- **The balance of a run** at its end: every visit has one outcome, the failures of the context
are those of the journal, and a loop that was turned away has completed first. -/
structure Balanced (r : RunReport σ τ) : Prop where
  visits : (visits r.journal).length =
    r.engine.context.nodesExecuted + (skips r.journal).length + (breakdowns r.journal).length
  errors : r.engine.context.errors.map (fun x => (x.nodeId, x.message)) =
    r.journal.reverse.filterMap Event.failure?
  length_errors : r.engine.context.errors.length =
    (breakdowns r.journal).length + (refusals r.journal).length
  refusals : ∀ after id err before, r.journal = after ++ .tooDeep id err :: before →
    JustCompleted id before

/-- A run whose visits all have an outcome is balanced. -/
theorem balanced_of_accounts {r : RunReport σ τ} {start : RunContext} {s : RunState σ τ}
    {rs : List Report} (hs : Accounts start s) (hctx : r.engine.context = s.context)
    (hj : r.journal = rs.map .reported ++ s.journal) (hb : balance s.journal = 0)
    (herrors : r.engine.context.errors.map (fun x => (x.nodeId, x.message)) =
      r.journal.reverse.filterMap Event.failure?) : Balanced r where
  visits := by
    have hcount := length_visits r.journal
    have hcompletions : completions r.journal = completions s.journal :=
      hj ▸ completions_uncounted (uncounted_reports rs) _
    have hbalance : balance r.journal = 0 := by rw [hj, balance_reports, hb]
    rw [hctx, hs.nodesExecuted, ← hcompletions]
    omega
  errors := herrors
  length_errors := by rw [← length_failures, ← herrors, List.length_map]
  refusals after id err before heq := by
    have hgrounded : Stretch Grounded [] r.journal := by
      rw [hj]
      exact hs.grounded.trans lasting_grounded (stretch_uncounted (uncounted_reports rs) _)
    exact hgrounded.get heq

/-- A run that is not accepted has nothing to account for. -/
theorem balanced_of_not_accepts (h : ¬ e.Accepts workflow input session store)
    (nested : NestedRun σ) : Balanced (e.runWith nested workflow input session store) := by
  obtain ⟨w, started, error, id, vars, session', store', heq⟩ := fail_of_not_accepts h nested
  let s : RunState σ τ := e.initialState { executionId := id, vars } session' store'
  have hctx := close_context w started s (.error error)
  obtain ⟨rs, hj⟩ := close_journal w started s (.error error)
  have hstart : Accounts s.context s :=
    accounts_start rfl (show s.journal = ([] : List Report).map .reported from rfl)
  have hreports : (rs.map Event.reported).reverse.filterMap Event.failure? = [] :=
    List.filterMap_eq_nil_iff.mpr fun ev hev =>
      Walk.quiet_reports rs ev (List.mem_reverse.mp hev)
  rw [heq]
  refine balanced_of_accounts hstart hctx hj rfl ?_
  rw [show (fail w started error s).engine.context = _ from hctx,
    show (fail w started error s).journal = _ from hj, show s.journal = [] from rfl,
    List.append_nil, hreports]
  rfl

/-- **The accounts of a run.** At every moment of the walk of a run, the context agrees with what
the run has done so far: it counts the nodes that completed, each right after a call of its handler,
and names the last of them, it has outputs of exactly these and checkpoints of exactly the nodes
that were visited, its failures are of nodes that were visited, and the variables and the name of
the run are those of the start. At the end every visit has completed, was passed over or has failed;
the other failures are those of loops that were turned away, each right after it had completed. -/
theorem runWith_accounts (e : Engine σ τ) (nested : NestedRun σ) (workflow : Workflow)
    (input : Json) (session : Session σ) (store : τ) :
    let r := e.runWith nested workflow input session store
    Balanced r ∧ (e.Accepts workflow input session store →
      ∃ w trigger s₀ s₁ o, w.nested = nested ∧ Walked e workflow input r w trigger s₀ s₁ o ∧
        s₀.context.vars = workflow.vars ∧ r.engine.context = s₁.context ∧
        ∀ t, w.Moment (.visit [] .start trigger input) s₀ t →
          t.journal <:+ r.journal ∧ Accounts s₀.context t) := by
  intro r
  by_cases haccepts : e.Accepts workflow input session store
  · obtain ⟨w, trigger, s₀, s₁, o, hnested, hw⟩ := haccepts.walked_nested nested
    obtain ⟨id, hctx⟩ := hw.start_context
    obtain ⟨rs₀, hj₀⟩ := hw.start_journal
    obtain ⟨rs₁, hj₁⟩ := hw.end_journal
    have hstart : Accounts s₀.context s₀ := accounts_start hctx hj₀
    have hmoment : ∀ t, w.Moment (.visit [] .start trigger input) s₀ t → Accounts s₀.context t :=
      fun t ht => (steady_accounts w _).moment ht trivial hstart
    have hbalance : balance s₁.journal = 0 := by
      rw [hw.course.balance, hj₀, ← List.append_nil (rs₀.map _), balance_reports]
      rfl
    have herrors := hw.failures.symm
    have hbalanced := balanced_of_accounts (hmoment s₁ (.ended hw.course)) hw.end_context hj₁
      hbalance herrors
    refine ⟨hbalanced, fun _ => ⟨w, trigger, s₀, s₁, o, hnested, hw, by rw [hctx], hw.end_context,
      fun t ht => ⟨?_, hmoment t ht⟩⟩⟩
    rw [show r.journal = _ from hj₁]
    exact (ht.suffix_end hw.valid hw.course).trans (List.suffix_append _ _)
  · exact ⟨balanced_of_not_accepts haccepts nested, fun h => absurd h haccepts⟩

/-- A node without a handler, one that fails, and a loop that is turned away. -/
def troubled : Workflow where
  nodes := [{ id := "start", tag := "trigger" }, { id := "m", tag := "mystery" },
    { id := "a", tag := "refuse" }, { id := "rescue", tag := "error_handler" },
    { id := "l", tag := "loop" }]
  edges := [⟨"start", "m"⟩, ⟨"start", "a"⟩, ⟨"a", "rescue"⟩, ⟨"start", "l"⟩, ⟨"l", "rescue"⟩]

/-- The small engine without room for a loop. -/
def loopless : Engine Unit Unit := small.withSettings { maxLoopDepth := 0 }

/-- Six visits: four completed, one was passed over and one failed. -/
theorem runWith_accounts_troubled :
    loopless.Accepts troubled .null .dawn () ∧
    let r := loopless.runWith unnested troubled .null .dawn ()
    visits r.journal = ["start", "m", "a", "rescue", "l", "rescue"] ∧
      r.engine.context.nodesExecuted = 4 ∧ skips r.journal = ["m"] ∧
      breakdowns r.journal = ["a"] ∧ refusals r.journal = ["l"] ∧
      r.engine.context.errors.map (·.nodeId) = ["a", "l"] ∧
      ∃ w trigger s₀ s₁ o, Walked loopless troubled .null r w trigger s₀ s₁ o ∧
        r.engine.context = s₁.context ∧ Accounts s₀.context s₁ := by
  have haccepts : loopless.Accepts troubled .null .dawn () := ⟨⟨_, rfl⟩, fun _ h => by cases h⟩
  obtain ⟨-, hwalk⟩ := runWith_accounts loopless unnested troubled .null .dawn ()
  obtain ⟨w, trigger, s₀, s₁, o, -, hw, -, hctx, hmoment⟩ := hwalk haccepts
  obtain ⟨-, haccounts⟩ := hmoment s₁ (.ended hw.course)
  exact ⟨haccepts, by decide, by decide, by decide, by decide, by decide, by decide, w, trigger,
    s₀, s₁, o, hw, hctx, haccounts⟩

end Engine

end FlowGraph
