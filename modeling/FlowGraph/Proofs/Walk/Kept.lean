import FlowGraph.Proofs.Walk.Course
import FlowGraph.Proofs.Walk.Journal

/-! # What a visit leaves as it was

A visit changes much in the state of a run, but some things are after it what they were before: the
stack of loops, the last outputs of the nodes around it, and what is in the journal already. The
stack comes back because a loop takes away the frame that it put there, however its passes end; the
outputs stay because no way along the edges leads back to a node.

* `loops_visit`: every visit gives the stack back, in any walk and from any state; `Course.keeps`
  says the same of the course.
* `Course.lastOutput_eq`: a task completes none of the nodes around it (`Task.around`).
* `Course.suffix`: a journal only grows. -/

namespace FlowGraph

variable {σ τ : Type}

namespace Task

/-- The nodes of the visits under way around a task. -/
def around : Task → List String
  | .visit enclosing _ _ _ => enclosing.map (·.id)
  | .recover v enclosing _ => (v :: enclosing).map (·.id)
  | .sweep chain _ _ _ => chain.map (·.id)
  | .passes v enclosing _ _ => (v :: enclosing).map (·.id)

/-- What a task does to the stack: passes change the innermost loop only, any other task gives the
stack back. -/
def Keeps (task : Task) (s s' : RunState σ τ) : Prop :=
  match task with
  | .passes .. => s'.context.loops.tail = s.context.loops.tail
  | _ => s'.context.loops = s.context.loops

end Task

namespace Walk

variable {w : Walk σ τ} {s s' : RunState σ τ} {o : Except Error Unit}

theorem Told.lastOutput_eq (h : Told s s') (id : String) :
    lastOutput? id s'.journal = lastOutput? id s.journal := by
  obtain ⟨rs, hrs⟩ := h.journal
  rw [hrs, lastOutput?_reports]

/-! ### The stack of loops -/

theorem loops_recordFailure (w : Walk σ τ) (id : String) (e : Error) (s : RunState σ τ) :
    (w.recordFailure id e s).context.loops = s.context.loops := by
  rw [(told_recordFailure w id e s).context]
  simp

theorem loops_skip (w : Walk σ τ) (id tag : String) (s : RunState σ τ) :
    (w.skip id tag s).context.loops = s.context.loops := by
  rw [(told_skip w id tag s).context]
  simp

theorem loops_enter (enclosing : List ActiveVisit) (cause : Cause) (id : String) (input : Json)
    (s : RunState σ τ) : (enter enclosing cause id input s).context.loops = s.context.loops := by
  simp [enter]

theorem loops_invoke {node : Workflow.Node} {h : Handler σ} {input : Json}
    {outcome : Except Error Json} (hi : w.invoke node h input s = (outcome, s')) :
    s'.context.loops = s.context.loops := by
  cases outcome with
  | error e => rw [(invoke_error hi).1]
  | ok output => rw [(invoke_ok hi).1]; simp

theorem loops_enterLoop (id : String) (total : Nat) (s : RunState σ τ) :
    (enterLoop id total s).context.loops = ⟨id, 0, total⟩ :: s.context.loops := rfl

theorem loops_sweep {go : String → Step σ τ}
    (hgo : ∀ id s, (go id s).2.context.loops = s.context.loops) :
    ∀ (ids : List String) (s : RunState σ τ),
      (sweep go ids s).2.context.loops = s.context.loops
  | [], _ => rfl
  | id :: rest, s => by
    have hid := hgo id s
    unfold sweep
    rcases hv : go id s with ⟨_ | _, s₁⟩
    · rw [hv] at hid
      exact hid
    · rw [hv] at hid
      exact (loops_sweep hgo rest s₁).trans hid

/-- Passes change the innermost loop only. -/
theorem tail_loops_passes {go : Nat → String → Step σ τ} {children : List String} {total : Nat}
    (hgo : ∀ i id s, (go i id s).2.context.loops = s.context.loops) :
    ∀ (left : Nat) (s : RunState σ τ),
      (passes go children total left s).2.context.loops.tail = s.context.loops.tail
  | 0, _ => rfl
  | left + 1, s => by
    have hsweep := loops_sweep (hgo (total - (left + 1))) children
      (s.onContext (·.setIteration (total - (left + 1) + 1)))
    have htail := congrArg List.tail hsweep
    simp only [RunState.onContext_context, RunContext.tail_loops_setIteration] at htail
    unfold passes
    simp only
    rcases hv : sweep (go (total - (left + 1))) children
      (s.onContext (·.setIteration (total - (left + 1) + 1))) with ⟨_ | _, s₁⟩
    · rw [hv] at htail
      exact htail
    · rw [hv] at htail
      exact (tail_loops_passes hgo left s₁).trans htail

section

variable {go : Onward σ τ} (hgo : ∀ cause id input s,
  (go cause id input s).2.context.loops = s.context.loops)
include hgo

theorem loops_recover (id : String) (e : Error) (s : RunState σ τ) :
    (w.recover go id e s).2.context.loops = s.context.loops := by
  have hrec := loops_recordFailure w id e s
  unfold recover
  cases hr : w.recovery? id with
  | none => exact hrec
  | some handler => exact (hgo _ _ _ _).trans hrec

theorem loops_repeatChildren (id : String) (output : Json) (s : RunState σ τ) :
    (w.repeatChildren go id output s).2.context.loops = s.context.loops :=
  -- the frame put there is the innermost one after the passes, and it is taken away
  tail_loops_passes (fun _ _ s => hgo _ _ _ s) _ _

theorem loops_dispatch (flow : ControlFlow) (id : String) (output : Json) (s : RunState σ τ) :
    (w.dispatch go flow id output s).2.context.loops = s.context.loops := by
  unfold dispatch
  split_ifs
  · exact loops_recover hgo _ _ _
  · exact loops_repeatChildren hgo _ _ _
  · exact loops_sweep (fun _ s => hgo _ _ _ s) _ _

theorem loops_visitWith (node : Workflow.Node) (h : Handler σ) (input : Json) (s : RunState σ τ) :
    (w.visitWith go node h input s).2.context.loops = s.context.loops := by
  unfold visitWith
  rcases hi : w.invoke node h input s with ⟨e | output, s₁⟩
  · have hcall := loops_invoke hi
    exact (loops_recover hgo _ _ _).trans hcall
  · exact (loops_dispatch hgo _ _ _ _).trans (loops_invoke hi)

end

/-- **Every visit gives the stack of loops back**, however it ends. -/
theorem loops_visit (w : Walk σ τ) : ∀ (fuel : Nat) (enclosing : List ActiveVisit) (cause : Cause)
    (id : String) (input : Json) (s : RunState σ τ),
    (w.visit fuel enclosing cause id input s).2.context.loops = s.context.loops
  | 0, _, _, _, _, _ => rfl
  | fuel + 1, enclosing, cause, id, input, s => by
    unfold visit
    cases hn : w.graph.node? id with
    | none => rfl
    | some node =>
      simp only
      cases hr : w.engine.registry.resolve? node.tag with
      | none => exact (loops_skip w id node.tag _).trans (loops_enter ..)
      | some h =>
        exact (loops_visitWith (loops_visit w fuel _) node h input _).trans (loops_enter ..)

theorem Course.keeps {task : Task} (h : w.Course task s o s') : Task.Keeps task s s' := by
  induction h with
  | skipped hw hn hr => exact (loops_skip ..).trans (loops_enter ..)
  | failed hw hn hr hi hc ih => exact ih.trans ((loops_invoke hi).trans (loops_enter ..))
  | dispatched hw hn hr hi hf hc ih => exact ih.trans ((loops_invoke hi).trans (loops_enter ..))
  | tooDeep hw hn hr hi hf hd hc ih => exact ih.trans ((loops_invoke hi).trans (loops_enter ..))
  | looped hw hn hr hi hf hd hc ih => exact ih.trans ((loops_invoke hi).trans (loops_enter ..))
  | recovered hr hc ih => exact ih.trans (loops_recordFailure ..)
  | unrecovered hr => exact loops_recordFailure ..
  | sweepNil => rfl
  | sweepStop hc ih => exact ih
  | sweepNext hc hn ih ihn => exact ihn.trans ih
  | passesNil => rfl
  | passesStop i hleft hc ih =>
    exact (congrArg List.tail ih).trans (RunContext.tail_loops_setIteration _ _)
  | passesNext i hleft hc hn ih ihn =>
    exact ihn.trans ((congrArg List.tail ih).trans (RunContext.tail_loops_setIteration _ _))

/-! ### The nodes around a task -/

/-- A call completes no other node. -/
theorem lastOutput?_invoke {node : Workflow.Node} {h : Handler σ} {input : Json}
    {outcome : Except Error Json} {id : String} (hi : w.invoke node h input s = (outcome, s'))
    (hne : node.id ≠ id) : lastOutput? id s'.journal = lastOutput? id s.journal := by
  cases outcome with
  | error e =>
    rcases (invoke_error hi).2 with hj | hj
    · rw [hj]
    · rw [hj]; rfl
  | ok output =>
    obtain ⟨-, rs, hj⟩ := invoke_ok hi
    rw [hj, lastOutput?_reports, lastOutput?_completed_of_ne hne]
    rfl

theorem lastOutput?_invoke_ok {node : Workflow.Node} {h : Handler σ} {input output : Json}
    (hi : w.invoke node h input s = (.ok output, s')) :
    lastOutput? node.id s'.journal = some output := by
  obtain ⟨-, rs, hj⟩ := invoke_ok hi
  rw [hj, lastOutput?_reports, lastOutput?_completed_self]

theorem completed_mem_invoke {node : Workflow.Node} {h : Handler σ} {input output : Json}
    (hi : w.invoke node h input s = (.ok output, s')) :
    .completed node.id output ∈ s'.journal := by
  obtain ⟨-, rs, hj⟩ := invoke_ok hi
  simp [hj]

/-- The node of a visit is none of those around the visit. -/
theorem ne_of_isWay (hg : w.graph.Valid) {id : String} {enclosing : List ActiveVisit}
    {node : Workflow.Node} (hw : w.graph.IsWay (id :: enclosing.map (·.id)))
    (hn : w.graph.node? id = some node) : ∀ n ∈ enclosing.map (·.id), node.id ≠ n := by
  intro n hmem heq
  have hnotin := (List.nodup_cons.mp (hg.nodup_of_isWay hw)).1
  rw [Graph.id_of_node? hn] at heq
  exact hnotin (heq ▸ hmem)

/-- **A task completes no node around it** in a graph without cycles. -/
theorem Course.lastOutput_eq (hg : w.graph.Valid) {task : Task} (h : w.Course task s o s') :
    ∀ id ∈ task.around, lastOutput? id s'.journal =
      lastOutput? id s.journal := by
  induction h with
  | skipped hw hn hr =>
    intro n _
    exact (told_skip w _ _ _).lastOutput_eq n
  | failed hw hn hr hi hc ih =>
    intro n hmem
    have hcall := lastOutput?_invoke hi (ne_of_isWay hg hw hn n hmem)
    exact (ih n (List.mem_cons_of_mem _ hmem)).trans hcall
  | dispatched hw hn hr hi hf hc ih =>
    intro n hmem
    have hcall := lastOutput?_invoke hi (ne_of_isWay hg hw hn n hmem)
    exact (ih n (List.mem_cons_of_mem _ hmem)).trans hcall
  | tooDeep hw hn hr hi hf hd hc ih =>
    intro n hmem
    have hcall := lastOutput?_invoke hi (ne_of_isWay hg hw hn n hmem)
    exact (ih n (List.mem_cons_of_mem _ hmem)).trans hcall
  | looped hw hn hr hi hf hd hc ih =>
    intro n hmem
    have hcall := lastOutput?_invoke hi (ne_of_isWay hg hw hn n hmem)
    exact (ih n (List.mem_cons_of_mem _ hmem)).trans hcall
  | recovered hr hc ih =>
    intro n hmem
    exact (ih n hmem).trans ((told_recordFailure w _ _ _).lastOutput_eq n)
  | unrecovered hr =>
    intro n _
    exact (told_recordFailure w _ _ _).lastOutput_eq n
  | sweepNil => exact fun _ _ => rfl
  | sweepStop hc ih => exact ih
  | sweepNext hc hn ih ihn => exact fun n hmem => (ihn n hmem).trans (ih n hmem)
  | passesNil => exact fun _ _ => rfl
  | passesStop i hleft hc ih => exact ih
  | passesNext i hleft hc hn ih ihn => exact fun n hmem => (ihn n hmem).trans (ih n hmem)

/-! ### The journal -/

theorem Told.suffix (h : Told s s') : s.journal <:+ s'.journal := by
  obtain ⟨rs, hrs⟩ := h.journal
  exact ⟨rs.map .reported, hrs.symm⟩

theorem suffix_recordFailure (w : Walk σ τ) (id : String) (e : Error) (s : RunState σ τ) :
    s.journal <:+ (w.recordFailure id e s).journal :=
  (told_recordFailure w id e s).suffix

theorem suffix_note (s : RunState σ τ) (ev : Event) : s.journal <:+ (s.note ev).journal :=
  List.suffix_cons ev s.journal

theorem suffix_enter (enclosing : List ActiveVisit) (cause : Cause) (id : String) (input : Json)
    (s : RunState σ τ) : s.journal <:+ (enter enclosing cause id input s).journal :=
  List.suffix_cons _ s.journal

theorem suffix_invoke {node : Workflow.Node} {h : Handler σ} {input : Json}
    {outcome : Except Error Json} (hi : w.invoke node h input s = (outcome, s')) :
    s.journal <:+ s'.journal := by
  cases outcome with
  | error e =>
    rcases (invoke_error hi).2 with hj | hj
    · exact hj ▸ List.suffix_refl _
    · exact hj ▸ List.suffix_cons _ _
  | ok output =>
    obtain ⟨-, rs, hj⟩ := invoke_ok hi
    rw [hj]
    exact ((List.suffix_cons _ _).trans (List.suffix_cons _ _)).trans (List.suffix_append _ _)

/-- What is in the journal stays there. -/
theorem Course.suffix {task : Task} (h : w.Course task s o s') : s.journal <:+ s'.journal := by
  induction h with
  | skipped hw hn hr =>
    exact (suffix_enter ..).trans ((suffix_note ..).trans (told_skip w _ _ _).suffix)
  | failed hw hn hr hi hc ih =>
    exact (suffix_enter ..).trans ((suffix_invoke hi).trans ((suffix_note ..).trans ih))
  | dispatched hw hn hr hi hf hc ih => exact (suffix_enter ..).trans ((suffix_invoke hi).trans ih)
  | tooDeep hw hn hr hi hf hd hc ih =>
    exact (suffix_enter ..).trans ((suffix_invoke hi).trans ((suffix_note ..).trans ih))
  | looped hw hn hr hi hf hd hc ih =>
    exact (suffix_enter ..).trans ((suffix_invoke hi).trans ((suffix_note ..).trans ih))
  | recovered hr hc ih => exact (suffix_recordFailure ..).trans ih
  | unrecovered hr => exact suffix_recordFailure ..
  | sweepNil => exact List.suffix_refl _
  | sweepStop hc ih => exact ih
  | sweepNext hc hn ih ihn => exact ih.trans ihn
  | passesNil => exact List.suffix_refl _
  | passesStop i hleft hc ih => exact ih
  | passesNext i hleft hc hn ih ihn => exact List.IsSuffix.trans ih ihn

/-- A visit is in the journal, right after all that was there before. -/
theorem Course.suffix_visit {enclosing : List ActiveVisit} {cause : Cause} {id : String}
    {input : Json} (h : w.Course (.visit enclosing cause id input) s o s') :
    .visited id input cause enclosing s.context.loops :: s.journal <:+ s'.journal := by
  cases h with
  | skipped hw hn hr => exact (suffix_note (enter ..) _).trans (told_skip w _ _ _).suffix
  | failed hw hn hr hi hc => exact (suffix_invoke hi).trans ((suffix_note ..).trans hc.suffix)
  | dispatched hw hn hr hi hf hc => exact (suffix_invoke hi).trans hc.suffix
  | tooDeep hw hn hr hi hf hd hc => exact (suffix_invoke hi).trans ((suffix_note ..).trans hc.suffix)
  | looped hw hn hr hi hf hd hc => exact (suffix_invoke hi).trans ((suffix_note ..).trans hc.suffix)

end Walk

end FlowGraph
