import FlowGraph.Proofs.Fields
import FlowGraph.Proofs.Walk.Kept

/-! # What a run remembers

The context of a run keeps outputs of nodes and the variables of the workflow. A node that completes
again puts its output in the place of the one before, so what is kept is what the journal has as the
last output of each node, and nothing is kept of other nodes. The variables do not change.

* `Recalls` says this of outputs and a journal, `Remembers` of the state of a run.
* `Course.remembers` is the induction over the course. -/

namespace FlowGraph

variable {σ τ : Type}

/-- **Outputs that recall a journal**: of each node the last output that the journal has, and no
name twice. -/
structure Recalls (outputs : Fields Json) (journal : List Event) : Prop where
  last : ∀ id, Fields.get? outputs id = lastOutput? id journal
  ordered : (Fields.names outputs).Pairwise (· < ·)

theorem recalls_nil {journal : List Event} (h : ∀ id, lastOutput? id journal = none) :
    Recalls [] journal :=
  ⟨fun id => (h id).symm, List.Pairwise.nil⟩

/-- A node that completes puts its output in the place of the one before. -/
theorem Recalls.insert {outputs : Fields Json} {journal journal' : List Event} {id : String}
    {output : Json} (h : Recalls outputs journal) (hself : lastOutput? id journal' = some output)
    (hne : ∀ n, id ≠ n → lastOutput? n journal' = lastOutput? n journal) :
    Recalls (Fields.insert id output outputs) journal' := by
  refine ⟨fun n => ?_, Fields.pairwise_names_insert h.ordered⟩
  by_cases hn : id = n
  · subst hn
    rw [Fields.get?_insert_self, hself]
  · rw [Fields.get?_insert_of_ne (Ne.symm hn), hne n hn]
    exact h.last n

/-- The state remembers the variables of the workflow and what the journal says of outputs. -/
structure Remembers (vars : Fields Json) (s : RunState σ τ) : Prop where
  vars : s.context.vars = vars
  outputs : Recalls s.context.outputs s.journal

/-- A step that touches neither the variables nor any output. -/
theorem Remembers.of_eq {vars : Fields Json} {s s' : RunState σ τ} (h : Remembers vars s)
    (hvars : s'.context.vars = s.context.vars) (houtputs : s'.context.outputs = s.context.outputs)
    (hlast : ∀ id, lastOutput? id s'.journal = lastOutput? id s.journal) : Remembers vars s' :=
  ⟨hvars.trans h.vars, fun id => by rw [houtputs, hlast]; exact h.outputs.last id,
    houtputs ▸ h.outputs.ordered⟩

namespace RunContext

variable (c : RunContext)

@[simp] theorem vars_setIteration (i : Nat) : (c.setIteration i).vars = c.vars := by
  unfold setIteration; split <;> rfl

@[simp] theorem outputs_setIteration (i : Nat) : (c.setIteration i).outputs = c.outputs := by
  unfold setIteration; split <;> rfl

end RunContext

namespace Walk

variable {w : Walk σ τ} {s s' : RunState σ τ} {o : Except Error Unit} {vars : Fields Json}

/-! ### One step of a walk -/

theorem Told.remembers (h : Told s s') (hs : Remembers vars s) : Remembers vars s' :=
  hs.of_eq (by rw [h.context]) (by rw [h.context]) h.lastOutput_eq

theorem remembers_recordFailure (id : String) (e : Error) (hs : Remembers vars s) :
    Remembers vars (w.recordFailure id e s) :=
  (told_recordFailure w id e s).remembers (hs.of_eq rfl rfl fun _ => rfl)

theorem remembers_skip (id tag : String) (hs : Remembers vars s) :
    Remembers vars (w.skip id tag s) :=
  (told_skip w id tag s).remembers (hs.of_eq rfl rfl fun _ => rfl)

theorem remembers_enter (enclosing : List ActiveVisit) (cause : Cause) (id : String) (input : Json)
    (hs : Remembers vars s) : Remembers vars (enter enclosing cause id input s) :=
  hs.of_eq rfl rfl fun _ => rfl

theorem remembers_enterLoop (id : String) (total : Nat) (hs : Remembers vars s) :
    Remembers vars (enterLoop id total s) :=
  hs.of_eq rfl rfl fun _ => rfl

theorem remembers_setIteration (i : Nat) (hs : Remembers vars s) :
    Remembers vars (s.onContext (·.setIteration i)) :=
  hs.of_eq (RunContext.vars_setIteration _ i) (RunContext.outputs_setIteration _ i) fun _ => rfl

theorem remembers_invoke {node : Workflow.Node} {h : Handler σ} {input : Json}
    {outcome : Except Error Json} (hi : w.invoke node h input s = (outcome, s'))
    (hs : Remembers vars s) : Remembers vars s' := by
  cases outcome with
  | error e =>
    obtain ⟨hctx, hj⟩ := invoke_error hi
    refine hs.of_eq (by rw [hctx]) (by rw [hctx]) fun id => ?_
    rcases hj with hj | hj
    · rw [hj]
    · rw [hj]
      rfl
  | ok output =>
    obtain ⟨hctx, -⟩ := invoke_ok hi
    refine ⟨by rw [hctx]; exact hs.vars, ?_⟩
    rw [hctx]
    exact hs.outputs.insert (lastOutput?_invoke_ok hi) fun n hn => lastOutput?_invoke hi hn

/-- The call of its handler, right after a visit has started. -/
theorem remembers_call {enclosing : List ActiveVisit} {cause : Cause} {id : String} {input : Json}
    {node : Workflow.Node} {h : Handler σ} {outcome : Except Error Json}
    (hi : w.invoke node h input (enter enclosing cause id input s) = (outcome, s'))
    (hs : Remembers vars s) : Remembers vars s' :=
  remembers_invoke hi (remembers_enter _ _ _ _ hs)

/-! ### A whole walk -/

/-- **Every course remembers** the variables and the last outputs. -/
theorem Course.remembers {task : Task} (h : w.Course task s o s') :
    Remembers vars s → Remembers vars s' := by
  induction h with
  | skipped hw hn hr => exact fun hs => remembers_skip _ _ (remembers_enter _ _ _ _ hs)
  | failed hw hn hr hi hc ih =>
    exact fun hs => ih ((remembers_call hi hs).of_eq rfl rfl fun _ => rfl)
  | dispatched hw hn hr hi hf hc ih => exact fun hs => ih (remembers_call hi hs)
  | tooDeep hw hn hr hi hf hd hc ih =>
    exact fun hs => ih ((remembers_call hi hs).of_eq rfl rfl fun _ => rfl)
  | looped hw hn hr hi hf hd hc ih =>
    intro hs
    have hpasses := ih (remembers_enterLoop _ _ (remembers_call hi hs))
    exact hpasses.of_eq rfl rfl fun _ => rfl
  | recovered hr hc ih => exact fun hs => ih (remembers_recordFailure _ _ hs)
  | unrecovered hr => exact remembers_recordFailure _ _
  | sweepNil => exact id
  | sweepStop hc ih => exact ih
  | sweepNext hc hn ih ihn => exact fun hs => ihn (ih hs)
  | passesNil => exact id
  | passesStop i hleft hc ih => exact fun hs => ih (remembers_setIteration _ hs)
  | passesNext i hleft hc hn ih ihn => exact fun hs => ihn (ih (remembers_setIteration _ hs))

end Walk

end FlowGraph
