import FlowGraph.Engine.Run
import FlowGraph.Proofs.Breaker.History

/-! # What the steps of a walk change

Each step of a walk changes little: a report changes neither the context nor anything in the journal
but the reports (`Told`), a call of a handler adds itself to the journal, and only a call that
succeeds completes its node. The lemmas here say so once for each step, and nothing after them opens
a step again.

* `told_report`, `told_log`: reports.
* `callGuarded_effect`: a call, guarded or not, or one that a breaker rejects.
* `invoke_error`, `invoke_ok`: the two ways a node comes to an output or to a failure.
* `invoke_answer`: the outcome of a node is what its handler answers. -/

namespace FlowGraph

variable {σ τ : Type}

namespace RunState

variable (s : RunState σ τ) (e : Event) (f : RunContext → RunContext) (c : Counter)

@[simp] theorem note_context : (s.note e).context = s.context := rfl
@[simp] theorem note_journal : (s.note e).journal = e :: s.journal := rfl
@[simp] theorem onContext_context : (s.onContext f).context = f s.context := rfl
@[simp] theorem onContext_journal : (s.onContext f).journal = s.journal := rfl
@[simp] theorem count_context : (s.count c).context = s.context := rfl
@[simp] theorem count_journal : (s.count c).journal = s.journal := rfl

@[simp] theorem noteChange_context (b b' : Breaker) :
    (Monitor.noteChange b b' s).context = s.context := by
  unfold Monitor.noteChange; split_ifs <;> rfl

@[simp] theorem noteChange_journal (b b' : Breaker) :
    (Monitor.noteChange b b' s).journal = s.journal := by
  unfold Monitor.noteChange; split_ifs <;> rfl

end RunState

namespace RunContext

variable (c : RunContext)

@[simp] theorem loops_complete (id : String) (output : Json) :
    (c.complete id output).loops = c.loops := rfl

@[simp] theorem loops_checkpoint (id : String) (now : Timestamp) :
    (c.checkpoint id now).loops = c.loops := rfl

@[simp] theorem nodesExecuted_checkpoint (id : String) (now : Timestamp) :
    (c.checkpoint id now).nodesExecuted = c.nodesExecuted := rfl

@[simp] theorem nodesExecuted_complete (id : String) (output : Json) :
    (c.complete id output).nodesExecuted = c.nodesExecuted + 1 := rfl

@[simp] theorem loops_recordError (id message : String) (now : Timestamp) :
    (c.recordError id message now).loops = c.loops := rfl

@[simp] theorem nodesExecuted_popLoop : c.popLoop.nodesExecuted = c.nodesExecuted := rfl

theorem loops_setIteration_cons {frame : LoopFrame} {outer : List LoopFrame} (i : Nat)
    (h : c.loops = frame :: outer) :
    (c.setIteration i).loops = { frame with iteration := i } :: outer := by
  unfold setIteration; rw [h]

@[simp] theorem tail_loops_setIteration (i : Nat) :
    (c.setIteration i).loops.tail = c.loops.tail := by
  unfold setIteration; split <;> simp [*]

@[simp] theorem length_loops_setIteration (i : Nat) :
    (c.setIteration i).loops.length = c.loops.length := by
  unfold setIteration; split <;> simp [*]

@[simp] theorem errors_setIteration (i : Nat) : (c.setIteration i).errors = c.errors := by
  unfold setIteration; split <;> rfl

@[simp] theorem nodesExecuted_setIteration (i : Nat) :
    (c.setIteration i).nodesExecuted = c.nodesExecuted := by
  unfold setIteration; split <;> rfl

end RunContext

namespace Walk

variable {w : Walk σ τ} {s s' s'' : RunState σ τ}

/-! ### Reports -/

/-- Nothing happened but that the sink was told something. -/
structure Told (s s' : RunState σ τ) : Prop where
  context : s'.context = s.context
  breakers : s'.breakers = s.breakers
  journal : ∃ rs : List Report, s'.journal = rs.map .reported ++ s.journal

theorem Told.trans (h : Told s s') (h' : Told s' s'') : Told s s'' := by
  obtain ⟨rs, hrs⟩ := h.journal
  obtain ⟨rs', hrs'⟩ := h'.journal
  refine ⟨h'.context.trans h.context, h'.breakers.trans h.breakers, rs' ++ rs, ?_⟩
  rw [hrs', hrs]
  simp

theorem told_report (w : Walk σ τ) (r : Report) (s : RunState σ τ) : Told s (w.report r s) := by
  unfold report
  split
  · exact ⟨rfl, rfl, [r], rfl⟩
  · exact ⟨rfl, rfl, [], rfl⟩

theorem told_log (w : Walk σ τ) (nodeId : Option String) (level : LogLevel) (message : String)
    (data : Option Json) (s : RunState σ τ) : Told s (w.log nodeId level message data s) :=
  told_report w _ s

theorem session_report (w : Walk σ τ) (r : Report) (s : RunState σ τ) :
    (w.report r s).session = s.session := by
  unfold report
  split <;> rfl

/-! ### Calls -/

/-- What happens when a handler is to be called: it is called once, or a breaker keeps it from
being called and the failure says so. -/
theorem callGuarded_effect {node : Workflow.Node} {h : Handler σ} {ctx : NodeContext}
    {outcome : Except Error NodeResult} (hc : w.callGuarded node h ctx s = (outcome, s')) :
    s'.context = s.context ∧
      (s'.journal = .invoked ctx :: s.journal ∨
        s'.journal = s.journal ∧ ∃ key, outcome = .error (.circuitOpen key)) := by
  unfold callGuarded at hc
  split at hc
  · cases hc
    exact ⟨rfl, Or.inl rfl⟩
  · next key _ =>
    cases hb : (s.breakers.breaker key).admit? s.breakers.rule (Monitor.now s) with
    | none =>
      rw [Breakers.execute_of_none hb] at hc
      cases hc
      exact ⟨rfl, Or.inr ⟨rfl, key, rfl⟩⟩
    | some b =>
      rw [Breakers.execute_of_some hb] at hc
      cases hc
      exact ⟨by simp [call], Or.inl (by simp [call])⟩

theorem told_complete (w : Walk σ τ) (id : String) (output : Json) (s : RunState σ τ) :
    Told ((s.note (.completed id output)).onContext (·.complete id output))
      (w.complete id output s) :=
  (told_report w _ _).trans (told_log w _ _ _ _ _)

theorem complete_effect (w : Walk σ τ) (id : String) (output : Json) (s : RunState σ τ) :
    (w.complete id output s).context = s.context.complete id output ∧
      ∃ rs : List Report, (w.complete id output s).journal =
        rs.map .reported ++ .completed id output :: s.journal :=
  ⟨(told_complete w id output s).context, (told_complete w id output s).journal⟩

/-- **A node that fails** leaves the context as it was. -/
theorem invoke_error {node : Workflow.Node} {h : Handler σ} {input : Json} {e : Error}
    (hi : w.invoke node h input s = (.error e, s')) :
    s'.context = s.context ∧
      (s'.journal = s.journal ∨
        s'.journal = .invoked (w.nodeContext node input s.context) :: s.journal) := by
  unfold invoke at hi
  split at hi
  · cases hi
    exact ⟨rfl, Or.inl rfl⟩
  · rcases hc : w.callGuarded node h (w.nodeContext node input s.context) s with ⟨outcome, s₁⟩
    obtain ⟨hctx, hj⟩ := callGuarded_effect hc
    rw [hc] at hi
    cases outcome with
    | ok result => cases hi
    | error e' =>
      cases hi
      exact ⟨hctx, hj.elim Or.inr fun hj => Or.inl hj.1⟩

/-- **A node that gets its output** was called once and is completed with it. -/
theorem invoke_ok {node : Workflow.Node} {h : Handler σ} {input output : Json}
    (hi : w.invoke node h input s = (.ok output, s')) :
    s'.context = s.context.complete node.id output ∧
      ∃ rs : List Report, s'.journal = rs.map .reported ++ .completed node.id output ::
        .invoked (w.nodeContext node input s.context) :: s.journal := by
  unfold invoke at hi
  split at hi
  · cases hi
  · rcases hc : w.callGuarded node h (w.nodeContext node input s.context) s with ⟨outcome, s₁⟩
    obtain ⟨hctx, hj⟩ := callGuarded_effect hc
    rw [hc] at hi
    cases outcome with
    | error e => cases hi
    | ok result =>
      cases hi
      obtain ⟨hctx', rs, hrs⟩ := complete_effect w node.id result.data
        (s₁.count (.node node.tag (statusText (Except.ok result))))
      have hj' : s₁.journal = .invoked (w.nodeContext node input s.context) :: s.journal :=
        hj.resolve_right fun hno => by obtain ⟨-, key, hkey⟩ := hno; cases hkey
      refine ⟨by rw [hctx']; simp [hctx], rs, ?_⟩
      rw [hrs]
      simp [hj']

/-! ### The answer of a handler -/

/-- A handler that is called gives the outcome. -/
theorem callGuarded_answer {node : Workflow.Node} {h : Handler σ} {ctx : NodeContext}
    {outcome : Except Error NodeResult} (hc : w.callGuarded node h ctx s = (outcome, s')) :
    (∃ session, (h.invoke w.nested node.config ctx session).1 = outcome) ∨
      s'.journal = s.journal ∧ ∃ e, outcome = .error e := by
  unfold callGuarded at hc
  split at hc
  · cases hc
    exact Or.inl ⟨_, rfl⟩
  · next key _ =>
    cases hb : (s.breakers.breaker key).admit? s.breakers.rule (Monitor.now s) with
    | none =>
      rw [Breakers.execute_of_none hb] at hc
      cases hc
      exact Or.inr ⟨rfl, _, rfl⟩
    | some b =>
      rw [Breakers.execute_of_some hb] at hc
      cases hc
      exact Or.inl ⟨_, rfl⟩

/-- The outcome of a node is what its handler answers, if the handler is called. -/
theorem invoke_answer {node : Workflow.Node} {h : Handler σ} {input : Json}
    {outcome : Except Error Json} (hi : w.invoke node h input s = (outcome, s')) :
    (∃ session, (h.invoke w.nested node.config (w.nodeContext node input s.context) session).1.map
      (·.data) = outcome) ∨ s'.journal = s.journal ∧ ∃ e, outcome = .error e := by
  unfold invoke at hi
  split at hi
  · cases hi
    exact Or.inr ⟨rfl, _, rfl⟩
  · rcases hc : w.callGuarded node h (w.nodeContext node input s.context) s with ⟨answer, s₂⟩
    rw [hc] at hi
    rcases callGuarded_answer hc with ⟨session, hanswer⟩ | ⟨hj, e, rfl⟩
    · left
      refine ⟨session, ?_⟩
      rw [hanswer]
      cases answer <;> (cases hi; rfl)
    · cases hi
      exact Or.inr ⟨hj, e, rfl⟩

end Walk

end FlowGraph
