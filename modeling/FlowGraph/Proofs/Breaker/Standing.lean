import FlowGraph.Proofs.Breaker.History

/-! # What the fields of a breaker say

A breaker can be asked for anything at any time: to let a call through, to note a success or a
failure without a call before it, to be put back by hand. Whatever it is asked for, its three fields
tell the same story.

* `Breaker.perform` is one operation and `Breaker.after` a new breaker after operations.
* `Breaker.Stands` is the invariant. Every operation keeps it (`Stands.perform`), so every breaker has
  it (`stands_after`), also behind the calls of an engine (`Breakers.stands_execute`).
* `Breaker.standing_after` says what follows: the state can be read off the failures and off the
  moment of opening, the failures fit into 32 bits and an open breaker knows since when it is open. -/

namespace FlowGraph

theorem BreakerRule.limit_pos (rule : BreakerRule) : 0 < rule.limit :=
  Nat.le_max_right _ _

namespace Breaker

/-! ### Operations -/

/-- What a breaker can be asked for. -/
inductive Operation where
  /-- Asks whether a call may go through. -/
  | acquire
  /-- Notes a call that succeeded. -/
  | success
  /-- Notes a call that failed. -/
  | failure
  /-- Puts the breaker back. -/
  | reset
deriving DecidableEq

/-- The breaker after an operation. -/
def perform (rule : BreakerRule) (b : Breaker) (now : Nat) : Operation → Breaker
  | .acquire => (b.admit? rule now).getD b
  | .success => b.succeed
  | .failure => b.fail rule now
  | .reset => b.reset

/-- A new breaker after operations, each with its time. -/
def after (rule : BreakerRule) (operations : List (Nat × Operation)) : Breaker :=
  operations.foldl (fun b o => b.perform rule o.1 o.2) {}

@[simp] theorem after_nil (rule : BreakerRule) : after rule [] = {} := rfl

@[simp] theorem after_concat (rule : BreakerRule) (operations : List (Nat × Operation))
    (now : Nat) (o : Operation) :
    after rule (operations ++ [(now, o)]) = (after rule operations).perform rule now o := by
  simp [after]

/-! ### The invariant -/

/-- **The invariant.** A closed breaker is below the limit and was not opened; one that is not closed
has come to the limit, goes no further and knows when it opened. -/
structure Stands (rule : BreakerRule) (b : Breaker) : Prop where
  closed : b.state = .closed → b.failures < rule.limit ∧ b.openedAt = none
  tripped : b.state ≠ .closed → b.failures = rule.limit ∧ b.openedAt.isSome

variable {rule : BreakerRule} {b b' : Breaker} {now : Nat} {operations : List (Nat × Operation)}

theorem stands_new (rule : BreakerRule) : Stands rule {} :=
  ⟨fun _ => ⟨rule.limit_pos, rfl⟩, fun h => absurd rfl h⟩

theorem stands_trip (hf : b.failures = rule.limit) : Stands rule (b.trip now) :=
  ⟨fun h => (by cases h), fun _ => ⟨hf, rfl⟩⟩

namespace Stands

/-- A breaker that lets a call through is half open if it was open, and else as it was. -/
theorem admitted (h : Stands rule b) (hb : b.admit? rule now = some b') : Stands rule b' := by
  unfold admit? at hb
  cases hs : b.state with
  | closed =>
    simp only [hs, Option.some.injEq] at hb
    exact hb ▸ h
  | halfOpen =>
    simp only [hs, Option.some.injEq] at hb
    exact hb ▸ h
  | opened =>
    simp only [hs, Option.ite_none_right_eq_some, Option.some.injEq] at hb
    obtain ⟨-, rfl⟩ := hb
    exact ⟨fun hc => (by cases hc), fun _ => h.tripped (by simp [hs])⟩

theorem succeed (h : Stands rule b) : Stands rule b.succeed := by
  unfold Breaker.succeed
  cases hs : b.state with
  | closed => exact ⟨fun _ => ⟨rule.limit_pos, (h.closed hs).2⟩, fun hne => absurd rfl hne⟩
  | halfOpen => exact stands_new rule
  | opened => exact h

/-- The failure that reaches the limit opens the breaker. One on trial opens it again and is not
counted, so that the failures stay at the limit. -/
theorem fail (h : Stands rule b) (now : Nat) : Stands rule (b.fail rule now) := by
  unfold Breaker.fail
  cases hs : b.state with
  | closed =>
    obtain ⟨hlt, hnone⟩ := h.closed hs
    dsimp only
    split_ifs with hle
    · have heq : b.failures + 1 = rule.limit := by unfold BreakerRule.limit at hlt ⊢; omega
      exact stands_trip heq
    · have hbelow : b.failures + 1 < rule.limit := by unfold BreakerRule.limit; omega
      exact ⟨fun _ => ⟨hbelow, hnone⟩, fun hne => absurd rfl hne⟩
  | halfOpen => exact stands_trip (h.tripped (by simp [hs])).1
  | opened => exact h

theorem reset (rule : BreakerRule) (b : Breaker) : Stands rule b.reset :=
  stands_new rule

/-- **One operation** keeps the invariant. -/
theorem perform (h : Stands rule b) (now : Nat) (o : Operation) :
    Stands rule (b.perform rule now o) := by
  cases o with
  | acquire =>
    unfold Breaker.perform
    cases hb : b.admit? rule now with
    | none => exact h
    | some b' => exact h.admitted hb
  | success => exact h.succeed
  | failure => exact h.fail now
  | reset => exact reset rule b

theorem settle (h : Stands rule b) {α : Type} (outcome : Except Error α) (now : Nat) :
    Stands rule (b.settle rule outcome now) := by
  unfold Breaker.settle
  cases outcome with
  | ok x => exact h.succeed
  | error e =>
    dsimp only
    split_ifs
    · exact h.fail now
    · exact h

end Stands

/-- **Every breaker** has the invariant, whatever it was asked for and when. -/
theorem stands_after (rule : BreakerRule) (operations : List (Nat × Operation)) :
    Stands rule (after rule operations) := by
  induction operations using List.reverseRecOn with
  | nil => exact stands_new rule
  | append_singleton earlier o ih =>
    rw [after_concat]
    exact ih.perform o.1 o.2

/-! ### The moment of opening -/

/-- An operation leaves the moment of opening as it is, forgets it or sets it to now. -/
theorem openedAt_perform (rule : BreakerRule) (b : Breaker) (now : Nat) (o : Operation) :
    (b.perform rule now o).openedAt = b.openedAt ∨ (b.perform rule now o).openedAt = none ∨
      (b.perform rule now o).openedAt = some now := by
  cases o with
  | acquire =>
    unfold perform admit?
    cases b.state with
    | closed => exact .inl rfl
    | halfOpen => exact .inl rfl
    | opened => dsimp only; split_ifs <;> exact .inl rfl
  | success =>
    unfold perform succeed
    cases b.state with
    | closed => exact .inl rfl
    | halfOpen => exact .inr (.inl rfl)
    | opened => exact .inl rfl
  | failure =>
    unfold perform fail
    cases b.state with
    | closed =>
      dsimp only
      split_ifs
      · exact .inr (.inr rfl)
      · exact .inl rfl
    | halfOpen => exact .inr (.inr rfl)
    | opened => exact .inl rfl
  | reset => exact .inr (.inl rfl)

/-- A breaker opened at the time of one of its operations. -/
theorem exists_of_openedAt_after {t : Nat} (h : (after rule operations).openedAt = some t) :
    ∃ o ∈ operations, o.1 = t := by
  induction operations using List.reverseRecOn with
  | nil => cases h
  | append_singleton earlier o ih =>
    rw [after_concat] at h
    rcases openedAt_perform rule (after rule earlier) o.1 o.2 with hk | hk | hk
    · obtain ⟨o', ho', ht⟩ := ih (hk ▸ h)
      exact ⟨o', List.mem_append_left _ ho', ht⟩
    · rw [hk] at h
      cases h
    · rw [hk, Option.some.injEq] at h
      exact ⟨o, by simp, h⟩

/-! ### What the fields say -/

namespace Stands

variable (h : Stands rule b)

include h

theorem closed_iff : b.state = .closed ↔ b.failures < rule.limit := by
  refine ⟨fun hs => (h.closed hs).1, fun hlt => ?_⟩
  by_contra hs
  have := (h.tripped hs).1
  omega

theorem openedAt_eq_none_iff : b.openedAt = none ↔ b.state = .closed := by
  refine ⟨fun hnone => ?_, fun hs => (h.closed hs).2⟩
  by_contra hs
  have hsome := (h.tripped hs).2
  rw [hnone] at hsome
  cases hsome

theorem tripped_iff :
    b.state = .opened ∨ b.state = .halfOpen ↔ b.failures = rule.limit ∧ b.openedAt.isSome := by
  constructor
  · rintro (hs | hs) <;> exact h.tripped (by simp [hs])
  · rintro ⟨hf, -⟩
    cases hs : b.state with
    | closed =>
      have := (h.closed hs).1
      omega
    | opened => exact .inl rfl
    | halfOpen => exact .inr rfl

theorem failures_le : b.failures ≤ rule.limit := by
  by_cases hs : b.state = .closed
  · exact Nat.le_of_lt (h.closed hs).1
  · exact Nat.le_of_eq (h.tripped hs).1

/-- The failure that a closed breaker counts next does not pass the limit. -/
theorem succ_failures_le (hs : b.state = .closed) : b.failures + 1 ≤ rule.limit :=
  (h.closed hs).1

end Stands

/-- **What the fields of a breaker say.** After any operations at any times, for a limit `T` of at
least one failure: the breaker is closed iff it has noted fewer than `T` failures iff it has no
moment of opening, and it is open or half open iff it has noted `T` of them exactly and has such a
moment. If the threshold fits into 32 bits, so does the number that a closed breaker counts up to
next, the only number a breaker ever counts up to. An open breaker has a moment of opening, no later
than now if no operation was, and its cooldown is over exactly if that much time has gone by. -/
theorem standing_after (rule : BreakerRule) (h32 : rule.failureThreshold < Nat.pow 2 32)
    (operations : List (Nat × Operation)) :
    let b := after rule operations
    let T := max rule.failureThreshold 1
    ((b.state = .closed ↔ b.failures < T) ∧ (b.failures < T ↔ b.openedAt = none)) ∧
    (b.state = .opened ∨ b.state = .halfOpen ↔ b.failures = T ∧ b.openedAt.isSome) ∧
    (b.failures < Nat.pow 2 32 ∧ (b.state = .closed → b.failures + 1 < Nat.pow 2 32) ∧
      ∀ now, b.state ≠ .closed → (b.fail rule now).failures = b.failures) ∧
    ∀ now, (∀ o ∈ operations, o.1 ≤ now) → b.state = .opened →
      ∃ t, b.openedAt = some t ∧ t ≤ now ∧ (b.isCool rule now ↔ rule.cooldown ≤ now - t) := by
  intro b T
  have h : Stands rule b := stands_after rule operations
  have hT : rule.limit < Nat.pow 2 32 := Nat.max_lt.mpr ⟨h32, by decide⟩
  refine ⟨⟨h.closed_iff, h.closed_iff.symm.trans h.openedAt_eq_none_iff.symm⟩, h.tripped_iff,
    ⟨Nat.lt_of_le_of_lt h.failures_le hT,
      fun hs => Nat.lt_of_le_of_lt (h.succ_failures_le hs) hT, fun now hs => ?_⟩,
    fun now hnow hs => ?_⟩
  · unfold fail
    cases hst : b.state with
    | closed => exact absurd hst hs
    | opened => rfl
    | halfOpen => rfl
  · obtain ⟨t, ht⟩ := Option.isSome_iff_exists.mp (h.tripped (by simp [hs])).2
    obtain ⟨o, ho, rfl⟩ := exists_of_openedAt_after ht
    have hle := hnow o ho
    refine ⟨o.1, ht, hle, ?_⟩
    simp only [isCool, ht, decide_eq_true_eq]
    omega

/-- A threshold of none, with a failure on trial and failures that nobody asked for. -/
def pestered : List (Nat × Operation) := [
  (0, .failure), (200, .failure), (400, .acquire), (1000, .acquire), (1000, .failure),
  (1500, .acquire), (1600, .success)]

/-- With a cooldown of a second the breaker is open since the failure on trial; it has noted one. -/
theorem standing_pestered :
    (BreakerRule.failureThreshold ⟨0, 1000⟩ < Nat.pow 2 32 ∧ ∀ o ∈ pestered, o.1 ≤ 1700) ∧
    let b := after ⟨0, 1000⟩ pestered
    b.state = .opened ∧ b.failures = 1 ∧ b.openedAt.isSome ∧
      ∃ t, b.openedAt = some t ∧ t ≤ 1700 ∧ (b.isCool ⟨0, 1000⟩ 1700 ↔ 1000 ≤ 1700 - t) := by
  have hnow : ∀ o ∈ pestered, o.1 ≤ 1700 := by decide
  have hopen : (after ⟨0, 1000⟩ pestered).state = .opened := by decide
  obtain ⟨-, htripped, -, hcool⟩ := standing_after ⟨0, 1000⟩ (by decide) pestered
  obtain ⟨hf, ht⟩ := htripped.mp (.inl hopen)
  exact ⟨⟨by decide, hnow⟩, hopen, hf, ht, hcool 1700 hnow hopen⟩

end Breaker

/-! ### The breakers of all resources -/

namespace Breakers

variable {S α : Type} [Monitor S]

/-- **A call under the breaker of a resource** keeps the invariant of all breakers. -/
theorem stands_execute {bs : Breakers} (h : ∀ r, (bs.breaker r).Stands bs.rule) (key : String)
    (operation : S → Except Error α × S) (s : S) (r : String) :
    ((bs.execute key operation s).2.1.breaker r).Stands bs.rule := by
  by_cases hr : r = key
  · subst hr
    cases hb : (bs.breaker r).admit? bs.rule (Monitor.now s) with
    | none =>
      rw [execute_of_none hb, breaker_update_self]
      exact h r
    | some b =>
      rw [execute_of_some hb]
      simp only [breaker_update_self]
      exact ((h r).admitted hb).settle _ _
  · rw [breaker_execute_of_ne hr]
    exact h r

end Breakers

end FlowGraph
