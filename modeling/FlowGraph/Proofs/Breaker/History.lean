import FlowGraph.Session
import FlowGraph.Proofs.Fields
import Mathlib.Tactic.SplitIfs

/-! # Breakers and the history of calls

What a breaker does with the next call is settled by the calls it let through before. Only two
numbers of this history matter for a resource `r`: `History.failures r`, the counted failures since
the last call that succeeded, and `History.lastFailure? r`, the moment of the last of them.

The history is written by the operations themselves: `Watched.watch` notes an operation when it has
run, so that a rejected call leaves no entry (`execute_watch` says that watching changes nothing).

* `Breaker.Tracks` ties the three fields of a breaker to the two numbers; every step of a breaker
  keeps it, and `Breakers.Reflects` says it of all resources after any activity.
* `Breakers.verdict_of_history` is the law for the next call and for the state that shows. -/

namespace FlowGraph

/-! ### The history of calls -/

/-- A call that was let through and has come back. -/
structure Admission where
  key : String
  /-- What came back, without the result. -/
  outcome : Except Error Unit
  finishedAt : Nat

namespace Admission

/-- Whether the call failed in a way that says something about the resource. -/
def isCounted (a : Admission) : Bool :=
  match a.outcome with
  | .ok _ => false
  | .error e => e.countsAgainstBreaker

/-- Whether the call succeeded. -/
def succeeded (a : Admission) : Bool :=
  match a.outcome with
  | .ok _ => true
  | .error _ => false

/-- The entry for a call. -/
def ofOutcome {α : Type} (key : String) (outcome : Except Error α) (finishedAt : Nat) :
    Admission :=
  ⟨key, outcome.map fun _ => (), finishedAt⟩

section

variable {α : Type} (key : String) (x : α) (e : Error) (t : Nat)

@[simp] theorem key_ofOutcome (outcome : Except Error α) : (ofOutcome key outcome t).key = key :=
  rfl

@[simp] theorem finishedAt_ofOutcome (outcome : Except Error α) :
    (ofOutcome key outcome t).finishedAt = t := rfl

@[simp] theorem succeeded_ofOutcome_ok :
    (ofOutcome key (.ok x : Except Error α) t).succeeded = true := rfl

@[simp] theorem succeeded_ofOutcome_error :
    (ofOutcome key (.error e : Except Error α) t).succeeded = false := rfl

@[simp] theorem isCounted_ofOutcome_error :
    (ofOutcome key (.error e : Except Error α) t).isCounted = e.countsAgainstBreaker := rfl

end

end Admission

/-- The calls that were let through, the last first. -/
abbrev History := List Admission

namespace History

/-- The calls on a resource. -/
def of (r : String) (h : History) : History := h.filter fun a => a.key == r

/-- The counted failures on a resource since the last call that succeeded. -/
def failures (r : String) (h : History) : Nat :=
  (((of r h).takeWhile fun a => !a.succeeded).filter Admission.isCounted).length

/-- When the last counted failure on a resource was noted. -/
def lastFailure? (r : String) (h : History) : Option Nat :=
  ((of r h).find? Admission.isCounted).map (·.finishedAt)

variable {r : String} {a : Admission} {h : History}

theorem of_cons_of_ne (hne : a.key ≠ r) : of r (a :: h) = of r h := by
  simp [of, hne]

theorem of_cons_self (heq : a.key = r) : of r (a :: h) = a :: of r h := by
  simp [of, heq]

theorem failures_of_ne (hne : a.key ≠ r) : failures r (a :: h) = failures r h := by
  unfold failures; rw [of_cons_of_ne hne]

theorem lastFailure?_of_ne (hne : a.key ≠ r) : lastFailure? r (a :: h) = lastFailure? r h := by
  unfold lastFailure?; rw [of_cons_of_ne hne]

theorem failures_of_succeeded (heq : a.key = r) (hs : a.succeeded) : failures r (a :: h) = 0 := by
  unfold failures; rw [of_cons_self heq]; simp [hs]

theorem not_succeeded_of_counted (hc : a.isCounted) : a.succeeded = false := by
  unfold Admission.isCounted at hc
  unfold Admission.succeeded
  cases ho : a.outcome with
  | ok _ => rw [ho] at hc; cases hc
  | error _ => rfl

theorem failures_of_counted (heq : a.key = r) (hc : a.isCounted) :
    failures r (a :: h) = failures r h + 1 := by
  have hs := not_succeeded_of_counted hc
  unfold failures; rw [of_cons_self heq]; simp [hs, hc]

theorem lastFailure?_of_counted (heq : a.key = r) (hc : a.isCounted) :
    lastFailure? r (a :: h) = some a.finishedAt := by
  unfold lastFailure?; rw [of_cons_self heq]; simp [hc]

theorem failures_of_local (heq : a.key = r) (hs : a.succeeded = false) (hc : a.isCounted = false) :
    failures r (a :: h) = failures r h := by
  unfold failures; rw [of_cons_self heq]; simp [hs, hc]

theorem lastFailure?_of_not_counted (hc : a.isCounted = false) :
    lastFailure? r (a :: h) = lastFailure? r h := by
  by_cases heq : a.key = r
  · unfold lastFailure?; rw [of_cons_self heq]; simp [hc]
  · exact lastFailure?_of_ne heq

end History

/-! ### What the two numbers ask for -/

namespace BreakerRule

/-- The failures in a row that open a breaker. A rule that asks for none opens with the first. -/
def limit (rule : BreakerRule) : Nat := max rule.failureThreshold 1

/-- Whether a call goes through after `k` failures, the last of them at `t?`. -/
def Allows (rule : BreakerRule) (k : Nat) (t? : Option Nat) (now : Nat) : Prop :=
  k < rule.limit ∨ ∃ t, t? = some t ∧ rule.cooldown ≤ now - t

end BreakerRule

/-! ### One breaker -/

namespace Breaker

/-- **The invariant.** The breaker stands as `k` failures ask for, the last of them at `t?`. A
breaker that is half open was let out of the cooldown, which stays over as time goes on. -/
def Tracks (rule : BreakerRule) (b : Breaker) (k : Nat) (t? : Option Nat) (now : Nat) : Prop :=
  match b.state with
  | .closed => b.failures = k ∧ k < rule.limit
  | .opened => rule.limit ≤ k ∧ ∃ t, b.openedAt = some t ∧ t? = some t ∧ t ≤ now
  | .halfOpen => rule.limit ≤ k ∧ ∃ t, b.openedAt = some t ∧ t? = some t ∧ t + rule.cooldown ≤ now

variable {rule : BreakerRule} {b b' : Breaker} {k now now' : Nat} {t? : Option Nat}

theorem tracks_new (rule : BreakerRule) (t? : Option Nat) (now : Nat) :
    Tracks rule {} 0 t? now := by
  have : 0 < rule.limit := by unfold BreakerRule.limit; omega
  exact ⟨rfl, this⟩

theorem Tracks.later (ht : Tracks rule b k t? now) (hle : now ≤ now') :
    Tracks rule b k t? now' := by
  unfold Tracks at ht ⊢
  cases hs : b.state with
  | closed => rw [hs] at ht; exact ht
  | opened =>
    rw [hs] at ht
    obtain ⟨hk, t, ho, hl, hn⟩ := ht
    exact ⟨hk, t, ho, hl, by omega⟩
  | halfOpen =>
    rw [hs] at ht
    obtain ⟨hk, t, ho, hl, hn⟩ := ht
    exact ⟨hk, t, ho, hl, by omega⟩

/-- **A call goes through** exactly as the two numbers allow; the breaker then is not open and
tracks them as before. -/
theorem Tracks.goes_through (ht : Tracks rule b k t? now) :
    (rule.Allows k t? now ∧ ∃ b', b.admit? rule now = some b' ∧ b'.state ≠ .opened ∧
      Tracks rule b' k t? now) ∨
    (¬ rule.Allows k t? now ∧ b.admit? rule now = none) := by
  have ht' := ht
  unfold Tracks at ht
  cases hs : b.state with
  | closed =>
    rw [hs] at ht
    exact Or.inl ⟨Or.inl ht.2, b, by simp [admit?, hs], by simp [hs], ht'⟩
  | halfOpen =>
    rw [hs] at ht
    obtain ⟨hk, t, ho, hl, hn⟩ := ht
    exact Or.inl ⟨Or.inr ⟨t, hl, by omega⟩, b, by simp [admit?, hs], by simp [hs], ht'⟩
  | opened =>
    rw [hs] at ht
    obtain ⟨hk, t, ho, hl, hn⟩ := ht
    by_cases hc : t + rule.cooldown ≤ now
    · refine Or.inl ⟨Or.inr ⟨t, hl, by omega⟩, { b with state := .halfOpen }, ?_, by simp, ?_⟩
      · simp [admit?, hs, isCool, ho, hc]
      · exact ⟨hk, t, ho, hl, hc⟩
    · refine Or.inr ⟨?_, by simp [admit?, hs, isCool, ho, hc]⟩
      rintro (h | ⟨t', ht', h⟩)
      · omega
      · rw [hl] at ht'
        cases ht'
        omega

theorem tracks_succeed (hs : b.state ≠ .opened) : Tracks rule b.succeed 0 t? now := by
  have hpos : 0 < rule.limit := by unfold BreakerRule.limit; omega
  unfold Breaker.succeed
  cases h : b.state with
  | closed => simpa [Tracks, h] using hpos
  | halfOpen => exact tracks_new rule t? now
  | opened => exact absurd h hs

theorem tracks_trip (hk : rule.limit ≤ k) : Tracks rule (b.trip now) k (some now) now :=
  ⟨hk, now, rfl, rfl, Nat.le_refl now⟩

theorem Tracks.fail (ht : Tracks rule b k t? now) (hs : b.state ≠ .opened) :
    Tracks rule (b.fail rule now') (k + 1) (some now') now' := by
  unfold Tracks at ht
  unfold Breaker.fail
  cases h : b.state with
  | closed =>
    rw [h] at ht
    obtain ⟨hf, hk⟩ := ht
    simp only [hf]
    split_ifs with hle
    · exact tracks_trip (by unfold BreakerRule.limit; omega)
    · have : k + 1 < rule.limit := by unfold BreakerRule.limit; omega
      simpa [Tracks, h] using this
  | halfOpen =>
    rw [h] at ht
    have hk := ht.1
    exact tracks_trip (by omega)
  | opened => exact absurd h hs

/-- **The state that shows** is closed below the limit, open during the cooldown after the last
failure and half open from then on. -/
theorem Tracks.observed (ht : Tracks rule b k t? now) :
    (b.observed rule now = .closed ↔ k < rule.limit) ∧
    (b.observed rule now = .opened ↔
      rule.limit ≤ k ∧ ∃ t, t? = some t ∧ now - t < rule.cooldown) ∧
    (b.observed rule now = .halfOpen ↔
      rule.limit ≤ k ∧ ∃ t, t? = some t ∧ rule.cooldown ≤ now - t) := by
  unfold Tracks at ht
  unfold Breaker.observed
  cases hs : b.state with
  | closed =>
    rw [hs] at ht
    have hk := ht.2
    have hn : ¬ rule.limit ≤ k := by omega
    simp [hk, hn]
  | opened =>
    rw [hs] at ht
    obtain ⟨hk, t, ho, rfl, hn⟩ := ht
    by_cases hc : t + rule.cooldown ≤ now
    · have h1 : rule.cooldown ≤ now - t := by omega
      simp [isCool, ho, hc, hk, h1]
    · have h1 : now - t < rule.cooldown := by omega
      simp [isCool, ho, hc, hk, h1]
  | halfOpen =>
    rw [hs] at ht
    obtain ⟨hk, t, ho, rfl, hn⟩ := ht
    have h1 : rule.cooldown ≤ now - t := by omega
    simp [hk, h1]

end Breaker

/-! ### Watching the operations -/

/-- A state together with the calls that were let through so far. -/
structure Watched (S : Type) where
  state : S
  history : History

namespace Watched

variable {S α : Type} [Monitor S]

instance : Monitor (Watched S) where
  now w := Monitor.now w.state
  changed next w := { w with state := Monitor.changed next w.state }

/-- An operation that notes that it has run. -/
def watch (key : String) (operation : S → Except Error α × S) (w : Watched S) :
    Except Error α × Watched S :=
  let (outcome, s) := operation w.state
  (outcome, ⟨s, .ofOutcome key outcome (Monitor.now s) :: w.history⟩)

@[simp] theorem now_eq (w : Watched S) : Monitor.now w = Monitor.now w.state := rfl

@[simp] theorem noteChange_state (b b' : Breaker) (w : Watched S) :
    (Monitor.noteChange b b' w).state = Monitor.noteChange b b' w.state := by
  unfold Monitor.noteChange; split_ifs <;> rfl

@[simp] theorem noteChange_history (b b' : Breaker) (w : Watched S) :
    (Monitor.noteChange b b' w).history = w.history := by
  unfold Monitor.noteChange; split_ifs <;> rfl

end Watched

/-- A session at the beginning of time. -/
def Session.dawn : Session Unit := { world := ⟨⟨⟨0, 0⟩, 0⟩, ()⟩ }

/-! ### The breakers of all resources -/

namespace Breakers

variable {S α : Type} [Monitor S]

@[simp] theorem breaker_update_self (bs : Breakers) (key : String) (b : Breaker) :
    (bs.update key b).breaker key = b := by
  simp [breaker, update]

theorem breaker_update_of_ne {key r : String} (hne : r ≠ key) (bs : Breakers) (b : Breaker) :
    (bs.update key b).breaker r = bs.breaker r := by
  simp [breaker, update, Fields.get?_insert_of_ne hne]

theorem execute_of_none {bs : Breakers} {key : String} {s : S}
    (h : (bs.breaker key).admit? bs.rule (Monitor.now s) = none)
    (operation : S → Except Error α × S) :
    bs.execute key operation s =
      (.error (.circuitOpen key), bs.update key (bs.breaker key), s) := by
  simp [execute, h]

theorem execute_of_some {bs : Breakers} {key : String} {s : S} {b : Breaker}
    (h : (bs.breaker key).admit? bs.rule (Monitor.now s) = some b)
    (operation : S → Except Error α × S) :
    bs.execute key operation s =
      let ran := operation (Monitor.noteChange (bs.breaker key) b s)
      let settled := b.settle bs.rule ran.1 (Monitor.now ran.2)
      (ran.1, bs.update key settled, Monitor.noteChange b settled ran.2) := by
  simp [execute, h]

@[simp] theorem rule_execute (bs : Breakers) (key : String) (operation : S → Except Error α × S)
    (s : S) : (bs.execute key operation s).2.1.rule = bs.rule := by
  cases h : (bs.breaker key).admit? bs.rule (Monitor.now s) with
  | none => rw [execute_of_none h]; rfl
  | some b => rw [execute_of_some h]; rfl

/-- **A call on one resource** leaves the breakers of all others alone. -/
theorem breaker_execute_of_ne {key r : String} (hne : r ≠ key) (bs : Breakers)
    (operation : S → Except Error α × S) (s : S) :
    (bs.execute key operation s).2.1.breaker r = bs.breaker r := by
  cases h : (bs.breaker key).admit? bs.rule (Monitor.now s) with
  | none => rw [execute_of_none h]; exact breaker_update_of_ne hne _ _
  | some b => rw [execute_of_some h]; exact breaker_update_of_ne hne _ _

/-- Watching an operation changes neither what it gives nor the breakers. -/
theorem execute_watch (bs : Breakers) (key : String) (operation : S → Except Error α × S)
    (w : Watched S) :
    let watched := bs.execute key (Watched.watch key operation) w
    (watched.1, watched.2.1, watched.2.2.state) = bs.execute key operation w.state := by
  cases h : (bs.breaker key).admit? bs.rule (Monitor.now w.state) with
  | none => rw [execute_of_none h, execute_of_none (s := w) h]
  | some b =>
    rw [execute_of_some h, execute_of_some (s := w) h]
    simp [Watched.watch]

end Breakers

/-! ### Activities -/

/-- What goes on around breakers: calls on any resource, and anything between them. -/
inductive Activity (S : Type) : Type 1 where
  | pause (f : S → S)
  | call {α : Type} (key : String) (operation : S → Except Error α × S)

namespace Activity

variable {S : Type} [Monitor S]

/-- Whether the clock does not go back. -/
def Forward : Activity S → Prop
  | pause f => ∀ s, Monitor.now s ≤ Monitor.now (f s)
  | call _ operation => ∀ s, Monitor.now s ≤ Monitor.now (operation s).2

/-- The breakers and the history after an activity. -/
def perform (p : Breakers × Watched S) : Activity S → Breakers × Watched S
  | pause f => (p.1, { p.2 with state := f p.2.state })
  | call key operation => (p.1.execute key (Watched.watch key operation) p.2).2

end Activity

namespace Breakers

variable {S : Type} [Monitor S]

/-- New breakers of a rule and the history after activities from a state on. -/
def replay (rule : BreakerRule) (s : S) (activities : List (Activity S)) : Breakers × Watched S :=
  activities.foldl Activity.perform ({ rule }, ⟨s, []⟩)

/-- The breakers of all resources stand as the history asks for. -/
structure Reflects (rule : BreakerRule) (p : Breakers × Watched S) : Prop where
  rule_eq : p.1.rule = rule
  tracks : ∀ r, (p.1.breaker r).Tracks rule (p.2.history.failures r) (p.2.history.lastFailure? r)
    (Monitor.now p.2.state)

theorem reflects_new (rule : BreakerRule) (s : S) :
    Reflects rule (({ rule } : Breakers), ⟨s, []⟩) :=
  ⟨rfl, fun _ => Breaker.tracks_new rule _ _⟩

/-- A breaker that let a call through tracks the history with that call in it. -/
theorem tracks_settle {rule : BreakerRule} {b : Breaker} {key : String} {h : History}
    {now now' : Nat} (ht : b.Tracks rule (h.failures key) (h.lastFailure? key) now)
    (hs : b.state ≠ .opened) (hle : now ≤ now') {α : Type} (outcome : Except Error α) :
    (b.settle rule outcome now').Tracks rule
      (History.failures key (.ofOutcome key outcome now' :: h))
      (History.lastFailure? key (.ofOutcome key outcome now' :: h)) now' := by
  cases outcome with
  | ok x =>
    rw [History.failures_of_succeeded (Admission.key_ofOutcome ..) (by simp)]
    exact Breaker.tracks_succeed hs
  | error e =>
    cases hc : e.countsAgainstBreaker with
    | true =>
      rw [History.failures_of_counted (Admission.key_ofOutcome ..) (by simp [hc]),
        History.lastFailure?_of_counted (Admission.key_ofOutcome ..) (by simp [hc])]
      simpa [Breaker.settle, hc] using ht.fail hs
    | false =>
      rw [History.failures_of_local (Admission.key_ofOutcome ..) (by simp) (by simp [hc]),
        History.lastFailure?_of_not_counted (by simp [hc])]
      simpa [Breaker.settle, hc] using ht.later hle

section

variable (hm : ∀ (next : BreakerState) (s : S),
  Monitor.now s ≤ Monitor.now (Monitor.changed next s))

include hm

theorem now_le_noteChange (b b' : Breaker) (s : S) :
    Monitor.now s ≤ Monitor.now (Monitor.noteChange b b' s) := by
  unfold Monitor.noteChange
  split_ifs
  · exact Nat.le_refl _
  · exact hm b'.state s

variable {rule : BreakerRule} {p : Breakers × Watched S}

/-- **One call** keeps the breakers of all resources in step with the history. -/
theorem Reflects.call (h : Reflects rule p) {α : Type} (key : String)
    {operation : S → Except Error α × S}
    (hf : ∀ s, Monitor.now s ≤ Monitor.now (operation s).2) :
    Reflects rule (p.1.execute key (Watched.watch key operation) p.2).2 := by
  refine ⟨by rw [rule_execute, h.rule_eq], fun r => ?_⟩
  have hr := h.tracks r
  rcases (h.tracks key).goes_through with ⟨-, b, hb, hopen, ht⟩ | ⟨-, hb⟩
  · rw [← h.rule_eq] at hb
    by_cases hne : r = key
    · subst hne
      rw [execute_of_some (s := p.2) hb]
      have h1 := now_le_noteChange hm (p.1.breaker r) b p.2.state
      have h2 := hf (Monitor.noteChange (p.1.breaker r) b p.2.state)
      have hset := tracks_settle ht hopen (Nat.le_trans h1 h2)
        (operation (Monitor.noteChange (p.1.breaker r) b p.2.state)).1
      simp only [breaker_update_self, Watched.noteChange_history, Watched.noteChange_state,
        Watched.watch, Watched.now_eq, h.rule_eq]
      exact hset.later (now_le_noteChange hm _ _ _)
    · rw [breaker_execute_of_ne hne, execute_of_some (s := p.2) hb]
      have h1 := now_le_noteChange hm (p.1.breaker key) b p.2.state
      have h2 := hf (Monitor.noteChange (p.1.breaker key) b p.2.state)
      simp only [Watched.noteChange_history, Watched.noteChange_state, Watched.watch,
        Watched.now_eq]
      rw [History.failures_of_ne (Ne.symm hne), History.lastFailure?_of_ne (Ne.symm hne)]
      exact hr.later (Nat.le_trans (Nat.le_trans h1 h2) (now_le_noteChange hm _ _ _))
  · rw [← h.rule_eq] at hb
    rw [execute_of_none (s := p.2) hb]
    by_cases hne : r = key
    · subst hne
      simpa using hr
    · simpa [breaker_update_of_ne hne] using hr

theorem Reflects.perform (h : Reflects rule p) {a : Activity S} (hf : a.Forward) :
    Reflects rule (a.perform p) := by
  cases a with
  | pause f => exact ⟨h.rule_eq, fun r => (h.tracks r).later (hf p.2.state)⟩
  | call key operation => exact h.call hm key hf

theorem Reflects.foldl_perform : ∀ {activities : List (Activity S)} {p : Breakers × Watched S},
    Reflects rule p → (∀ a ∈ activities, a.Forward) →
      Reflects rule (activities.foldl Activity.perform p)
  | [], _, h, _ => h
  | a :: rest, _, h, hf =>
    (h.perform hm (hf a (by simp))).foldl_perform fun b hb => hf b (by simp [hb])

theorem reflects_replay {activities : List (Activity S)} (hf : ∀ a ∈ activities, a.Forward)
    (s : S) : Reflects rule (replay rule s activities) :=
  (reflects_new rule s).foldl_perform hm hf

end

/-- **What a watched call leaves behind**: its entry if it was let through, nothing if not. -/
theorem execute_watch_cases (bs : Breakers) {α : Type} (key : String)
    (operation : S → Except Error α × S) (w : Watched S) :
    let after := bs.execute key (Watched.watch key operation) w
    (((bs.breaker key).admit? bs.rule (Monitor.now w.state)).isSome ∧ ∃ s,
      after.1 = (operation s).1 ∧
      after.2.2.history = .ofOutcome key after.1 (Monitor.now (operation s).2) :: w.history) ∨
    ((bs.breaker key).admit? bs.rule (Monitor.now w.state) = none ∧
      after.1 = .error (.circuitOpen key) ∧ after.2.2 = w) := by
  cases hb : (bs.breaker key).admit? bs.rule (Monitor.now w.state) with
  | none =>
    right
    rw [execute_of_none (s := w) hb]
    exact ⟨rfl, rfl, rfl⟩
  | some b =>
    left
    rw [execute_of_some (s := w) hb]
    exact ⟨rfl, Monitor.noteChange (bs.breaker key) b w.state, by simp [Watched.watch]⟩

/-- A call on another resource, or one that comes back with an error that says nothing about the
resource, changes neither of the two numbers. -/
theorem history_execute_unchanged {p : Breakers × Watched S} {α : Type} {key r : String}
    {operation : S → Except Error α × S}
    (h : key ≠ r ∨ ∃ e, (p.1.execute key (Watched.watch key operation) p.2).1 = .error e ∧
      e.countsAgainstBreaker = false) :
    let after := (p.1.execute key (Watched.watch key operation) p.2).2.2.history
    after.failures r = p.2.history.failures r ∧
      after.lastFailure? r = p.2.history.lastFailure? r := by
  intro after
  rcases execute_watch_cases p.1 key operation p.2 with ⟨-, s, -, hh⟩ | ⟨-, -, hw⟩
  · simp only [after, hh]
    by_cases hne : key = r
    · obtain ⟨e, he, hc⟩ := h.resolve_left (by simpa using hne)
      rw [he]
      exact ⟨History.failures_of_local hne (by simp) (by simp [hc]),
        History.lastFailure?_of_not_counted (by simp [hc])⟩
    · exact ⟨History.failures_of_ne hne, History.lastFailure?_of_ne hne⟩
  · simp [after, hw]

/-- **Breakers go by the history of calls.** After any activities on any resources, with a clock
that does not go back, let `k` be the counted failures on a resource since its last success and
`t?` the moment of the last of them. The next call runs exactly if there are fewer failures than the
limit or the cooldown after the last one is over; else it is rejected and changes nothing. The state
that shows is closed, open or half open accordingly. Calls on other resources, rejected calls and
failures that say nothing about the resource leave `k` and `t?` as they are. -/
theorem verdict_of_history
    (hm : ∀ (next : BreakerState) (s : S), Monitor.now s ≤ Monitor.now (Monitor.changed next s))
    (rule : BreakerRule) (activities : List (Activity S)) (hf : ∀ a ∈ activities, a.Forward)
    (s₀ : S) (r : String) :
    let p := replay rule s₀ activities
    let k := p.2.history.failures r
    let t? := p.2.history.lastFailure? r
    let now := Monitor.now p.2.state
    (∀ (α : Type) (operation : S → Except Error α × S),
      let after := p.1.execute r (Watched.watch r operation) p.2
      (rule.Allows k t? now → ∃ s, after.1 = (operation s).1 ∧
        after.2.2.history = .ofOutcome r after.1 (Monitor.now (operation s).2) :: p.2.history) ∧
      (¬ rule.Allows k t? now → after.1 = .error (.circuitOpen r) ∧ after.2.2 = p.2)) ∧
    (p.1.state r now = .closed ↔ k < rule.limit) ∧
    (p.1.state r now = .opened ↔
      rule.limit ≤ k ∧ ∃ t, t? = some t ∧ now - t < rule.cooldown) ∧
    (p.1.state r now = .halfOpen ↔
      rule.limit ≤ k ∧ ∃ t, t? = some t ∧ rule.cooldown ≤ now - t) ∧
    (∀ (α : Type) (key : String) (operation : S → Except Error α × S),
      let after := p.1.execute key (Watched.watch key operation) p.2
      (key ≠ r ∨ ∃ e, after.1 = .error e ∧ e.countsAgainstBreaker = false) →
        after.2.2.history.failures r = k ∧ after.2.2.history.lastFailure? r = t?) := by
  intro p k t? now
  have hp : Reflects rule p := reflects_replay hm hf s₀
  have ht := hp.tracks r
  have hstate := ht.observed
  rw [← hp.rule_eq] at hstate
  refine ⟨fun α operation => ?_, ?_, ?_, ?_, fun α key operation => history_execute_unchanged⟩
  · have hcases := execute_watch_cases p.1 r operation p.2
    have hgo := ht.goes_through
    rw [← hp.rule_eq] at hgo ⊢
    rcases hgo with ⟨hallow, b, hb, -, -⟩ | ⟨hdeny, hb⟩
    · rw [hb] at hcases
      obtain ⟨-, hran⟩ := hcases.resolve_right (by simp)
      exact ⟨fun _ => hran, fun hno => absurd hallow hno⟩
    · rw [hb] at hcases
      obtain ⟨-, hrej⟩ := hcases.resolve_left (by simp)
      exact ⟨fun hyes => absurd hyes hdeny, fun _ => hrej⟩
  · rw [← hp.rule_eq]; exact hstate.1
  · rw [← hp.rule_eq]; exact hstate.2.1
  · rw [← hp.rule_eq]; exact hstate.2.2

/-- Two failures that count, with one between them that does not and one elsewhere. -/
def troubled : List (Activity (Session Unit)) :=
  let failing := fun (key : String) (e : Error) =>
    Activity.call key fun s : Session Unit => ((.error e : Except Error Unit), s)
  [failing "crm" (.io "reset"), .pause (·.advance 1000), failing "crm" (.config "no user"),
    failing "erp" (.io "reset"), .pause (·.advance 1000), failing "crm" (.io "reset"),
    .pause (·.advance 1000)]

theorem forward_troubled : ∀ a ∈ troubled, a.Forward := by
  have hadvance : ∀ s : Session Unit, Monitor.now s ≤ Monitor.now (s.advance 1000) :=
    fun s => Nat.le_add_right _ 1000
  simp only [troubled, List.mem_cons, List.not_mem_nil, or_false]
  rintro a (rfl | rfl | rfl | rfl | rfl | rfl | rfl) <;>
    first | exact hadvance | exact fun s => Nat.le_refl _

/-- With a limit of two and a cooldown of five seconds the next call is rejected. -/
theorem verdict_troubled :
    (∀ (next : BreakerState) (s : Session Unit),
      Monitor.now s ≤ Monitor.now (Monitor.changed next s)) ∧
    (∀ a ∈ troubled, a.Forward) ∧
    let p := replay ⟨2, 5000⟩ .dawn troubled
    (p.1.execute "crm" (Watched.watch "crm" fun s => ((.ok () : Except Error Unit), s)) p.2).1 =
      .error (.circuitOpen "crm") ∧
    p.1.state "crm" (Monitor.now p.2.state) = .opened := by
  refine ⟨fun _ _ => Nat.le_refl _, forward_troubled, ?_⟩
  obtain ⟨hcall, -, hopen, -, -⟩ :=
    verdict_of_history (fun _ _ => Nat.le_refl _) ⟨2, 5000⟩ troubled forward_troubled .dawn "crm"
  have hk : (replay ⟨2, 5000⟩ .dawn troubled).2.history.failures "crm" = 2 := by decide
  have ht : (replay ⟨2, 5000⟩ .dawn troubled).2.history.lastFailure? "crm" = some 2000 := by decide
  have hnow : Monitor.now (replay ⟨2, 5000⟩ .dawn troubled).2.state = 3000 := by decide
  rw [hk, ht, hnow] at hcall hopen
  have hdeny : ¬ BreakerRule.Allows ⟨2, 5000⟩ 2 (some 2000) 3000 := by
    simp [BreakerRule.Allows, BreakerRule.limit]
  intro p
  rw [show Monitor.now p.2.state = 3000 from hnow]
  exact ⟨((hcall Unit _).2 hdeny).1, hopen.2 ⟨by decide, 2000, rfl, by decide⟩⟩

end Breakers

end FlowGraph
