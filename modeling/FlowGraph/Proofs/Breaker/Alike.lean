import FlowGraph.Proofs.Breaker.History

/-! # Calls that leave no trace

A call that comes back with an error that says nothing about its resource may move a breaker from
open to half open, if the cooldown is over, and does nothing else. From outside this does not show:
the breaker is half open in the eyes of everyone already, and it lets the same calls through.

* `Breaker.Alike` says that nobody can tell two breakers apart from some moment on;
  `Breaker.alike_admit` is the one way in which they may differ at all.
* `Breakers.Alike` says it of all resources. `Breakers.alike_settle` is the law for the call that
  leaves no trace, `Breakers.Alike.foldl_perform` the one for everything that comes later. -/

namespace FlowGraph

/-! ### One breaker -/

namespace Breaker

/-- **Nobody can tell two breakers apart** from `now` on: they show the same state and the same
failures, and they let the same calls through, after which they are the same. -/
structure Alike (rule : BreakerRule) (now : Nat) (b b' : Breaker) : Prop where
  failures : b'.failures = b.failures
  observed : ∀ later, now ≤ later → b'.observed rule later = b.observed rule later
  admits : ∀ later, now ≤ later → b'.admit? rule later = b.admit? rule later

variable {rule : BreakerRule} {b b' : Breaker} {now now' : Nat}

theorem Alike.refl (rule : BreakerRule) (now : Nat) (b : Breaker) : Alike rule now b b :=
  ⟨rfl, fun _ _ => rfl, fun _ _ => rfl⟩

theorem Alike.mono (h : Alike rule now b b') (hle : now ≤ now') : Alike rule now' b b' :=
  ⟨h.failures, fun t ht => h.observed t (Nat.le_trans hle ht),
    fun t ht => h.admits t (Nat.le_trans hle ht)⟩

theorem isCool_mono (h : b.isCool rule now) (hle : now ≤ now') : b.isCool rule now' := by
  unfold isCool at h ⊢
  split at h
  · rfl
  · exact decide_eq_true (Nat.le_trans (of_decide_eq_true h) hle)

/-- **Letting a call through** does not show. -/
theorem alike_admit (h : b.admit? rule now = some b') : Alike rule now b b' := by
  cases hs : b.state with
  | closed =>
    simp only [admit?, hs, Option.some.injEq] at h
    exact h ▸ Alike.refl rule now b
  | halfOpen =>
    simp only [admit?, hs, Option.some.injEq] at h
    exact h ▸ Alike.refl rule now b
  | opened =>
    simp only [admit?, hs] at h
    split_ifs at h with hcool
    cases h
    -- the cooldown that is over stays over
    refine ⟨rfl, fun later hle => ?_, fun later hle => ?_⟩
    · simp [observed, hs, isCool_mono hcool hle]
    · simp [admit?, hs, isCool_mono hcool hle]

end Breaker

/-! ### The breakers of all resources -/

namespace Breakers

/-- Nobody can tell the breakers of any resource apart from `now` on. -/
structure Alike (now : Nat) (bs bs' : Breakers) : Prop where
  rule : bs'.rule = bs.rule
  breaker : ∀ r, (bs.breaker r).Alike bs.rule now (bs'.breaker r)

variable {bs bs' : Breakers} {now now' : Nat}

theorem Alike.refl (now : Nat) (bs : Breakers) : Alike now bs bs :=
  ⟨rfl, fun _ => .refl ..⟩

theorem Alike.mono (h : Alike now bs bs') (hle : now ≤ now') : Alike now' bs bs' :=
  ⟨h.rule, fun r => (h.breaker r).mono hle⟩

/-- The states of alike breakers show as the same. -/
theorem Alike.state (h : Alike now bs bs') (r : String) (hle : now ≤ now') :
    bs'.state r now' = bs.state r now' := by
  unfold Breakers.state
  rw [h.rule, (h.breaker r).observed now' hle]

/-- Alike breakers in the place of one resource keep all of them alike. -/
theorem Alike.update (h : Alike now bs bs') (key : String) {b b' : Breaker}
    (hb : b.Alike bs.rule now b') : Alike now (bs.update key b) (bs'.update key b') := by
  refine ⟨h.rule, fun r => ?_⟩
  by_cases hne : r = key
  · rw [hne, breaker_update_self, breaker_update_self]
    exact hb
  · rw [breaker_update_of_ne hne, breaker_update_of_ne hne]
    exact h.breaker r

/-- Alike breakers in the place of the old ones. -/
theorem alike_update (bs : Breakers) {key : String} {b : Breaker}
    (hb : (bs.breaker key).Alike bs.rule now b) : Alike now bs (bs.update key b) := by
  refine ⟨rfl, fun r => ?_⟩
  by_cases hne : r = key
  · rw [hne, breaker_update_self]
    exact hb
  · rw [breaker_update_of_ne hne]
    exact .refl ..

/-- **An error that says nothing about the resource** leaves no trace of its call, which was let
through, whenever it comes back. -/
theorem alike_settle {key : String} {b : Breaker} {e : Error}
    (hb : (bs.breaker key).admit? bs.rule now = some b) (hc : e.countsAgainstBreaker = false)
    {α : Type} (finished : Nat) :
    Alike now bs (bs.update key (b.settle bs.rule (.error e : Except Error α) finished)) := by
  have hsettle : b.settle bs.rule (.error e : Except Error α) finished = b := by
    simp [Breaker.settle, hc]
  rw [hsettle]
  exact alike_update bs (Breaker.alike_admit hb)

/-! ### What comes later -/

section

variable {S α : Type} [Monitor S]
  (hm : ∀ (next : BreakerState) (s : S), Monitor.changed next s = s)
include hm

theorem noteChange_of_ignored (b b' : Breaker) (s : S) : Monitor.noteChange b b' s = s := by
  unfold Monitor.noteChange
  rw [hm, ite_self]

theorem now_le_execute {key : String} {operation : S → Except Error α × S}
    (hf : ∀ s, Monitor.now s ≤ Monitor.now (operation s).2) (bs : Breakers) (s : S) :
    Monitor.now s ≤ Monitor.now (bs.execute key operation s).2.2 := by
  cases hb : (bs.breaker key).admit? bs.rule (Monitor.now s) with
  | none => exact Nat.le_of_eq (by rw [execute_of_none hb])
  | some b =>
    rw [execute_of_some hb]
    simp only [noteChange_of_ignored hm]
    exact hf s

/-- **One call** under alike breakers comes back with the same, and leaves alike breakers. -/
theorem Alike.execute {s : S} (h : Alike (Monitor.now s) bs bs') (key : String)
    (operation : S → Except Error α × S) :
    (bs'.execute key operation s).1 = (bs.execute key operation s).1 ∧
      (bs'.execute key operation s).2.2 = (bs.execute key operation s).2.2 ∧
      Alike (Monitor.now s) (bs.execute key operation s).2.1 (bs'.execute key operation s).2.1 := by
  have hsame := (h.breaker key).admits _ (Nat.le_refl (Monitor.now s))
  cases hb : (bs.breaker key).admit? bs.rule (Monitor.now s) with
  | none =>
    have hb' : (bs'.breaker key).admit? bs'.rule (Monitor.now s) = none := by
      rw [h.rule, hsame, hb]
    rw [execute_of_none hb, execute_of_none hb']
    exact ⟨rfl, rfl, h.update key (h.breaker key)⟩
  | some b =>
    have hb' : (bs'.breaker key).admit? bs'.rule (Monitor.now s) = some b := by
      rw [h.rule, hsame, hb]
    rw [execute_of_some hb, execute_of_some hb']
    simp only [noteChange_of_ignored hm, h.rule]
    exact ⟨trivial, trivial, h.update key (.refl ..)⟩

end

section

variable {S : Type} [Monitor S] (hm : ∀ (next : BreakerState) (s : S), Monitor.changed next s = s)
include hm

/-- **One activity** under alike breakers does the same, and leaves alike breakers. -/
theorem Alike.perform {w : Watched S} (h : Alike (Monitor.now w) bs bs') {a : Activity S}
    (hf : a.Forward) : (a.perform (bs', w)).2 = (a.perform (bs, w)).2 ∧
      Alike (Monitor.now (a.perform (bs, w)).2) (a.perform (bs, w)).1 (a.perform (bs', w)).1 := by
  have hm' : ∀ (next : BreakerState) (w : Watched S), Monitor.changed next w = w :=
    fun next w => congrArg (Watched.mk · w.history) (hm next w.state)
  cases a with
  | pause f => exact ⟨rfl, h.mono (hf w.state)⟩
  | call key operation =>
    obtain ⟨-, hstate, halike⟩ := h.execute hm' key (Watched.watch key operation)
    exact ⟨hstate, halike.mono (now_le_execute hm' (fun u => hf u.state) bs w)⟩

/-- **Everything that comes later** is the same under alike breakers: of every call it is the same
whether it runs, when, and what comes back. -/
theorem Alike.foldl_perform {activities : List (Activity S)} (hf : ∀ a ∈ activities, a.Forward)
    {w : Watched S} (h : Alike (Monitor.now w) bs bs') :
    (activities.foldl Activity.perform (bs', w)).2 = (activities.foldl Activity.perform (bs, w)).2 := by
  induction activities generalizing bs bs' w with
  | nil => rfl
  | cons a rest ih =>
    obtain ⟨hstate, halike⟩ := h.perform hm (hf a List.mem_cons_self)
    have hrest := ih (fun b hb => hf b (List.mem_cons_of_mem _ hb)) halike
    rw [List.foldl_cons, List.foldl_cons, ← hrest, ← hstate]

end

end Breakers

end FlowGraph
