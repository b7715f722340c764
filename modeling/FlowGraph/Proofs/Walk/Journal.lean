import FlowGraph.Engine.Journal

/-! # Reading a journal

Two ways to read what a run wrote down, the last event first. `lastOutput?` looks a node up, and
`Stretch` says something of every event in a part of a journal, with what came after the event and
what came before it.

What is said of an event must not be lost when the journal goes on: it is `Lasting`. Then two
stretches join (`Stretch.trans`), and a stretch goes back over an event when all that followed it is
known (`Stretch.first`). -/

namespace FlowGraph

/-! ### The last output of a node -/

/-- The last output of a node in a journal. -/
def lastOutput? (id : String) : List Event → Option Json
  | [] => none
  | .completed n output :: before => if n = id then some output else lastOutput? id before
  | _ :: before => lastOutput? id before

theorem lastOutput?_completed_self (id : String) (output : Json) (j : List Event) :
    lastOutput? id (.completed id output :: j) = some output := if_pos rfl

theorem lastOutput?_completed_of_ne {id n : String} (h : n ≠ id) (output : Json) (j : List Event) :
    lastOutput? id (.completed n output :: j) = lastOutput? id j := if_neg h

@[simp] theorem lastOutput?_reports (id : String) (rs : List Report) (j : List Event) :
    lastOutput? id (rs.map .reported ++ j) = lastOutput? id j := by
  induction rs with
  | nil => rfl
  | cons r rs ih => simpa [lastOutput?] using ih

/-! ### Stretches -/

/-- **A stretch of a journal**, from `j` on to `j'`: of every event in it, `P` holds together with
what came after the event in the stretch and with all that came before it. -/
def Stretch (P : List Event → Event → List Event → Prop) (j j' : List Event) : Prop :=
  ∃ evs, j' = evs ++ j ∧
    ∀ after ev before, evs = after ++ ev :: before → P after ev (before ++ j)

/-- What is said of an event holds on as the journal goes on. -/
def Lasting (P : List Event → Event → List Event → Prop) : Prop :=
  ∀ later after ev before, P after ev before → P (later ++ after) ev before

namespace Stretch

variable {P : List Event → Event → List Event → Prop} {j j' j'' : List Event}

theorem refl (j : List Event) : Stretch P j j := ⟨[], rfl, by simp⟩

/-- A stretch goes on if what is said of its events holds on over what follows. -/
theorem extend {evs' : List Event}
    (hP : ∀ after ev before, P after ev before → P (evs' ++ after) ev before)
    (h : Stretch P j j') (h' : Stretch P j' (evs' ++ j')) : Stretch P j (evs' ++ j') := by
  obtain ⟨evs, rfl, hall⟩ := h
  obtain ⟨evs₁, heqs, hall'⟩ := h'
  obtain rfl := List.append_cancel_right heqs
  refine ⟨evs' ++ evs, by simp, fun after ev before heq => ?_⟩
  rcases List.append_eq_append_iff.mp heq with ⟨mid, hmid, hev⟩ | ⟨mid, hmid, hev⟩
  · rw [hmid]
    exact hP _ _ _ (hall _ _ _ hev)
  · cases mid with
    | nil =>
      have hev' : evs = ev :: before := by simpa using hev.symm
      obtain rfl : after = evs' := by simpa using hmid.symm
      simpa using hP [] ev (before ++ j) (hall [] ev before hev')
    | cons e rest =>
      obtain ⟨rfl, rfl⟩ := List.cons.inj hev
      simpa using hall' after ev rest hmid

theorem trans (hP : Lasting P) (h : Stretch P j j') (h' : Stretch P j' j'') : Stretch P j j'' := by
  obtain ⟨evs', rfl, -⟩ := id h'
  exact extend (hP evs') h h'

/-- A stretch goes back over an event of which, with all that followed it, `P` holds. -/
theorem first {ev : Event} (h : Stretch P (ev :: j) j')
    (hev : ∀ after, j' = after ++ ev :: j → P after ev j) : Stretch P j j' := by
  obtain ⟨evs, rfl, hall⟩ := h
  refine ⟨evs ++ [ev], by simp, fun after e before heq => ?_⟩
  rcases List.append_eq_append_iff.mp heq with ⟨mid, hmid, he⟩ | ⟨mid, hmid, he⟩
  · obtain ⟨rfl, rfl, rfl⟩ : mid = [] ∧ ev = e ∧ before = [] := by
      cases mid with
      | nil => simpa using he
      | cons => simp at he
    exact hev after (by simp [hmid])
  · cases mid with
    | nil =>
      obtain ⟨rfl, rfl⟩ : e = ev ∧ before = [] := by simpa using he
      exact hev after (by simp [hmid])
    | cons e' rest =>
      obtain ⟨rfl, rfl⟩ := List.cons.inj he
      simpa using hall after e rest hmid

/-- A stretch of events of which `P` holds whatever was before or after. -/
theorem of_forall (evs : List Event) (h : ∀ ev ∈ evs, ∀ after before, P after ev before) :
    Stretch P j (evs ++ j) := by
  refine ⟨evs, rfl, fun after ev before heq => h ev ?_ after _⟩
  simp [heq]

/-- One event of a stretch. -/
theorem get (h : Stretch P [] j') {after before : List Event} {ev : Event}
    (heq : j' = after ++ ev :: before) : P after ev before := by
  obtain ⟨evs, rfl, hall⟩ := h
  simpa using hall after ev before (by simpa using heq)

end Stretch

end FlowGraph
