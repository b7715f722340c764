import FlowGraph.Proofs.Json.Ordered
import Mathlib.Data.List.Forall2

/-! # What a decoder reads of a JSON value

A record is decoded entry by entry, with a slot for every field that fills at most once. What comes
out depends only on which fields the value gives, not on their order:

* `Json.asRecord?` gives the fields of a record, by name or by position.
* `Gives` says what the entries under one name, or under a name and its alias, put into a slot; the
  order of the entries does not matter (`Gives.perm`).
* `Record.decode_ofJson_eq_ok` reduces decoding a record to what one more entry changes.
* `Tree.text_ofJson`, `Tree.optional_text_ofJson`, `Tree.items_ofJson` and `Tree.entriesOf_ofJson`
  say which values the readers of fields take. -/

namespace FlowGraph

/-! ### Steps that succeed -/

namespace Decoded

variable {α β : Type} {d : Decoded α}

theorem bind_eq_ok {f : α → Decoded β} {b : β} :
    (d >>= f) = .ok b ↔ ∃ a, d = .ok a ∧ f a = .ok b := by
  cases d with
  | error e => simp [bind, Except.bind]
  | ok a => simp [bind, Except.bind]

theorem map_eq_ok {f : α → β} {b : β} : d.map f = .ok b ↔ ∃ a, d = .ok a ∧ f a = b := by
  cases d with
  | error e => simp [Except.map]
  | ok a => simp [Except.map]

theorem behind_eq_ok {step : DecodeError.Step} {a : α} : d.behind step = .ok a ↔ d = .ok a := by
  cases d with
  | error e => simp [behind, Except.mapError]
  | ok a => simp [behind, Except.mapError]

end Decoded

open Decoded (bind_eq_ok map_eq_ok behind_eq_ok)

/-! ### Single fields -/

namespace Tree

variable {j : Json}

theorem text_ofJson {s : String} : (ofJson j).text = .ok s ↔ j = .str s := by
  cases j with
  | str t => simp [ofJson, ofAtom, Json.asText?, text]
  | _ => simp [ofJson, ofAtom, Json.asText?, text]

theorem optional_text_ofJson {o : Option String} :
    optional text (ofJson j) = .ok o ↔ j = .ofText? o := by
  cases j with
  | null => cases o <;> simp [ofJson, ofAtom, Json.isNull, optional, Json.ofText?]
  | str s =>
    cases o <;>
      simp [ofJson, ofAtom, Json.isNull, Json.asText?, optional, text, Json.ofText?, Except.map]
  | _ => cases o <;> simp [ofJson, ofAtom, Json.isNull, Json.asText?, optional, text, Json.ofText?,
      Except.map]

theorem entriesOf_ofJson {fields : Fields Json} :
    entriesOf value (ofJson j) = .ok fields ↔ j.sorted = .obj fields := by
  cases j with
  | obj given =>
    rw [Json.sorted_obj, ofJson, entriesOf, insertEntries_ofFields fun p _ => value_ofJson p.2]
    simp [Fields.ofPairs]
  | arr items => simp [ofJson, entriesOf]
  | _ => simp [ofJson, ofAtom, entriesOf, Json.sorted]

/-- **The items of a list** are read one by one. -/
theorem readItems_eq_ok {α : Type} {read : Tree → Decoded α} {items : List Json} {xs : List α} :
    readItems read (ofItems items) = .ok xs ↔
      List.Forall₂ (fun j x => read (ofJson j) = .ok x) items xs := by
  have hfrom : ∀ position, ((ofItems items).zipIdx position).mapM
      (fun p => (read p.1).behind (.item p.2)) = .ok xs ↔
        List.Forall₂ (fun j x => read (ofJson j) = .ok x) items xs := by
    induction items generalizing xs with
    | nil => simp [ofItems, pure, Except.pure, eq_comm]
    | cons j rest ih =>
      intro position
      simp only [ofItems, List.zipIdx_cons, List.mapM_cons, bind_eq_ok, behind_eq_ok, ih,
        List.forall₂_cons_left_iff, pure, Except.pure, Except.ok.injEq]
      constructor
      · rintro ⟨x, hx, rest', hrest, rfl⟩
        exact ⟨x, rest', hx, hrest, rfl⟩
      · rintro ⟨x, rest', hx, hrest, rfl⟩
        exact ⟨x, hx, rest', hrest, rfl⟩
  exact hfrom 0

theorem items_ofJson {α : Type} {read : Tree → Decoded α} {xs : List α} :
    Tree.items read (ofJson j) = .ok xs ↔
      ∃ items, j = .arr items ∧ List.Forall₂ (fun j x => read (ofJson j) = .ok x) items xs := by
  cases j with
  | arr items => simp [ofJson, Tree.items, readItems_eq_ok]
  | obj fields => simp [ofJson, Tree.items]
  | _ => simp [ofJson, ofAtom, Tree.items]

end Tree

/-! ### Records -/

namespace Json

/-- The fields that a value gives to a record with the given names: those of an object, or the items
of a list one after the other. -/
def asRecord? (names : List String) : Json → Option (List (String × Json))
  | .arr items => if items.length ≤ names.length then some (names.zip items) else none
  | .obj fields => some fields
  | _ => none

end Json

namespace Record

variable {α σ : Type} {r : Record} {name : String}

theorem once_eq_ok {read : Tree → Decoded α} {slot filled : Option α} {t : Tree} :
    once name slot read t = .ok filled ↔ slot = none ∧ ∃ v, read t = .ok v ∧ filled = some v := by
  cases slot with
  | none =>
    rw [once, if_neg (by simp), map_eq_ok]
    simp only [behind_eq_ok, true_and]
    exact exists_congr fun v => and_congr_right' eq_comm
  | some v => simp [once]

theorem skip_ofJson {d d' : σ} {j : Json} : skip d (.ofJson j) = .ok d' ↔ d = d' := by
  simp [skip, Tree.isSound_ofJson]

theorem require_eq_ok {slot : Option α} {a : α} : r.require name slot = .ok a ↔ slot = some a := by
  cases slot <;> simp [require]

theorem close_eq_ok {a b : α} : r.close a = .ok b ↔ r.excess = none ∧ a = b := by
  unfold close
  cases r.excess <;> simp

/-- A record is open for the fields that the value gives. -/
theorem exists_record_ofJson {names : List String} {j : Json} {P : List (Tree × Tree) → Prop} :
    (∃ r, (Tree.ofJson j).record name names = .ok r ∧ r.excess = none ∧ P r.entries) ↔
      ∃ fields, j.asRecord? names = some fields ∧ P (Tree.ofFields fields) := by
  cases j with
  | obj fields => simp [Tree.ofJson, Tree.record, ofMap, Json.asRecord?]
  | arr items =>
    have hentries : (names.map Tree.ofText).zip (Tree.ofItems items) =
        Tree.ofFields (names.zip items) := by
      rw [Tree.ofItems_eq_map, Tree.ofFields_eq_map, List.zip_map]
      rfl
    have hlength : (Tree.ofItems items).length = items.length := by
      rw [Tree.ofItems_eq_map, List.length_map]
    by_cases hle : items.length ≤ names.length
    · simp [Tree.ofJson, Tree.record, ofSeq, Json.asRecord?, hentries, hlength, hle]
    · simp [Tree.ofJson, Tree.record, ofSeq, Json.asRecord?, hlength, hle]
  | _ => simp [Tree.ofJson, Tree.ofAtom, Tree.record, Json.asRecord?]

section

variable {step : σ → String → Tree → Decoded σ} {start : σ}
  {Reads : List (String × Json) → σ → Prop}
  (hnil : ∀ d, Reads [] d ↔ d = start)
  (hconcat : ∀ fields p d', Reads (fields ++ [p]) d' ↔
    ∃ d, Reads fields d ∧ step d p.1 (.ofJson p.2) = .ok d')

include hnil hconcat

/-- What holds of the start and is kept by one more entry says what the entries are read as. -/
theorem foldlM_ofFields_eq_ok {fields : List (String × Json)} {d : σ} :
    (Tree.ofFields fields).foldlM (fun s (k, t) => do step s (← k.text) t) start = .ok d ↔
      Reads fields d := by
  rw [Tree.ofFields_eq_map]
  induction fields using List.reverseRecOn generalizing d with
  | nil => simp [hnil, pure, Except.pure, eq_comm]
  | append_singleton fields p ih =>
    have htext : (Tree.ofText p.1).text = .ok p.1 := rfl
    rw [List.map_append, List.foldlM_append, bind_eq_ok, hconcat]
    simp only [ih, List.map_singleton, List.foldlM_cons, List.foldlM_nil, htext, bind_pure]
    rfl

/-- **A record is decoded** exactly if the value gives its fields, what is read of them makes a record
and no item of a list is left over. -/
theorem decode_ofJson_eq_ok {decode : Tree → Decoded α} {names : List String}
    {finish : Record → σ → Decoded α} {Makes : σ → α → Prop} {j : Json} {a : α}
    (hdecode : ∀ t, decode t = do
      let r ← t.record name names
      let d ← r.scan step start
      finish r d)
    (hfinish : ∀ r d a, finish r d = .ok a ↔ r.excess = none ∧ Makes d a) :
    decode (.ofJson j) = .ok a ↔
      ∃ fields, j.asRecord? names = some fields ∧ ∃ d, Reads fields d ∧ Makes d a := by
  have hrecord := @exists_record_ofJson name names j fun entries => ∃ d,
    entries.foldlM (fun s (k, t) => do step s (← k.text) t) start = .ok d ∧ Makes d a
  simp only [foldlM_ofFields_eq_ok hnil hconcat] at hrecord
  rw [← hrecord, hdecode]
  simp only [bind_eq_ok, hfinish]
  constructor
  · rintro ⟨r, hr, d, hd, hexcess, ha⟩
    exact ⟨r, hr, hexcess, d, hd, ha⟩
  · rintro ⟨r, hr, hexcess, d, hd, ha⟩
    exact ⟨r, hr, d, hd, hexcess, ha⟩

end

end Record

/-! ### Slots -/

section

variable {α : Type} {fields : List (String × Json)} {names : List String} {R : Json → α → Prop}
  {slot : Option α}

/-- **What the entries under some names give**: nothing if there are none, and the value of the one
there is. More than one entry is not allowed. -/
def Gives (fields : List (String × Json)) (names : List String) (R : Json → α → Prop)
    (slot : Option α) : Prop :=
  List.Forall₂ (fun p v => R p.2 v) (fields.filter fun p => p.1 ∈ names) slot.toList

theorem gives_nil : Gives [] names R slot ↔ slot = none := by
  cases slot <;> simp [Gives]

theorem gives_concat_of_mem {p : String × Json} (hp : p.1 ∈ names) :
    Gives (fields ++ [p]) names R slot ↔
      Gives fields names R none ∧ ∃ v, R p.2 v ∧ some v = slot := by
  unfold Gives
  rw [List.filter_append, List.filter_cons_of_pos (by simpa using hp), List.filter_nil]
  cases slot with
  | none => simp
  | some v =>
    cases fields.filter fun p => p.1 ∈ names with
    | nil => simp
    | cons q rest => simp

theorem gives_append_of_forall_notMem {more : List (String × Json)}
    (hmore : ∀ p ∈ more, p.1 ∉ names) :
    Gives (fields ++ more) names R slot ↔ Gives fields names R slot := by
  have hnone : more.filter (fun p => p.1 ∈ names) = [] :=
    List.filter_eq_nil_iff.mpr fun p hp => by simpa using hmore p hp
  unfold Gives
  rw [List.filter_append, hnone, List.append_nil]

theorem gives_concat_of_notMem {p : String × Json} (hp : p.1 ∉ names) :
    Gives (fields ++ [p]) names R slot ↔ Gives fields names R slot :=
  gives_append_of_forall_notMem fun _ hq => List.mem_singleton.mp hq ▸ hp

/-- What is given stands in an entry. -/
theorem Gives.exists_of_some {v : α} (h : Gives fields names R (some v)) :
    ∃ p ∈ fields, p.1 ∈ names ∧ R p.2 v := by
  obtain ⟨p, _, hp, -, hfilter⟩ := List.forall₂_cons_right_iff.mp h
  have hmem : p ∈ fields.filter fun p => p.1 ∈ names := hfilter ▸ List.mem_cons_self
  rw [List.mem_filter, decide_eq_true_eq] at hmem
  exact ⟨p, hmem.1, hmem.2, hp⟩

/-- The order of the entries does not matter. -/
theorem Gives.perm {fields' : List (String × Json)} (h : Gives fields names R slot)
    (hperm : fields.Perm fields') : Gives fields' names R slot := by
  have hfilter := hperm.filter fun p => decide (p.1 ∈ names)
  unfold Gives at h ⊢
  cases slot with
  | none =>
    rw [List.forall₂_nil_right_iff.mp h] at hfilter
    exact hfilter.nil_eq ▸ .nil
  | some v =>
    obtain ⟨p, rest, hp, hrest, heq⟩ := List.forall₂_cons_right_iff.mp h
    rw [heq, List.forall₂_nil_right_iff.mp hrest] at hfilter
    rw [← List.singleton_perm.mp hfilter]
    exact .cons hp .nil

/-- **What the entries under some names give**, with a default if there are none. -/
def GivesOr (default : α) (fields : List (String × Json)) (names : List String)
    (R : Json → α → Prop) (v : α) : Prop :=
  ∃ slot, Gives fields names R slot ∧ slot.getD default = v

theorem GivesOr.perm {default v : α} {fields' : List (String × Json)}
    (h : GivesOr default fields names R v) (hperm : fields.Perm fields') :
    GivesOr default fields' names R v := by
  obtain ⟨slot, hslot, hv⟩ := h
  exact ⟨slot, hslot.perm hperm, hv⟩

end

end FlowGraph
