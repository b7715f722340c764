import FlowGraph.Json.Path
import FlowGraph.Proofs.Fields
import Mathlib.Data.List.Infix

/-! # Reading and writing at paths

A write makes an object of everything on its way that is none, and puts its value at the end. So the
value is found there again, and a path that parts from the written one leads to what it led to
before. Only an array on the way is lost: it has items under positions, and the object in its place
has none of them.

* `Path.Diverge p q`: the paths part at some segment.
* `at?_write_self`, `at?_write_of_isPrefix` and `at?_write_of_diverge`: what the written path, its
  beginnings and the paths that part from it lead to.
* `Fields.Holds`: a value stands at the end of a path through objects. It stays there while other
  paths are written (`Holds.write`). -/

namespace FlowGraph

namespace Path

/-- **Paths that part**: neither is the beginning of the other. -/
def Diverge (p q : List String) : Prop := ¬ p <+: q ∧ ¬ q <+: p

instance (p q : List String) : Decidable (Diverge p q) := inferInstanceAs (Decidable (_ ∧ _))

variable {p q : List String}

theorem Diverge.symm (h : Diverge p q) : Diverge q p := ⟨h.2, h.1⟩

theorem Diverge.ne_nil (h : Diverge p q) : p ≠ [] := by
  rintro rfl
  exact h.1 List.nil_prefix

theorem diverge_cons_self (s : String) : Diverge (s :: p) (s :: q) ↔ Diverge p q := by
  simp [Diverge, List.cons_prefix_cons]

end Path

namespace Fields

/-- The fields of the object under a name, none if there is no object. -/
def below (fields : Fields Json) (name : String) : Fields Json :=
  ((get? fields name).map Json.fieldsOrNone).getD []

variable {fields : Fields Json} {p q : List String} {v : Json}

/-! ### One segment -/

theorem get?_write_of_ne {s name : String} (h : name ≠ s) (rest : List String) :
    get? (write fields (s :: rest) v) name = get? fields name := by
  cases rest <;> exact get?_insert_of_ne h _ _

theorem get?_write_cons (s : String) {rest : List String} (h : rest ≠ []) :
    get? (write fields (s :: rest) v) s = some (.obj (write (below fields s) rest v)) := by
  cases rest with
  | nil => exact absurd rfl h
  | cons next rest => exact get?_insert_self _ _ _

theorem at?_cons (fields : Fields Json) (s : String) (rest : List String) :
    (Json.obj fields).at? (s :: rest) = (get? fields s).bind fun child => child.at? rest := rfl

/-- Below a name a path leads to the same, unless there is an array. -/
theorem at?_below {s : String} {rest : List String} (h : rest ≠ [])
    (harr : ∀ items, get? fields s ≠ some (.arr items)) :
    (Json.obj (below fields s)).at? rest = (Json.obj fields).at? (s :: rest) := by
  obtain ⟨next, rest, rfl⟩ := List.exists_cons_of_ne_nil h
  rw [at?_cons fields]
  unfold below
  cases hchild : get? fields s with
  | none => rfl
  | some child =>
    cases child with
    | arr items => exact absurd hchild (harr items)
    | _ => rfl

/-! ### Whole paths -/

/-- What was written is found. -/
theorem at?_write_self : ∀ {p : List String} (fields : Fields Json), p ≠ [] →
    (Json.obj (write fields p v)).at? p = some v
  | [], _, h => absurd rfl h
  | [last], fields, _ => by
    rw [at?_cons]
    simp [write, Json.at?]
  | s :: next :: rest, fields, _ => by
    rw [at?_cons, get?_write_cons s (List.cons_ne_nil next rest), Option.bind_some]
    exact at?_write_self _ (List.cons_ne_nil next rest)

/-- On the way to what was written there are objects. -/
theorem at?_write_of_isPrefix : ∀ {p a : List String} (fields : Fields Json), a <+: p → a ≠ p →
    ∃ inner, (Json.obj (write fields p v)).at? a = some (.obj inner)
  | _, [], fields, _, _ => ⟨_, rfl⟩
  | [], _ :: _, _, hprefix, _ => absurd (List.prefix_nil.mp hprefix) (List.cons_ne_nil _ _)
  | s :: rest, t :: a, fields, hprefix, hne => by
    obtain ⟨rfl, hrest⟩ := List.cons_prefix_cons.mp hprefix
    have hne' : a ≠ rest := fun h => hne (congrArg (t :: ·) h)
    have hnil : rest ≠ [] := by
      rintro rfl
      exact hne' (List.prefix_nil.mp hrest)
    rw [at?_cons, get?_write_cons t hnil, Option.bind_some]
    exact at?_write_of_isPrefix _ hrest hne'

/-- **A path that parts from the written one** leads to what it led to before, unless an array was
where they part or on the way to there. -/
theorem at?_write_of_diverge : ∀ {p q : List String} (fields : Fields Json), Path.Diverge p q →
    (∀ a items, a <+: p → a <+: q → (Json.obj fields).at? a ≠ some (.arr items)) →
    (Json.obj (write fields p v)).at? q = (Json.obj fields).at? q
  | [], _, _, h, _ => absurd rfl h.ne_nil
  | _, [], _, h, _ => absurd rfl h.symm.ne_nil
  | s :: p, t :: q, fields, h, harr => by
    by_cases hst : s = t
    · subst hst
      have hpq : Path.Diverge p q := (Path.diverge_cons_self s).mp h
      have hs : ∀ items, get? fields s ≠ some (.arr items) := fun items hitems =>
        harr [s] items ⟨p, rfl⟩ ⟨q, rfl⟩ (by rw [at?_cons, hitems]; rfl)
      rw [at?_cons, get?_write_cons s hpq.ne_nil, Option.bind_some, at?_write_of_diverge _ hpq,
        at?_below hpq.symm.ne_nil hs]
      intro a items hap haq
      cases a with
      | nil => simp [Json.at?]
      | cons next a =>
        rw [at?_below (List.cons_ne_nil next a) hs]
        exact harr _ items (List.cons_prefix_cons.mpr ⟨rfl, hap⟩)
          (List.cons_prefix_cons.mpr ⟨rfl, haq⟩)
    · rw [at?_cons, at?_cons, get?_write_of_ne (Ne.symm hst)]

/-! ### Many writes -/

/-- **A value stands at the end of a path**, with objects all the way. -/
structure Holds (fields : Fields Json) (p : List String) (v : Json) : Prop where
  value : (Json.obj fields).at? p = some v
  objects : ∀ a, a <+: p → a ≠ p → ∃ inner, (Json.obj fields).at? a = some (.obj inner)

theorem holds_write (fields : Fields Json) (h : p ≠ []) (v : Json) :
    Holds (write fields p v) p v :=
  ⟨at?_write_self fields h, fun _ => at?_write_of_isPrefix fields⟩

/-- What stands at the end of a path stays there when a path that parts from it is written. -/
theorem Holds.write (h : Holds fields p v) (hqp : Path.Diverge q p) (w : Json) :
    Holds (write fields q w) p v := by
  have hobjects : ∀ a items, a <+: p → a ≠ p → (Json.obj fields).at? a ≠ some (.arr items) := by
    intro a items hap hne hitems
    obtain ⟨inner, hinner⟩ := h.objects a hap hne
    cases hinner.symm.trans hitems
  have hproper : ∀ a, a <+: q → a ≠ p := fun a haq hap => hqp.2 (hap ▸ haq)
  refine ⟨?_, fun a hap hne => ?_⟩
  · rw [at?_write_of_diverge fields hqp fun a items haq hap =>
      hobjects a items hap (hproper a haq)]
    exact h.value
  · by_cases haq : a <+: q
    -- the paths have not parted yet, so the write has gone this way
    · exact at?_write_of_isPrefix fields haq fun heq => hqp.1 (heq ▸ hap)
    · have hqa : Path.Diverge q a := ⟨fun hqa => hqp.1 (hqa.trans hap), haq⟩
      rw [at?_write_of_diverge fields hqa fun b items hbq hba =>
        hobjects b items (hba.trans hap) (hproper b hbq)]
      exact h.objects a hap hne

end Fields

end FlowGraph
