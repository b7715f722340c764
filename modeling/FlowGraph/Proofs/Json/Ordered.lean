import FlowGraph.Json.Tree
import FlowGraph.Proofs.Fields

/-! # Objects with their names in order

The fields of an object are kept in order of their names, so a value is one that a reader can give
only if this holds of all objects inside it (`Json.IsOrdered`). `Json.sorted` brings any value into
this form; it is what a decoder makes of the tree of a value (`Tree.value_ofJson`), whatever order
the fields stood in.

* `Json.induction` proves a property of all values from their parts.
* `Json.sorted_eq_self`: a value that is in order stays as it is. -/

namespace FlowGraph

namespace Json

/-- **Induction over the parts of a value.** -/
@[elab_as_elim]
theorem induction {motive : Json → Prop} (null : motive .null) (bool : ∀ b, motive (.bool b))
    (int : ∀ n, motive (.int n)) (float : ∀ d, motive (.float d)) (str : ∀ s, motive (.str s))
    (arr : ∀ items, (∀ j ∈ items, motive j) → motive (.arr items))
    (obj : ∀ fields, (∀ p ∈ fields, motive p.2) → motive (.obj fields)) (j : Json) : motive j :=
  @Json.rec motive (fun items => ∀ j ∈ items, motive j) (fun fields => ∀ p ∈ fields, motive p.2)
    (fun p => motive p.2) null bool int float str arr obj
    (fun _ h => absurd h List.not_mem_nil)
    (fun _ _ hj hitems => List.forall_mem_cons.mpr ⟨hj, hitems⟩)
    (fun _ h => absurd h List.not_mem_nil)
    (fun _ _ hp hfields => List.forall_mem_cons.mpr ⟨hp, hfields⟩)
    (fun _ _ hj => hj) j

/-- **The names of every object are in order**, down to all that is inside the value. -/
inductive IsOrdered : Json → Prop where
  | null : IsOrdered .null
  | bool (b : Bool) : IsOrdered (.bool b)
  | int (n : Int) : IsOrdered (.int n)
  | float (d : Double) : IsOrdered (.float d)
  | str (s : String) : IsOrdered (.str s)
  | arr {items : List Json} (h : ∀ j ∈ items, IsOrdered j) : IsOrdered (.arr items)
  | obj {fields : List (String × Json)} (hnames : (Fields.names fields).Pairwise (· < ·))
    (h : ∀ p ∈ fields, IsOrdered p.2) : IsOrdered (.obj fields)

/-! ### Bringing a value into order -/

mutual

/-- The value with the fields of all objects in order. Of fields with one name the last stays. -/
def sorted : Json → Json
  | .arr items => .arr (sortedItems items)
  | .obj fields => .obj (Fields.ofPairs (sortedFields fields))
  | j => j

/-- The items with the fields of all objects in order. -/
def sortedItems : List Json → List Json
  | [] => []
  | j :: rest => sorted j :: sortedItems rest

/-- The fields, as they stand, with the fields of all objects inside of them in order. -/
def sortedFields : List (String × Json) → List (String × Json)
  | [] => []
  | (name, j) :: rest => (name, sorted j) :: sortedFields rest

end

theorem sortedItems_eq_map : ∀ items : List Json, sortedItems items = items.map sorted
  | [] => rfl
  | j :: rest => by rw [sortedItems, sortedItems_eq_map rest, List.map_cons]

theorem sortedFields_eq_mapValues : ∀ fields : List (String × Json),
    sortedFields fields = Fields.mapValues sorted fields
  | [] => rfl
  | (name, j) :: rest => by
    rw [sortedFields, sortedFields_eq_mapValues rest]
    rfl

@[simp] theorem sorted_arr (items : List Json) : sorted (.arr items) = .arr (items.map sorted) := by
  rw [sorted, sortedItems_eq_map]

@[simp] theorem sorted_obj (fields : List (String × Json)) :
    sorted (.obj fields) = .obj (Fields.ofPairs (Fields.mapValues sorted fields)) := by
  rw [sorted, sortedFields_eq_mapValues]

theorem isOrdered_ofFields {pairs : List (String × Json)} (h : ∀ p ∈ pairs, p.2.IsOrdered) :
    (ofFields pairs).IsOrdered :=
  .obj (Fields.pairwise_names_ofPairs pairs) fun p hp => h p (Fields.mem_of_mem_ofPairs hp)

theorem isOrdered_sorted (j : Json) : j.sorted.IsOrdered := by
  induction j using Json.induction with
  | null => exact .null
  | bool b => exact .bool b
  | int n => exact .int n
  | float d => exact .float d
  | str s => exact .str s
  | arr items ih =>
    rw [sorted_arr]
    refine .arr fun j hj => ?_
    obtain ⟨j, hmem, rfl⟩ := List.mem_map.mp hj
    exact ih j hmem
  | obj fields ih =>
    rw [sorted_obj]
    refine isOrdered_ofFields fun p hp => ?_
    obtain ⟨p, hmem, rfl⟩ := List.mem_map.mp hp
    exact ih p hmem

/-- A value that is in order stays as it is. -/
theorem IsOrdered.sorted_eq_self {j : Json} (h : j.IsOrdered) : j.sorted = j := by
  induction h with
  | arr _ ih => rw [sorted_arr, List.map_congr_left ih, List.map_id']
  | @obj fields hnames _ ih =>
    have hsame : Fields.mapValues sorted fields = fields :=
      (List.map_congr_left fun p hp => by rw [ih p hp]).trans (List.map_id' fields)
    rw [sorted_obj, hsame, Fields.ofPairs_of_pairwise hnames]
  | _ => rfl

end Json

/-! ### What is read of the tree of a value -/

namespace Tree

open Json (sorted)

theorem ofItems_eq_map : ∀ items : List Json, ofItems items = items.map ofJson
  | [] => rfl
  | j :: rest => by rw [ofItems, ofItems_eq_map rest, List.map_cons]

theorem ofFields_eq_map : ∀ fields : List (String × Json),
    ofFields fields = fields.map fun p => (ofText p.1, ofJson p.2)
  | [] => rfl
  | (name, j) :: rest => by rw [ofFields, ofFields_eq_map rest, List.map_cons]

theorem valuesOf_ofItems {items : List Json} (h : ∀ j ∈ items, (ofJson j).value = .ok j.sorted)
    (position : Nat) : valuesOf position (ofItems items) = .ok (items.map sorted) := by
  induction items generalizing position with
  | nil => rfl
  | cons j rest ih =>
    obtain ⟨hj, hrest⟩ := List.forall_mem_cons.mp h
    rw [ofItems, valuesOf, hj, ih hrest]
    rfl

/-- Values under names are put one by one into the fields read before. -/
theorem insertEntries_ofFields {α : Type} {read : Tree → Decoded α} {value : Json → α}
    {fields : List (String × Json)} (h : ∀ p ∈ fields, read (ofJson p.2) = .ok (value p.2))
    (start : Fields α) :
    insertEntries read start (ofFields fields) =
      .ok ((Fields.mapValues value fields).foldl (fun fs p => Fields.insert p.1 p.2 fs) start) := by
  induction fields generalizing start with
  | nil => rfl
  | cons p rest ih =>
    obtain ⟨hp, hrest⟩ := List.forall_mem_cons.mp h
    rw [ofFields, insertEntries, hp]
    exact ih hrest (Fields.insert p.1 (value p.2) start)

theorem fieldsOf_eq_insertEntries (entries : List (Tree × Tree)) (start : Fields Json) :
    fieldsOf start entries = insertEntries value start entries := by
  induction entries generalizing start with
  | nil => rfl
  | cons e rest ih =>
    rw [fieldsOf, insertEntries]
    simp only [ih]

/-- **Any value is read** with its fields in order. -/
@[simp] theorem value_ofJson (j : Json) : (ofJson j).value = .ok j.sorted := by
  induction j using Json.induction with
  | arr items ih => rw [ofJson, value, valuesOf_ofItems ih, Json.sorted_arr]; rfl
  | obj fields ih =>
    rw [ofJson, value, fieldsOf_eq_insertEntries, insertEntries_ofFields ih, Json.sorted_obj]
    rfl
  | _ => rfl

/-- The text of a value does not break off. -/
theorem isSound_ofJson (j : Json) : (ofJson j).isSound = true := by
  induction j using Json.induction with
  | arr items ih =>
    rw [ofJson, isSound]
    induction items with
    | nil => rfl
    | cons j rest hrest =>
      obtain ⟨hj, hmem⟩ := List.forall_mem_cons.mp ih
      rw [ofItems, areSound, hj, hrest hmem]
      rfl
  | obj fields ih =>
    rw [ofJson, isSound]
    induction fields with
    | nil => rfl
    | cons p rest hrest =>
      obtain ⟨hp, hmem⟩ := List.forall_mem_cons.mp ih
      rw [ofFields, entriesAreSound, hp, hrest hmem]
      rfl
  | _ => rfl

end Tree

end FlowGraph
