import FlowGraph.Node.Data
import FlowGraph.Proofs.Json.Path

/-! # Assignments to paths

A set node makes its assignments one after another, each a write at the end of a path. An assignment
holds in the output unless a later one meets its path, which is when one of the two paths begins the
other; so of several assignments to one path the last one holds. The values are resolved against
what the node received, not against what was assigned before.

* `Config.IsAccepted` is what a list of assignments must be; `run_eq_ok` says that nothing else is
  refused, and what comes of it.
* `SetFields.assignments_hold` is the law of writes and of what the node gives. -/

namespace FlowGraph.SetFields

variable {config : Json} {c : Config} {ctx : NodeContext} {r : NodeResult}

/-- **Assignments that are accepted**: there is one, and every path has something other than
blanks. -/
def Config.IsAccepted (c : Config) : Prop :=
  c.assignments ≠ [] ∧ ∀ a ∈ c.assignments, ¬ Text.isBlankText a.1

instance (c : Config) : Decidable c.IsAccepted := inferInstanceAs (Decidable (_ ∧ _))

/-- One write after another. -/
def assignAll (ctx : NodeContext) (fields : Fields Json) (assignments : List (String × Json)) :
    Fields Json :=
  assignments.foldl (fun fields a => fields.writePath a.1 (ctx.resolveDeep a.2)) fields

theorem assignAll_append (fields : Fields Json) (before after : List (String × Json))
    (a : String × Json) : assignAll ctx fields (before ++ a :: after) =
      assignAll ctx ((assignAll ctx fields before).writePath a.1 (ctx.resolveDeep a.2)) after :=
  List.foldl_append

theorem assign_eq_ok {assignments : List (String × Json)} {fields out : Fields Json} :
    assign ctx fields assignments = .ok out ↔
      (∀ a ∈ assignments, ¬ Text.isBlankText a.1) ∧ assignAll ctx fields assignments = out := by
  induction assignments generalizing fields with
  | nil => simp [assign, assignAll]
  | cons a rest ih =>
    unfold assign
    split_ifs with h
    · simp [h]
    · simp [ih, h, assignAll]

theorem result_eq_ok : result c ctx = .ok r ↔ c.IsAccepted ∧ {
    data := .obj (assignAll ctx (start ctx.input) c.assignments)
    metadata := .ofFields [("fields_set", .ofNat c.assignments.length)] } = r := by
  unfold result Config.IsAccepted
  split_ifs with h
  · simp [List.isEmpty_iff.mp h]
  · have hne : c.assignments ≠ [] := fun heq => h (List.isEmpty_iff.mpr heq)
    cases hassign : assign ctx (start ctx.input) c.assignments with
    | error fault =>
      have hblank : ¬ ∀ a ∈ c.assignments, ¬ Text.isBlankText a.1 := fun hall => by
        cases hassign.symm.trans (assign_eq_ok.mpr ⟨hall, rfl⟩)
      exact iff_of_false (by simp) fun haccepted => hblank haccepted.1.2
    | ok fields =>
      obtain ⟨hall, rfl⟩ := assign_eq_ok.mp hassign
      simp only [Except.ok.injEq]
      exact (and_iff_right ⟨hne, hall⟩).symm

/-- A configuration that can be read is refused only for its list of assignments. -/
theorem run_eq_ok (hconfig : Config.decode (.ofJson config) = .ok c) :
    run config ctx = .ok r ↔ result c ctx = .ok r := by
  unfold run
  rw [hconfig]
  simp only
  cases result c ctx <;> simp

/-- What is assigned stands at the end of its path, if no later path meets it. -/
theorem holds_assignAll {p : List String} {v : Json} (later : List (String × Json))
    {fields : Fields Json} (h : Fields.Holds fields p v)
    (hlater : ∀ a ∈ later, Path.segments a.1 ≠ [] → Path.Diverge (Path.segments a.1) p) :
    Fields.Holds (assignAll ctx fields later) p v := by
  induction later generalizing fields with
  | nil => exact h
  | cons a later ih =>
    have hfirst : Fields.Holds (fields.writePath a.1 (ctx.resolveDeep a.2)) p v := by
      unfold Fields.writePath
      by_cases ha : Path.segments a.1 = []
      · rw [ha]
        exact h
      · exact h.write (hlater a List.mem_cons_self ha) _
    exact ih hfirst fun b hb => hlater b (List.mem_cons_of_mem a hb)

/-- The assignments make a path lead to the value that was assigned to it last. -/
theorem atPath?_assignAll (fields : Fields Json) {before after : List (String × Json)} {p : String}
    {value : Json} (hp : Path.segments p ≠ [])
    (hafter : ∀ a ∈ after, Path.segments a.1 ≠ [] →
      Path.Diverge (Path.segments a.1) (Path.segments p)) :
    (Json.obj (assignAll ctx fields (before ++ (p, value) :: after))).atPath? p =
      some (ctx.resolveDeep value) := by
  have hwritten := Fields.holds_write (assignAll ctx fields before) hp (ctx.resolveDeep value)
  rw [assignAll_append]
  exact (holds_assignAll after hwritten hafter).value

/-- **Writes and assignments.** A value is found at the end of the path where it was put, and there
are objects on the way to it. A path that parts from the written one leads to what it led to before,
unless a beginning of the written path led to an array. So a set node gives a result for every list
of assignments that is accepted and for no other, and a path in it leads to the value of its last
assignment, resolved against what the node received, unless a later assignment has a path that
begins this one or that this one begins. -/
theorem assignments_hold :
    (∀ (root : Fields Json) (p : String) (v : Json), Path.segments p ≠ [] →
      (Json.obj (root.writePath p v)).atPath? p = some v ∧
      (∀ a, a <+: Path.segments p → a ≠ Path.segments p →
        ∃ inner, (Json.obj (root.writePath p v)).at? a = some (.obj inner)) ∧
      ∀ q, Path.Diverge (Path.segments p) (Path.segments q) →
        (∀ a items, a <+: Path.segments p → a ≠ Path.segments p →
          (Json.obj root).at? a ≠ some (.arr items)) →
        (Json.obj (root.writePath p v)).atPath? q = (Json.obj root).atPath? q) ∧
    ∀ (config : Json) (c : Config) (ctx : NodeContext), Config.decode (.ofJson config) = .ok c →
      ((∃ r, run config ctx = .ok r) ↔ c.IsAccepted) ∧
      ∀ r, run config ctx = .ok r → ∀ before p value after,
        c.assignments = before ++ (p, value) :: after → Path.segments p ≠ [] →
        (∀ a ∈ after, Path.segments a.1 ≠ [] →
          Path.Diverge (Path.segments a.1) (Path.segments p)) →
        r.data.atPath? p = some (ctx.resolveDeep value) := by
  refine ⟨fun root p v hp => ⟨?_, ?_, ?_⟩, fun config c ctx hconfig => ⟨?_, ?_⟩⟩
  · exact Fields.at?_write_self root hp
  · exact fun a => Fields.at?_write_of_isPrefix root
  · intro q hpq harr
    refine Fields.at?_write_of_diverge root hpq fun a items hap haq => harr a items hap ?_
    rintro rfl
    exact hpq.1 haq
  · simp only [run_eq_ok hconfig, result_eq_ok]
    exact ⟨fun ⟨_, haccepted, _⟩ => haccepted, fun haccepted => ⟨_, haccepted, rfl⟩⟩
  · intro r hr before p value after hsplit hp hafter
    obtain ⟨-, rfl⟩ := result_eq_ok.mp ((run_eq_ok hconfig).mp hr)
    rw [hsplit]
    exact atPath?_assignAll _ hp hafter

/-- Five assignments, two of them to one path. The one between them takes away what the second
refers to. -/
def stamp : Json := .obj [
  ("fields", .arr [.obj [("name", .str "sum"), ("value", .int 1)],
    .obj [("name", .str "order.total"), ("value", .str "\x7b\x7binput.sum\x7d\x7d")],
    .obj [("name", .str "order..note"), ("value", .str "new")]]),
  ("values", .obj [("order.total", .int 0), ("paid", .bool true)])]

/-- An order, before any of them is made. -/
def order : Fields Json :=
  [("order", .obj [("id", .int 7), ("total", .str "old")]), ("sum", .int 12)]

theorem assignments_hold_stamp :
    let ctx : NodeContext := { input := .obj order, vars := .obj [], outputs := [],
                               nodeId := "stamp", executionId := "", workflowName := "" }
    let before : List (String × Json) := [("order.total", .int 0), ("paid", .bool true),
      ("sum", .int 1)]
    let total : Json := .str "\x7b\x7binput.sum\x7d\x7d"
    let after : List (String × Json) := [("order..note", .str "new")]
    Path.Diverge (Path.segments "order.total") (Path.segments "order.id") ∧
    (Json.obj (order.writePath "order.total" (.int 0))).atPath? "order.id" = some (.int 7) ∧
    Config.decode (.ofJson stamp) = .ok ⟨before.take 2, before.drop 2 ++ ("order.total", total) ::
      after⟩ ∧
    Path.Diverge (Path.segments "order..note") (Path.segments "order.total") ∧
    ∃ r, run stamp ctx = .ok r ∧ r.data.atPath? "order.total" = some (.int 12) := by
  intro ctx before total after
  have hsegments : Path.segments "order.total" = ["order", "total"] := by decide
  have hparts : Path.Diverge (Path.segments "order.total") (Path.segments "order.id") := by decide
  have hlater : Path.Diverge (Path.segments "order..note") (Path.segments "order.total") := by
    decide
  obtain ⟨hwrites, hruns⟩ := assignments_hold
  obtain ⟨-, -, hkept⟩ := hwrites order "order.total" (.int 0) (by decide)
  obtain ⟨haccepted, hholds⟩ := hruns stamp _ ctx rfl
  obtain ⟨r, hr⟩ := haccepted.mpr (by decide)
  refine ⟨hparts, ?_, rfl, hlater, r, hr, ?_⟩
  · refine hkept "order.id" hparts fun a items hap hne hitems => ?_
    obtain rfl | rfl | rfl : a = [] ∨ a = ["order"] ∨ a = ["order", "total"] := by
      simpa [hsegments] using (List.mem_inits a (Path.segments "order.total")).mpr hap
    · cases hitems
    · cases hitems
    · exact hne hsegments.symm
  · refine hholds r hr before "order.total" total after rfl (by decide) fun a ha _ => ?_
    obtain rfl : a = _ := List.mem_singleton.mp ha
    exact hlater

end FlowGraph.SetFields
