import FlowGraph.Proofs.Text
import FlowGraph.Template

/-! # What references refer to

`Scope.Refers` lists the forms of a reference, each with the value it stands for, and `Scope.lookup`
finds exactly these values (`lookup_eq_some`). In a text a reference shows as the text of its value,
or as nothing if there is none (`Scope.Shows`). -/

namespace FlowGraph.Scope

/-- **What a reference refers to.** After the name of a node the word `output` is passed over, so it
gives no field of the result of the node. -/
inductive Refers (scope : Scope) : List Char → Json → Prop where
  | input : Refers scope "input".toList scope.input
  | inputPath {path v} (hv : scope.input.atPath? (String.ofList path) = some v) :
    Refers scope ("input.".toList ++ path) v
  | varsPath {path v} (hv : scope.vars.atPath? (String.ofList path) = some v) :
    Refers scope ("variables.".toList ++ path) v
  | node {id o} (hid : '.' ∉ id) (ho : Fields.get? scope.outputs (String.ofList id) = some o) :
    Refers scope ("nodes.".toList ++ id) o
  | nodeOutput {id o} (hid : '.' ∉ id)
    (ho : Fields.get? scope.outputs (String.ofList id) = some o) :
    Refers scope ("nodes.".toList ++ (id ++ '.' :: "output".toList)) o
  | nodeOutputPath {id path o v} (hid : '.' ∉ id)
    (ho : Fields.get? scope.outputs (String.ofList id) = some o)
    (hv : o.atPath? (String.ofList path) = some v) :
    Refers scope ("nodes.".toList ++ (id ++ '.' :: ("output.".toList ++ path))) v
  | nodePath {id path o v} (hid : '.' ∉ id)
    (ho : Fields.get? scope.outputs (String.ofList id) = some o)
    (hword : path ≠ "output".toList) (hpath : ¬ "output.".toList <+: path)
    (hv : o.atPath? (String.ofList path) = some v) :
    Refers scope ("nodes.".toList ++ (id ++ '.' :: path)) v

/-- **What a reference shows as** in a text: its blanks do not matter. -/
inductive Shows (scope : Scope) (reference : List Char) : List Char → Prop where
  | value {v} (h : scope.Refers (Text.trimChars reference) v) :
    Shows scope reference v.text.toList
  | nothing (h : ∀ v, ¬ scope.Refers (Text.trimChars reference) v) : Shows scope reference []

variable {scope : Scope} {cs id path : List Char} {o v : Json}

/-! ### The path below the result of a node -/

theorem outputPath_append (path : List Char) :
    outputPath (String.ofList ("output.".toList ++ path)) = String.ofList path := by
  have hne : String.ofList ("output.".toList ++ path) ≠ "output" := by
    intro h
    have hlength := congrArg (·.toList.length) h
    simp at hlength
  rw [outputPath, if_neg hne, String.toList_ofList, Text.dropStart?_eq_some.mpr rfl]

theorem outputPath_of_ne (hword : path ≠ "output".toList) (hpath : ¬ "output.".toList <+: path) :
    outputPath (String.ofList path) = String.ofList path := by
  have hne : String.ofList path ≠ "output" := by
    rintro h
    exact hword (by rw [← h, String.toList_ofList])
  have hnone : Text.dropStart? path "output.".toList = none := by
    rw [← Option.not_isSome_iff_eq_none, Text.isSome_dropStart?]
    exact hpath
  rw [outputPath, if_neg hne, String.toList_ofList, hnone]

theorem lookupNode_id (scope : Scope) (h : '.' ∉ id) :
    scope.lookupNode id = Fields.get? scope.outputs (String.ofList id) := by
  unfold lookupNode
  rw [Text.splitFirst_of_notMem h]
  -- the path is empty and leads to the result itself
  exact Option.bind_fun_some _

theorem lookupNode_path (scope : Scope) (h : '.' ∉ id) (path : List Char) :
    scope.lookupNode (id ++ '.' :: path) =
      (Fields.get? scope.outputs (String.ofList id)).bind fun o =>
        o.atPath? (outputPath (String.ofList path)) := by
  unfold lookupNode
  rw [Text.splitFirst_append h]
  rfl

/-! ### Looking up -/

theorem lookup_input (h : Text.trimChars cs = "input".toList) :
    scope.lookup cs = some scope.input := by
  simp [lookup, h]

theorem lookup_inputPath (h : Text.trimChars cs = "input.".toList ++ path) :
    scope.lookup cs = scope.input.atPath? (String.ofList path) := by
  simp [lookup, h, Text.dropStart?]

theorem lookup_varsPath (h : Text.trimChars cs = "variables.".toList ++ path) :
    scope.lookup cs = scope.vars.atPath? (String.ofList path) := by
  simp [lookup, h, Text.dropStart?]

theorem lookup_nodes {rest : List Char} (h : Text.trimChars cs = "nodes.".toList ++ rest) :
    scope.lookup cs = scope.lookupNode rest := by
  simp [lookup, h, Text.dropStart?]

theorem lookup_nodePath (hid : '.' ∉ id)
    (h : Text.trimChars cs = "nodes.".toList ++ (id ++ '.' :: path)) :
    scope.lookup cs = (Fields.get? scope.outputs (String.ofList id)).bind fun o =>
      o.atPath? (outputPath (String.ofList path)) :=
  (lookup_nodes h).trans (lookupNode_path scope hid path)

theorem Refers.lookup (h : scope.Refers (Text.trimChars cs) v) : scope.lookup cs = some v := by
  generalize hcs : Text.trimChars cs = reference at h
  cases h with
  | input => exact lookup_input hcs
  | inputPath hv => exact (lookup_inputPath hcs).trans hv
  | varsPath hv => exact (lookup_varsPath hcs).trans hv
  | node hid ho => exact (lookup_nodes hcs).trans ((lookupNode_id scope hid).trans ho)
  | nodeOutput hid ho =>
    rw [lookup_nodePath hid hcs, ho]
    rfl
  | nodeOutputPath hid ho hv => rw [lookup_nodePath hid hcs, ho, outputPath_append, ← hv]; rfl
  | nodePath hid ho hword hpath hv =>
    rw [lookup_nodePath hid hcs, ho, outputPath_of_ne hword hpath, ← hv]
    rfl

theorem refers_of_lookupNode {rest : List Char} (h : scope.lookupNode rest = some v) :
    scope.Refers ("nodes.".toList ++ rest) v := by
  by_cases hdot : '.' ∈ rest
  · obtain ⟨id, path, rfl, hid⟩ := List.eq_append_cons_of_mem hdot
    rw [lookupNode_path scope hid] at h
    obtain ⟨o, ho, hv⟩ := Option.bind_eq_some_iff.mp h
    by_cases hword : path = "output".toList
    · subst hword
      cases hv
      exact .nodeOutput hid ho
    · by_cases hpath : "output.".toList <+: path
      · obtain ⟨below, rfl⟩ := hpath
        rw [outputPath_append] at hv
        exact .nodeOutputPath hid ho hv
      · rw [outputPath_of_ne hword hpath] at hv
        exact .nodePath hid ho hword hpath hv
  · rw [lookupNode_id scope hdot] at h
    exact .node hdot h

/-- **What is looked up** is what the reference, without the blanks around it, refers to. -/
theorem lookup_eq_some : scope.lookup cs = some v ↔ scope.Refers (Text.trimChars cs) v := by
  refine ⟨fun h => ?_, Refers.lookup⟩
  unfold lookup at h
  simp only at h
  split at h
  · rename_i hinput
    cases h
    exact hinput ▸ .input
  · split at h
    · rename_i path hpath
      rw [Text.dropStart?_eq_some.mp hpath]
      exact .inputPath h
    · split at h
      · rename_i path hpath
        rw [Text.dropStart?_eq_some.mp hpath]
        exact .varsPath h
      · split at h
        · rename_i rest hrest
          rw [Text.dropStart?_eq_some.mp hrest]
          exact refers_of_lookupNode h
        · cases h

theorem shows_iff {text : List Char} :
    scope.Shows cs text ↔ text = Template.referenceText scope cs := by
  unfold Template.referenceText
  constructor
  · rintro (⟨h⟩ | ⟨h⟩)
    · rw [h.lookup]
    · have hnone : scope.lookup cs = none :=
        Option.eq_none_iff_forall_ne_some.mpr fun v hv => h v (lookup_eq_some.mp hv)
      rw [hnone]
  · rintro rfl
    cases h : scope.lookup cs with
    | none => exact .nothing fun v hv => by cases h.symm.trans hv.lookup
    | some v => exact .value (lookup_eq_some.mp h)

end FlowGraph.Scope
