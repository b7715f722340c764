import FlowGraph.Proofs.Json.Record
import FlowGraph.Workflow.Definition

/-! # The spellings of a workflow

One workflow can be written as many JSON values: a node gives its type under `type` or `typeTag`,
what has a default may be left out, a tag that is not there may be null, other fields and the order
of all fields are of no account, and a list may give the fields by position.

* `Node.IsSpelling`, `Edge.IsSpelling` and `Workflow.IsSpelling` say which values spell what, and
  `decode_ofJson` of each that exactly these are read.
* What is written is a spelling of what was written (`Workflow.isSpelling_toJson`), so it is read
  back. This needs the values inside to have their fields in order, as all have that were read.
* `Workflow.survives_encoding` puts this together. -/

namespace FlowGraph

open Decoded (bind_eq_ok)

/-! ### The spellings of the parts -/

/-- A text is spelled as a string. -/
def IsText (j : Json) (s : String) : Prop := j = .str s

/-- A tag is spelled as a string, and as null if there is none. -/
def IsTag (j : Json) (tag : Option String) : Prop := j = .ofText? tag

/-- Any value spells itself, with its fields in order. -/
def IsAny (j v : Json) : Prop := v = j.sorted

/-- Fields of any values are spelled as an object. -/
def IsFields (j : Json) (fields : Fields Json) : Prop := j.sorted = .obj fields

/-- A list is spelled item by item. -/
def IsList {α : Type} (R : Json → α → Prop) (j : Json) (xs : List α) : Prop :=
  ∃ items, j = .arr items ∧ List.Forall₂ R items xs

theorem isFields_obj {fields : Fields Json}
    (hnames : (Fields.names fields).Pairwise (· < ·)) (h : ∀ p ∈ fields, p.2.IsOrdered) :
    IsFields (.obj fields) fields :=
  (Json.IsOrdered.obj hnames h).sorted_eq_self

theorem isList_map {α : Type} {R : Json → α → Prop} {toJson : α → Json} {xs : List α}
    (h : ∀ x ∈ xs, R (toJson x) x) : IsList R (.arr (xs.map toJson)) xs :=
  ⟨_, rfl, List.forall₂_map_left_iff.mpr (List.forall₂_same.mpr h)⟩

theorem IsList.exists_of_mem {α : Type} {R : Json → α → Prop} {j : Json} {xs : List α}
    (h : IsList R j xs) {x : α} (hx : x ∈ xs) : ∃ item, R item x := by
  obtain ⟨items, -, hitems⟩ := h
  induction hitems with
  | nil => cases hx
  | cons hR _ ih =>
    rcases List.mem_cons.mp hx with rfl | hx
    · exact ⟨_, hR⟩
    · exact ih hx

namespace Workflow

/-! ### Nodes -/

namespace Node

variable {n : Node} {fields fields' : List (String × Json)}

/-- **The fields that give a node.** -/
structure IsGivenBy (n : Node) (fields : List (String × Json)) : Prop where
  id : Gives fields ["id"] IsText (some n.id)
  tag : Gives fields ["type", "typeTag"] IsText (some n.tag)
  label : GivesOr "" fields ["label"] IsText n.label
  config : GivesOr (.obj []) fields ["config"] IsAny n.config
  branchTag : GivesOr none fields ["branchTag"] IsTag n.branchTag
  caseTag : GivesOr none fields ["caseTag"] IsTag n.caseTag

/-- The order of the fields does not matter. -/
theorem IsGivenBy.perm (h : n.IsGivenBy fields) (hperm : fields.Perm fields') :
    n.IsGivenBy fields' where
  id := h.id.perm hperm
  tag := h.tag.perm hperm
  label := h.label.perm hperm
  config := h.config.perm hperm
  branchTag := h.branchTag.perm hperm
  caseTag := h.caseTag.perm hperm

/-- **The values that spell a node.** -/
def IsSpelling (j : Json) (n : Node) : Prop :=
  ∃ fields, j.asRecord? fieldNames = some fields ∧ n.IsGivenBy fields

namespace Draft

/-- What is known of a node after the given entries. -/
def Reads (fields : List (String × Json)) (d : Draft) : Prop :=
  Gives fields ["id"] IsText d.id ∧ Gives fields ["type", "typeTag"] IsText d.tag ∧
    Gives fields ["label"] IsText d.label ∧ Gives fields ["config"] IsAny d.config ∧
    Gives fields ["branchTag"] IsTag d.branchTag ∧ Gives fields ["caseTag"] IsTag d.caseTag

theorem reads_nil (d : Draft) : d.Reads [] ↔ d = {} := by
  obtain ⟨id, tag, label, config, branchTag, caseTag⟩ := d
  simp [Reads, gives_nil]

theorem exists_iff {P : Draft → Prop} : (∃ d, P d) ↔
    ∃ id tag label config branchTag caseTag, P ⟨id, tag, label, config, branchTag, caseTag⟩ :=
  ⟨fun ⟨d, h⟩ => ⟨d.id, d.tag, d.label, d.config, d.branchTag, d.caseTag, h⟩,
    fun ⟨_, _, _, _, _, _, h⟩ => ⟨_, h⟩⟩

theorem step_of_notMem {d : Draft} {name : String} (hname : name ∉ "typeTag" :: fieldNames)
    (t : Tree) : d.step name t = Record.skip d t := by
  unfold step
  split
  case h_8 => rfl
  all_goals exact absurd (by decide) hname

/-- One more entry fills the slot of its name and leaves the others as they are. -/
theorem reads_concat (fields : List (String × Json)) (p : String × Json) (d' : Draft) :
    d'.Reads (fields ++ [p]) ↔
      ∃ d : Draft, d.Reads fields ∧ d.step p.1 (.ofJson p.2) = .ok d' := by
  obtain ⟨name, j⟩ := p
  by_cases hname : name ∈ "typeTag" :: fieldNames
  · obtain ⟨id, tag, label, config, branchTag, caseTag⟩ := d'
    simp only [fieldNames, List.mem_cons, List.not_mem_nil, or_false] at hname
    rcases hname with rfl | rfl | rfl | rfl | rfl | rfl | rfl <;>
      simp [Reads, step, exists_iff, gives_concat_of_mem, gives_concat_of_notMem, bind_eq_ok,
        Record.once_eq_ok, Tree.text_ofJson, Tree.optional_text_ofJson, IsText, IsAny, IsTag] <;>
      tauto
  · simp only [fieldNames, List.mem_cons, List.not_mem_nil, or_false, not_or] at hname
    simp [Reads, step_of_notMem, fieldNames, gives_concat_of_notMem, hname, Record.skip_ofJson]

/-- A node whose id and type are known. -/
def Makes (d : Draft) (n : Node) : Prop :=
  ∃ id, d.id = some id ∧ ∃ tag, d.tag = some tag ∧
    Node.mk id tag (d.label.getD "") (d.config.getD (.obj [])) (d.branchTag.getD none)
      (d.caseTag.getD none) = n

theorem finish_eq_ok (r : Record) (d : Draft) (n : Node) :
    (do
      let id ← r.require "id" d.id
      let tag ← r.require "type" d.tag
      r.close (Node.mk id tag (d.label.getD "") (d.config.getD (.obj [])) (d.branchTag.getD none)
        (d.caseTag.getD none))) = .ok n ↔ r.excess = none ∧ d.Makes n := by
  simp only [bind_eq_ok, Record.require_eq_ok, Record.close_eq_ok, Makes]
  constructor
  · rintro ⟨id, hid, tag, htag, hexcess, hn⟩
    exact ⟨hexcess, id, hid, tag, htag, hn⟩
  · rintro ⟨hexcess, id, hid, tag, htag, hn⟩
    exact ⟨id, hid, tag, htag, hexcess, hn⟩

end Draft

/-- **Exactly the spellings of a node are read.** -/
theorem decode_ofJson {j : Json} : decode (.ofJson j) = .ok n ↔ IsSpelling j n := by
  refine (Record.decode_ofJson_eq_ok Draft.reads_nil Draft.reads_concat (fun _ => rfl)
    Draft.finish_eq_ok).trans (exists_congr fun fields => and_congr_right' ⟨?_, ?_⟩)
  · rintro ⟨d, ⟨hid, htag, hlabel, hconfig, hbranch, hcase⟩, id, hdid, tag, hdtag, rfl⟩
    exact ⟨hdid ▸ hid, hdtag ▸ htag, ⟨_, hlabel, rfl⟩, ⟨_, hconfig, rfl⟩, ⟨_, hbranch, rfl⟩,
      ⟨_, hcase, rfl⟩⟩
  · obtain ⟨id, tag, label, config, branchTag, caseTag⟩ := n
    rintro ⟨hid, htag, ⟨label, hlabel, rfl⟩, ⟨config, hconfig, rfl⟩, ⟨branchTag, hbranch, rfl⟩,
      ⟨caseTag, hcase, rfl⟩⟩
    exact ⟨⟨some id, some tag, label, config, branchTag, caseTag⟩,
      ⟨hid, htag, hlabel, hconfig, hbranch, hcase⟩, id, rfl, tag, rfl, rfl⟩

/-- The values that are inside a node have their fields in order. -/
def IsOrdered (n : Node) : Prop := n.config.IsOrdered

/-- The fields of a node that are always written. -/
def mainPairs (n : Node) : List (String × Json) :=
  [("id", .str n.id), ("type", .str n.tag), ("label", .str n.label), ("config", n.config)]

/-- The fields of a node that are written if there is a tag. -/
def tagPairs (n : Node) : List (String × Json) :=
  tagField "branchTag" n.branchTag ++ tagField "caseTag" n.caseTag

theorem toJson_eq (n : Node) : n.toJson = .ofFields (n.mainPairs ++ n.tagPairs) := by
  rw [toJson, tagPairs, ← List.append_assoc]
  rfl

theorem nodup_names (n : Node) : (Fields.names (n.mainPairs ++ n.tagPairs)).Nodup := by
  obtain ⟨id, tag, label, config, branchTag, caseTag⟩ := n
  cases branchTag <;> cases caseTag <;> simp [mainPairs, tagPairs, tagField, Fields.names]

theorem name_of_mem_tagField {name : String} {tag : Option String} {p : String × Json}
    (hp : p ∈ tagField name tag) : p.1 = name := by
  cases tag with
  | none => cases hp
  | some s => exact List.mem_singleton.mp hp ▸ rfl

theorem isOrdered_of_mem_tagField {name : String} {tag : Option String} {p : String × Json}
    (hp : p ∈ tagField name tag) : p.2.IsOrdered := by
  cases tag with
  | none => cases hp
  | some s => exact List.mem_singleton.mp hp ▸ .str s

/-- A field that is always written is found among those that are. -/
theorem gives_of_gives_mainPairs {α : Type} {names : List String} {R : Json → α → Prop} {v : α}
    (hbranch : "branchTag" ∉ names) (hcase : "caseTag" ∉ names)
    (h : Gives n.mainPairs names R (some v)) :
    Gives (n.mainPairs ++ n.tagPairs) names R (some v) := by
  refine (gives_append_of_forall_notMem fun p hp => ?_).mpr h
  rcases List.mem_append.mp hp with hp | hp
  · rwa [name_of_mem_tagField hp]
  · rwa [name_of_mem_tagField hp]

theorem filter_tagField (name other : String) (tag : Option String) :
    (tagField name tag).filter (fun p => p.1 = other) =
      if name = other then tagField name tag else [] := by
  cases tag with
  | none => simp [tagField]
  | some s => by_cases h : name = other <;> simp [tagField, h]

/-- A tag that is there has its field, one that is not there has none. -/
theorem givesOr_of_filter_eq {name : String} {tag : Option String}
    (h : fields.filter (fun p => p.1 = name) = tagField name tag) :
    GivesOr none fields [name] IsTag tag := by
  cases tag with
  | none => exact ⟨none, by simp [Gives, h, tagField], rfl⟩
  | some s => exact ⟨some (some s), by simp [Gives, h, tagField, IsTag, Json.ofText?], rfl⟩

theorem isGivenBy_pairs (h : n.IsOrdered) : n.IsGivenBy (n.mainPairs ++ n.tagPairs) where
  id := gives_of_gives_mainPairs (by decide) (by decide) (by simp [mainPairs, Gives, IsText])
  tag := gives_of_gives_mainPairs (by decide) (by decide) (by simp [mainPairs, Gives, IsText])
  label := ⟨some n.label, gives_of_gives_mainPairs (by decide) (by decide)
    (by simp [mainPairs, Gives, IsText]), rfl⟩
  config := ⟨some n.config, gives_of_gives_mainPairs (by decide) (by decide)
    (by simp [mainPairs, Gives, IsAny, h.sorted_eq_self]), rfl⟩
  branchTag := givesOr_of_filter_eq (by simp [mainPairs, tagPairs, filter_tagField])
  caseTag := givesOr_of_filter_eq (by simp [mainPairs, tagPairs, filter_tagField])

theorem isSpelling_toJson (h : n.IsOrdered) : IsSpelling n.toJson n := by
  rw [toJson_eq]
  exact ⟨_, rfl, (isGivenBy_pairs h).perm (Fields.ofPairs_perm n.nodup_names).symm⟩

theorem isOrdered_toJson (h : n.IsOrdered) : n.toJson.IsOrdered := by
  rw [toJson_eq]
  refine Json.isOrdered_ofFields fun p hp => ?_
  rcases List.mem_append.mp hp with hp | hp
  · simp only [mainPairs, List.mem_cons, List.not_mem_nil, or_false] at hp
    rcases hp with rfl | rfl | rfl | rfl
    · exact .str _
    · exact .str _
    · exact .str _
    · exact h
  · rcases List.mem_append.mp hp with hp | hp
    · exact isOrdered_of_mem_tagField hp
    · exact isOrdered_of_mem_tagField hp

/-- The configuration of a node that was read is in order, also the one that was not given. -/
theorem IsSpelling.isOrdered {j : Json} (h : IsSpelling j n) : n.IsOrdered := by
  obtain ⟨fields, -, hn⟩ := h
  obtain ⟨slot, hslot, hconfig⟩ := hn.config
  unfold IsOrdered
  rw [← hconfig]
  cases slot with
  | none => exact .obj .nil fun _ h => absurd h List.not_mem_nil
  | some v =>
    obtain ⟨p, -, -, rfl⟩ := hslot.exists_of_some
    exact Json.isOrdered_sorted p.2

end Node

/-! ### Edges -/

namespace Edge

variable {e : Edge} {fields fields' : List (String × Json)}

/-- **The fields that give an edge.** -/
structure IsGivenBy (e : Edge) (fields : List (String × Json)) : Prop where
  source : Gives fields ["source"] IsText (some e.source)
  target : Gives fields ["target"] IsText (some e.target)

/-- The order of the fields does not matter. -/
theorem IsGivenBy.perm (h : e.IsGivenBy fields) (hperm : fields.Perm fields') :
    e.IsGivenBy fields' :=
  ⟨h.source.perm hperm, h.target.perm hperm⟩

/-- **The values that spell an edge.** -/
def IsSpelling (j : Json) (e : Edge) : Prop :=
  ∃ fields, j.asRecord? fieldNames = some fields ∧ e.IsGivenBy fields

namespace Draft

/-- What is known of an edge after the given entries. -/
def Reads (fields : List (String × Json)) (d : Draft) : Prop :=
  Gives fields ["source"] IsText d.source ∧ Gives fields ["target"] IsText d.target

theorem reads_nil (d : Draft) : d.Reads [] ↔ d = {} := by
  obtain ⟨source, target⟩ := d
  simp [Reads, gives_nil]

theorem exists_iff {P : Draft → Prop} : (∃ d, P d) ↔ ∃ source target, P ⟨source, target⟩ :=
  ⟨fun ⟨d, h⟩ => ⟨d.source, d.target, h⟩, fun ⟨_, _, h⟩ => ⟨_, h⟩⟩

theorem step_of_notMem {d : Draft} {name : String} (hname : name ∉ fieldNames) (t : Tree) :
    d.step name t = Record.skip d t := by
  unfold step
  split
  case h_3 => rfl
  all_goals exact absurd (by decide) hname

/-- One more entry fills the slot of its name and leaves the other as it is. -/
theorem reads_concat (fields : List (String × Json)) (p : String × Json) (d' : Draft) :
    d'.Reads (fields ++ [p]) ↔
      ∃ d : Draft, d.Reads fields ∧ d.step p.1 (.ofJson p.2) = .ok d' := by
  obtain ⟨name, j⟩ := p
  by_cases hname : name ∈ fieldNames
  · obtain ⟨source, target⟩ := d'
    simp only [fieldNames, List.mem_cons, List.not_mem_nil, or_false] at hname
    rcases hname with rfl | rfl <;>
      simp [Reads, step, exists_iff, gives_concat_of_mem, gives_concat_of_notMem, bind_eq_ok,
        Record.once_eq_ok, Tree.text_ofJson, IsText] <;>
      tauto
  · simp only [fieldNames, List.mem_cons, List.not_mem_nil, or_false, not_or] at hname
    simp [Reads, step_of_notMem, fieldNames, gives_concat_of_notMem, hname, Record.skip_ofJson]

/-- An edge whose ends are known. -/
def Makes (d : Draft) (e : Edge) : Prop :=
  ∃ source, d.source = some source ∧ ∃ target, d.target = some target ∧ Edge.mk source target = e

theorem finish_eq_ok (r : Record) (d : Draft) (e : Edge) :
    (do
      let source ← r.require "source" d.source
      let target ← r.require "target" d.target
      r.close (Edge.mk source target)) = .ok e ↔ r.excess = none ∧ d.Makes e := by
  simp only [bind_eq_ok, Record.require_eq_ok, Record.close_eq_ok, Makes]
  constructor
  · rintro ⟨source, hsource, target, htarget, hexcess, he⟩
    exact ⟨hexcess, source, hsource, target, htarget, he⟩
  · rintro ⟨hexcess, source, hsource, target, htarget, he⟩
    exact ⟨source, hsource, target, htarget, hexcess, he⟩

end Draft

/-- **Exactly the spellings of an edge are read.** -/
theorem decode_ofJson {j : Json} : decode (.ofJson j) = .ok e ↔ IsSpelling j e := by
  refine (Record.decode_ofJson_eq_ok Draft.reads_nil Draft.reads_concat (fun _ => rfl)
    Draft.finish_eq_ok).trans (exists_congr fun fields => and_congr_right' ⟨?_, ?_⟩)
  · rintro ⟨d, ⟨hsource, htarget⟩, source, hdsource, target, hdtarget, rfl⟩
    exact ⟨hdsource ▸ hsource, hdtarget ▸ htarget⟩
  · rintro ⟨hsource, htarget⟩
    exact ⟨⟨some e.source, some e.target⟩, ⟨hsource, htarget⟩, _, rfl, _, rfl, rfl⟩

theorem isSpelling_toJson (e : Edge) : IsSpelling e.toJson e := by
  have hgiven : e.IsGivenBy [("source", .str e.source), ("target", .str e.target)] :=
    ⟨by simp [Gives, IsText], by simp [Gives, IsText]⟩
  exact ⟨_, rfl, hgiven.perm (Fields.ofPairs_perm (by simp [Fields.names])).symm⟩

theorem isOrdered_toJson (e : Edge) : e.toJson.IsOrdered := by
  refine Json.isOrdered_ofFields fun p hp => ?_
  simp only [List.mem_cons, List.not_mem_nil, or_false] at hp
  rcases hp with rfl | rfl
  · exact .str _
  · exact .str _

end Edge

/-! ### Definitions -/

variable {w : Workflow} {fields fields' : List (String × Json)}

/-- **The fields that give a definition.** -/
structure IsGivenBy (w : Workflow) (fields : List (String × Json)) : Prop where
  name : GivesOr "" fields ["name"] IsText w.name
  description : GivesOr "" fields ["description"] IsText w.description
  vars : GivesOr [] fields ["variables"] IsFields w.vars
  nodes : Gives fields ["nodes"] (IsList Node.IsSpelling) (some w.nodes)
  edges : GivesOr [] fields ["edges"] (IsList Edge.IsSpelling) w.edges

/-- The order of the fields does not matter. -/
theorem IsGivenBy.perm (h : w.IsGivenBy fields) (hperm : fields.Perm fields') :
    w.IsGivenBy fields' where
  name := h.name.perm hperm
  description := h.description.perm hperm
  vars := h.vars.perm hperm
  nodes := h.nodes.perm hperm
  edges := h.edges.perm hperm

/-- **The values that spell a definition.** -/
def IsSpelling (j : Json) (w : Workflow) : Prop :=
  ∃ fields, j.asRecord? fieldNames = some fields ∧ w.IsGivenBy fields

namespace Draft

/-- What is known of a definition after the given entries. -/
def Reads (fields : List (String × Json)) (d : Draft) : Prop :=
  Gives fields ["name"] IsText d.name ∧ Gives fields ["description"] IsText d.description ∧
    Gives fields ["variables"] IsFields d.vars ∧
    Gives fields ["nodes"] (IsList Node.IsSpelling) d.nodes ∧
    Gives fields ["edges"] (IsList Edge.IsSpelling) d.edges

theorem reads_nil (d : Draft) : d.Reads [] ↔ d = {} := by
  obtain ⟨name, description, vars, nodes, edges⟩ := d
  simp [Reads, gives_nil]

theorem exists_iff {P : Draft → Prop} : (∃ d, P d) ↔
    ∃ name description vars nodes edges, P ⟨name, description, vars, nodes, edges⟩ :=
  ⟨fun ⟨d, h⟩ => ⟨d.name, d.description, d.vars, d.nodes, d.edges, h⟩,
    fun ⟨_, _, _, _, _, h⟩ => ⟨_, h⟩⟩

theorem step_of_notMem {d : Draft} {name : String} (hname : name ∉ fieldNames) (t : Tree) :
    d.step name t = Record.skip d t := by
  unfold step
  split
  case h_6 => rfl
  all_goals exact absurd (by decide) hname

/-- One more entry fills the slot of its name and leaves the others as they are. -/
theorem reads_concat (fields : List (String × Json)) (p : String × Json) (d' : Draft) :
    d'.Reads (fields ++ [p]) ↔
      ∃ d : Draft, d.Reads fields ∧ d.step p.1 (.ofJson p.2) = .ok d' := by
  obtain ⟨name, j⟩ := p
  by_cases hname : name ∈ fieldNames
  · obtain ⟨name, description, vars, nodes, edges⟩ := d'
    simp only [fieldNames, List.mem_cons, List.not_mem_nil, or_false] at hname
    rcases hname with rfl | rfl | rfl | rfl | rfl <;>
      simp [Reads, step, exists_iff, gives_concat_of_mem, gives_concat_of_notMem, bind_eq_ok,
        Record.once_eq_ok, Tree.text_ofJson, Tree.entriesOf_ofJson, Tree.items_ofJson, IsText,
        IsFields, IsList, Node.decode_ofJson, Edge.decode_ofJson] <;>
      tauto
  · simp only [fieldNames, List.mem_cons, List.not_mem_nil, or_false, not_or] at hname
    simp [Reads, step_of_notMem, fieldNames, gives_concat_of_notMem, hname, Record.skip_ofJson]

/-- A definition whose nodes are known. -/
def Makes (d : Draft) (w : Workflow) : Prop :=
  ∃ nodes, d.nodes = some nodes ∧ Workflow.mk (d.name.getD "") (d.description.getD "")
    (d.vars.getD []) nodes (d.edges.getD []) = w

theorem finish_eq_ok (r : Record) (d : Draft) (w : Workflow) :
    (do
      let nodes ← r.require "nodes" d.nodes
      r.close (Workflow.mk (d.name.getD "") (d.description.getD "") (d.vars.getD []) nodes
        (d.edges.getD []))) = .ok w ↔ r.excess = none ∧ d.Makes w := by
  simp only [bind_eq_ok, Record.require_eq_ok, Record.close_eq_ok, Makes]
  constructor
  · rintro ⟨nodes, hnodes, hexcess, hw⟩
    exact ⟨hexcess, nodes, hnodes, hw⟩
  · rintro ⟨hexcess, nodes, hnodes, hw⟩
    exact ⟨nodes, hnodes, hexcess, hw⟩

end Draft

/-- **Exactly the spellings of a definition are read.** -/
theorem decode_ofJson {j : Json} : decode (.ofJson j) = .ok w ↔ IsSpelling j w := by
  refine (Record.decode_ofJson_eq_ok Draft.reads_nil Draft.reads_concat (fun _ => rfl)
    Draft.finish_eq_ok).trans (exists_congr fun fields => and_congr_right' ⟨?_, ?_⟩)
  · rintro ⟨d, ⟨hname, hdescription, hvars, hnodes, hedges⟩, nodes, hdnodes, rfl⟩
    exact ⟨⟨_, hname, rfl⟩, ⟨_, hdescription, rfl⟩, ⟨_, hvars, rfl⟩, hdnodes ▸ hnodes,
      ⟨_, hedges, rfl⟩⟩
  · obtain ⟨name, description, vars, nodes, edges⟩ := w
    rintro ⟨⟨name, hname, rfl⟩, ⟨description, hdescription, rfl⟩, ⟨vars, hvars, rfl⟩, hnodes,
      ⟨edges, hedges, rfl⟩⟩
    exact ⟨⟨name, description, vars, some nodes, edges⟩,
      ⟨hname, hdescription, hvars, hnodes, hedges⟩, nodes, rfl, rfl⟩

/-- **The values that are inside a definition have their fields in order**: the variables and the
configurations of the nodes. -/
structure IsOrdered (w : Workflow) : Prop where
  names : (Fields.names w.vars).Pairwise (· < ·)
  vars : ∀ p ∈ w.vars, p.2.IsOrdered
  nodes : ∀ n ∈ w.nodes, n.IsOrdered

theorem isGivenBy_pairs (h : w.IsOrdered) : w.IsGivenBy [
    ("name", .str w.name), ("description", .str w.description), ("variables", .obj w.vars),
    ("nodes", .arr (w.nodes.map Node.toJson)), ("edges", .arr (w.edges.map Edge.toJson))] where
  name := ⟨some w.name, by simp [Gives, IsText], rfl⟩
  description := ⟨some w.description, by simp [Gives, IsText], rfl⟩
  vars := ⟨some w.vars, by simp [Gives, isFields_obj h.names h.vars], rfl⟩
  nodes := by
    have hnodes := isList_map fun n hn => Node.isSpelling_toJson (h.nodes n hn)
    simp [Gives, hnodes]
  edges := by
    have hedges := isList_map fun e (_ : e ∈ w.edges) => e.isSpelling_toJson
    exact ⟨some w.edges, by simp [Gives, hedges], rfl⟩

/-- **What is written is a spelling** of what was written. -/
theorem isSpelling_toJson (h : w.IsOrdered) : IsSpelling w.toJson w :=
  ⟨_, rfl, (isGivenBy_pairs h).perm (Fields.ofPairs_perm (by simp [Fields.names])).symm⟩

theorem isOrdered_toJson (h : w.IsOrdered) : w.toJson.IsOrdered := by
  refine Json.isOrdered_ofFields fun p hp => ?_
  simp only [List.mem_cons, List.not_mem_nil, or_false] at hp
  rcases hp with rfl | rfl | rfl | rfl | rfl
  · exact .str _
  · exact .str _
  · exact .obj h.names h.vars
  · refine .arr fun j hj => ?_
    obtain ⟨n, hn, rfl⟩ := List.mem_map.mp hj
    exact Node.isOrdered_toJson (h.nodes n hn)
  · refine .arr fun j hj => ?_
    obtain ⟨e, -, rfl⟩ := List.mem_map.mp hj
    exact e.isOrdered_toJson

/-- What was read has its values in order, whatever order their fields stood in. -/
theorem IsSpelling.isOrdered {j : Json} (h : IsSpelling j w) : w.IsOrdered := by
  obtain ⟨fields, -, hw⟩ := h
  have hvars : (Json.obj w.vars).IsOrdered := by
    obtain ⟨slot, hslot, hvars⟩ := hw.vars
    rw [← hvars]
    cases slot with
    | none => exact .obj .nil fun _ h => absurd h List.not_mem_nil
    | some vars =>
      obtain ⟨p, -, -, hp⟩ := hslot.exists_of_some
      exact hp ▸ Json.isOrdered_sorted p.2
  cases hvars with
  | obj hnames hvars =>
    refine ⟨hnames, hvars, fun n hn => ?_⟩
    obtain ⟨p, -, -, hnodes⟩ := hw.nodes.exists_of_some
    obtain ⟨item, hitem⟩ := hnodes.exists_of_mem hn
    exact hitem.isOrdered

/-- **Definitions survive their encoding.** A definition is written as a JSON value that is read as
the same definition again. Exactly the spellings of a definition, and of a node, are read as it; so
whatever value was read, with an alias, with fields left out, null or unknown, and in any order, what
is written for it is read as the same and is written the same again. -/
theorem survives_encoding :
    (∀ w : Workflow, w.IsOrdered → w.toJson.IsOrdered ∧ decode (.ofJson w.toJson) = .ok w) ∧
    (∀ (j : Json) (w : Workflow), decode (.ofJson j) = .ok w ↔ IsSpelling j w) ∧
    (∀ (j : Json) (w : Workflow), decode (.ofJson j) = .ok w →
      decode (.ofJson w.toJson) = .ok w ∧
        (decode (.ofJson w.toJson)).map toJson = .ok w.toJson) ∧
    (∀ (j : Json) (n : Node), Node.decode (.ofJson j) = .ok n ↔ Node.IsSpelling j n) ∧
    ∀ (j : Json) (n : Node), Node.decode (.ofJson j) = .ok n →
      Node.decode (.ofJson n.toJson) = .ok n ∧
        (Node.decode (.ofJson n.toJson)).map Node.toJson = .ok n.toJson := by
  have hwritten : ∀ w : Workflow, w.IsOrdered → decode (.ofJson w.toJson) = .ok w :=
    fun _ h => decode_ofJson.mpr (isSpelling_toJson h)
  have hnode : ∀ n : Node, n.IsOrdered → Node.decode (.ofJson n.toJson) = .ok n :=
    fun _ h => Node.decode_ofJson.mpr (Node.isSpelling_toJson h)
  refine ⟨fun w h => ⟨isOrdered_toJson h, hwritten w h⟩, fun _ _ => decode_ofJson, fun j w hw => ?_,
    fun _ _ => Node.decode_ofJson, fun j n hn => ?_⟩
  · have h := hwritten w (decode_ofJson.mp hw).isOrdered
    exact ⟨h, by rw [h]; rfl⟩
  · have h := hnode n (Node.decode_ofJson.mp hn).isOrdered
    exact ⟨h, by rw [h]; rfl⟩

/-- A node as a person may write it. -/
def handwrittenNode : Json := .obj [
  ("typeTag", .str "switch"), ("id", .str "colour"), ("config", .null), ("branchTag", .null),
  ("position", .obj [("y", .int 4), ("x", .int 2)])]

/-- A definition with it. -/
def handwritten : Json := .obj [
  ("nodes", .arr [handwrittenNode,
    .obj [("id", .str "red"), ("type", .str "set"), ("caseTag", .str "red")]]),
  ("variables", .obj [("seen", .null), ("limits", .obj [("max", .int 9), ("min", .int 1)])]),
  ("edges", .arr [.arr [.str "colour", .str "red"]])]

/-- What a person wrote is read; it is written another way, and that is read again. -/
theorem survives_encoding_handwritten :
    let n : Node := ⟨"colour", "switch", "", .null, none, none⟩
    let w : Workflow := {
      vars := [("limits", .obj [("max", .int 9), ("min", .int 1)]), ("seen", .null)]
      nodes := [n, ⟨"red", "set", "", .obj [], none, some "red"⟩]
      edges := [⟨"colour", "red"⟩] }
    Node.decode (.ofJson handwrittenNode) = .ok n ∧ Node.decode (.ofJson n.toJson) = .ok n ∧
      decode (.ofJson handwritten) = .ok w ∧ w.IsOrdered ∧ decode (.ofJson w.toJson) = .ok w ∧
      (decode (.ofJson w.toJson)).map toJson = .ok w.toJson := by
  intro n w
  have hn : Node.decode (.ofJson handwrittenNode) = .ok n := by rfl
  have hw : decode (.ofJson handwritten) = .ok w := by rfl
  have hordered : w.IsOrdered := (decode_ofJson.mp hw).isOrdered
  obtain ⟨hwritten, -, hread, -, hreadNode⟩ := survives_encoding
  exact ⟨hn, (hreadNode handwrittenNode n hn).1, hw, hordered, (hwritten w hordered).2,
    (hread handwritten w hw).2⟩

end Workflow

end FlowGraph
