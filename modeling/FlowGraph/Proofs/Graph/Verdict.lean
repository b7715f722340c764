import FlowGraph.Proofs.Graph.Part
import FlowGraph.Proofs.Text

/-! # The verdict of the check

What the check of a workflow comes to is said here without its passes over the nodes and the edges.
Four things keep a graph from running, and of those that apply the first in this order is the
verdict: a name that repeats, an edge with an end that is no node, no trigger, a cycle. The first
two tell which name it is by the order of declaration (`RepeatsFirst`, `DanglesFirst`). A sound
graph has its triggers, and its warnings name all of them if there are several, and every node
apart (`findings`).

* `Verdict`: the outcomes that nodes and edges may have. There is one, up to the choice of the node
  on a cycle (`Verdict.alike`).
* `validate_verdict`: the check comes to its verdict, and the order of the nodes and of the edges
  changes neither the kind of the verdict nor which nodes are triggers or orphans. -/

namespace FlowGraph

open FlowGraph.Graph (OnCycle)

variable {nodes nodes' : List Workflow.Node} {edges edges' : List Workflow.Edge}
  {s : EngineSettings}

/-! ### Triggers and orphans -/

/-- **A trigger**: the pattern stands somewhere in the type tag. -/
def IsTrigger (s : EngineSettings) (n : Workflow.Node) : Prop :=
  s.triggerPattern.toList <:+: n.tag.toList

instance (s : EngineSettings) : DecidablePred (IsTrigger s) := fun n =>
  inferInstanceAs (Decidable (s.triggerPattern.toList <:+: n.tag.toList))

/-- **An orphan**: no trigger, and at the end of no edge. -/
def IsOrphan (edges : List Workflow.Edge) (s : EngineSettings) (n : Workflow.Node) : Prop :=
  ¬ IsTrigger s n ∧ ∀ e ∈ edges, e.source ≠ n.id ∧ e.target ≠ n.id

instance (edges : List Workflow.Edge) (s : EngineSettings) : DecidablePred (IsOrphan edges s) :=
  fun n => inferInstanceAs
    (Decidable (¬ IsTrigger s n ∧ ∀ e ∈ edges, e.source ≠ n.id ∧ e.target ≠ n.id))

/-- Some node is a trigger. -/
def HasTrigger (nodes : List Workflow.Node) (s : EngineSettings) : Prop :=
  ∃ n ∈ nodes, IsTrigger s n

theorem isTrigger_iff {n : Workflow.Node} : s.isTrigger n.tag ↔ IsTrigger s n := Text.contains_iff

theorem touches_eq_false {id : String} :
    touches edges id = false ↔ ∀ e ∈ edges, e.source ≠ id ∧ e.target ≠ id := by
  simp [touches]

/-- The triggers in the order of their declaration. -/
def triggersOf (nodes : List Workflow.Node) (s : EngineSettings) : List String :=
  (nodes.filter (IsTrigger s ·)).map (·.id)

/-- The orphans in the order of their declaration. -/
def orphansOf (nodes : List Workflow.Node) (edges : List Workflow.Edge) (s : EngineSettings) :
    List String :=
  (nodes.filter (IsOrphan edges s ·)).map (·.id)

/-- What there is to say of a sound graph. -/
def findings (nodes : List Workflow.Node) (edges : List Workflow.Edge) (s : EngineSettings) :
    Diagnostics where
  triggers := triggersOf nodes s
  warnings :=
    (if 2 ≤ (triggersOf nodes s).length then [.multipleTriggers (triggersOf nodes s)] else []) ++
      (orphansOf nodes edges s).map .orphaned

theorem triggersOf_eq (edges : List Workflow.Edge) :
    triggersOf nodes s = Graph.triggers ⟨nodes, edges⟩ s := by
  unfold triggersOf Graph.triggers
  refine congrArg _ (List.filter_congr fun n _ => ?_)
  rw [Bool.eq_iff_iff, isTrigger_iff, decide_eq_true_iff]

theorem triggersOf_ne_nil : triggersOf nodes s ≠ [] ↔ HasTrigger nodes s := by
  simp [triggersOf, HasTrigger]

theorem findings_eq : findings nodes edges s =
    ⟨Graph.triggers ⟨nodes, edges⟩ s,
      warningsOf ⟨nodes, edges⟩ s (Graph.triggers ⟨nodes, edges⟩ s)⟩ := by
  have horphans : (nodes.filter fun n => !s.isTrigger n.tag && !touches edges n.id) =
      nodes.filter (IsOrphan edges s ·) := by
    refine List.filter_congr fun n _ => ?_
    rw [Bool.eq_iff_iff, decide_eq_true_iff, Bool.and_eq_true, Bool.not_eq_true',
      Bool.not_eq_true', touches_eq_false, ← Bool.not_eq_true, isTrigger_iff, IsOrphan]
  unfold findings warningsOf orphansOf
  rw [triggersOf_eq edges, horphans, List.map_map]
  rfl

theorem orphans_findings : (findings nodes edges s).orphans = orphansOf nodes edges s := by
  have hmany : ∀ ids : List String,
      (if 2 ≤ ids.length then [Warning.multipleTriggers ids] else []).filterMap Warning.orphan? =
        [] := by
    intro ids
    split_ifs <;> rfl
  unfold Diagnostics.orphans findings
  rw [List.filterMap_append, hmany, List.nil_append, List.filterMap_map]
  exact List.filterMap_some

/-! ### Building -/

/-- **The first name that repeats**: it is among those before it, and they are distinct. -/
def RepeatsFirst (ids : List String) (id : String) : Prop :=
  ∃ front rest, ids = front ++ id :: rest ∧ front.Nodup ∧ id ∈ front

/-- **The first end that is no node**, on the first edge that has one, and its source if neither end
is a node. -/
def DanglesFirst (ids : List String) (edges : List Workflow.Edge) (id : String) : Prop :=
  ∃ front e rest, edges = front ++ e :: rest ∧ (∀ f ∈ front, f.source ∈ ids ∧ f.target ∈ ids) ∧
    id ∉ ids ∧ (e.source = id ∨ e.source ∈ ids ∧ e.target = id)

/-- Distinct names, and no edge with an end that is no node. -/
structure Builds (nodes : List Workflow.Node) (edges : List Workflow.Edge) : Prop where
  nodup : (nodes.map (·.id)).Nodup
  ends : ∀ e ∈ edges, e.source ∈ nodes.map (·.id) ∧ e.target ∈ nodes.map (·.id)

/-- Some node is on a cycle. -/
def HasCycle (edges : List Workflow.Edge) : Prop := ∃ id, OnCycle edges id

theorem RepeatsFirst.not_nodup {ids : List String} {id : String} (h : RepeatsFirst ids id) :
    ¬ ids.Nodup := by
  obtain ⟨front, rest, rfl, -, hmem⟩ := h
  intro hnodup
  exact List.disjoint_of_nodup_append hnodup hmem List.mem_cons_self

theorem RepeatsFirst.not_builds {id : String} (h : RepeatsFirst (nodes.map (·.id)) id) :
    ¬ Builds nodes edges :=
  fun hbuilds => h.not_nodup hbuilds.nodup

theorem DanglesFirst.not_builds {id : String} (h : DanglesFirst (nodes.map (·.id)) edges id) :
    ¬ Builds nodes edges := by
  obtain ⟨front, e, rest, rfl, -, hid, hend⟩ := h
  intro hbuilds
  obtain ⟨hsource, htarget⟩ := hbuilds.ends e (by simp)
  rcases hend with rfl | ⟨-, rfl⟩
  · exact hid hsource
  · exact hid htarget

theorem firstRepeat?_eq_some {seen ids : List String} {id : String} :
    Graph.firstRepeat? seen ids = some id ↔ ∃ front rest, ids = front ++ id :: rest ∧
      front.Nodup ∧ (∀ x ∈ front, x ∉ seen) ∧ (id ∈ seen ∨ id ∈ front) := by
  induction ids generalizing seen with
  | nil => simp [Graph.firstRepeat?]
  | cons x ids ih =>
    unfold Graph.firstRepeat?
    by_cases hx : x ∈ seen
    · rw [if_pos (by simpa using hx), Option.some_inj]
      constructor
      · rintro rfl
        exact ⟨[], ids, rfl, List.nodup_nil, by simp, .inl hx⟩
      · rintro ⟨_ | ⟨y, front⟩, rest, hids, -, hfresh, -⟩
        · exact (List.cons.inj hids).1
        · obtain ⟨rfl, -⟩ := List.cons.inj hids
          exact absurd hx (hfresh _ List.mem_cons_self)
    · rw [if_neg (by simpa using hx), ih]
      constructor
      · rintro ⟨front, rest, rfl, hnodup, hfresh, hid⟩
        have hnew : x ∉ front := fun hmem => hfresh x hmem List.mem_cons_self
        refine ⟨x :: front, rest, rfl, List.nodup_cons.mpr ⟨hnew, hnodup⟩, ?_, ?_⟩
        · exact List.forall_mem_cons.mpr
            ⟨hx, fun y hy hseen => hfresh y hy (List.mem_cons_of_mem _ hseen)⟩
        · rcases hid with hid | hid
          · rcases List.mem_cons.mp hid with rfl | hid
            · exact .inr List.mem_cons_self
            · exact .inl hid
          · exact .inr (List.mem_cons_of_mem _ hid)
      · rintro ⟨_ | ⟨y, front⟩, rest, hids, hnodup, hfresh, hid⟩
        · obtain ⟨rfl, -⟩ := List.cons.inj hids
          exact absurd (hid.resolve_right List.not_mem_nil) hx
        · obtain ⟨rfl, rfl⟩ := List.cons.inj hids
          obtain ⟨hnew, hnodup⟩ := List.nodup_cons.mp hnodup
          refine ⟨front, rest, rfl, hnodup, fun z hz hseen => ?_, ?_⟩
          · rcases List.mem_cons.mp hseen with rfl | hseen
            · exact hnew hz
            · exact hfresh z (List.mem_cons_of_mem _ hz) hseen
          · rw [List.mem_cons] at hid ⊢
            tauto

theorem repeatsFirst_iff {ids : List String} {id : String} :
    Graph.firstRepeat? [] ids = some id ↔ RepeatsFirst ids id := by
  simp [firstRepeat?_eq_some, RepeatsFirst]

theorem danglingEnd?_eq_some {ids : List String} {e : Workflow.Edge} {id : String} :
    Graph.danglingEnd? ids e = some id ↔
      id ∉ ids ∧ (e.source = id ∨ e.source ∈ ids ∧ e.target = id) := by
  unfold Graph.danglingEnd?
  by_cases h1 : e.source ∈ ids <;> by_cases h2 : e.target ∈ ids <;> simp [h1, h2] <;> grind

theorem danglesFirst_iff {ids : List String} {id : String} :
    edges.findSome? (Graph.danglingEnd? ids) = some id ↔ DanglesFirst ids edges id := by
  simp only [List.findSome?_eq_some_iff, danglingEnd?_eq_some, Graph.danglingEnd?_eq_none]
  exact ⟨fun ⟨front, e, rest, hedges, hend, hfront⟩ => ⟨front, e, rest, hedges, hfront, hend⟩,
    fun ⟨front, e, rest, hedges, hfront, hend⟩ => ⟨front, e, rest, hedges, hend, hfront⟩⟩

/-! ### Verdicts -/

/-- **A verdict** on nodes and edges: what keeps them from running, the first thing in the order of
the constructors, or what there is to say of them. -/
inductive Verdict (nodes : List Workflow.Node) (edges : List Workflow.Edge)
    (s : EngineSettings) : Except StructuralError Diagnostics → Prop
  | duplicate {id : String} : RepeatsFirst (nodes.map (·.id)) id →
      Verdict nodes edges s (.error (.duplicateNode id))
  | unknown {id : String} : (nodes.map (·.id)).Nodup → DanglesFirst (nodes.map (·.id)) edges id →
      Verdict nodes edges s (.error (.unknownNode id))
  | noTrigger : Builds nodes edges → ¬ HasTrigger nodes s →
      Verdict nodes edges s (.error .noTrigger)
  | circular {id : String} : Builds nodes edges → HasTrigger nodes s →
      OnCycle edges id → Verdict nodes edges s (.error (.circularDependency id))
  | sound : Builds nodes edges → HasTrigger nodes s → ¬ HasCycle edges →
      Verdict nodes edges s (.ok (findings nodes edges s))

/-- **Verdicts of one kind**: both of one variant of the error, or both with the same triggers and
the same orphans. -/
inductive Alike : Except StructuralError Diagnostics → Except StructuralError Diagnostics → Prop
  | duplicate (id id' : String) : Alike (.error (.duplicateNode id)) (.error (.duplicateNode id'))
  | unknown (id id' : String) : Alike (.error (.unknownNode id)) (.error (.unknownNode id'))
  | noTrigger : Alike (.error .noTrigger) (.error .noTrigger)
  | circular (id id' : String) :
      Alike (.error (.circularDependency id)) (.error (.circularDependency id'))
  | sound {d d' : Diagnostics} : d.triggers.Perm d'.triggers → d.orphans.Perm d'.orphans →
      Alike (.ok d) (.ok d')

namespace Verdict

variable {v v' : Except StructuralError Diagnostics}

/-! ### Which verdict it is -/

theorem duplicate_iff (h : Verdict nodes edges s v) :
    (∃ id, v = .error (.duplicateNode id)) ↔ ¬ (nodes.map (·.id)).Nodup := by
  cases h with
  | duplicate hrepeats => simpa using hrepeats.not_nodup
  | unknown hnodup => simpa using hnodup
  | noTrigger hbuilds => simpa using hbuilds.nodup
  | circular hbuilds => simpa using hbuilds.nodup
  | sound hbuilds => simpa using hbuilds.nodup

theorem unknown_iff (h : Verdict nodes edges s v) : (∃ id, v = .error (.unknownNode id)) ↔
    (nodes.map (·.id)).Nodup ∧ ¬ Builds nodes edges := by
  cases h with
  | duplicate hrepeats => simp [hrepeats.not_nodup]
  | unknown hnodup hdangles => simpa using ⟨hnodup, hdangles.not_builds⟩
  | noTrigger hbuilds => simp [hbuilds]
  | circular hbuilds => simp [hbuilds]
  | sound hbuilds => simp [hbuilds]

theorem noTrigger_iff (h : Verdict nodes edges s v) : v = .error .noTrigger ↔
    Builds nodes edges ∧ ¬ HasTrigger nodes s := by
  cases h with
  | duplicate hrepeats => simp [hrepeats.not_builds]
  | unknown _ hdangles => simp [hdangles.not_builds]
  | noTrigger hbuilds hnone => simpa using ⟨hbuilds, hnone⟩
  | circular _ htrigger => simp [htrigger]
  | sound _ htrigger => simp [htrigger]

theorem circular_iff (h : Verdict nodes edges s v) :
    (∃ id, v = .error (.circularDependency id)) ↔
      Builds nodes edges ∧ HasTrigger nodes s ∧ HasCycle edges := by
  cases h with
  | duplicate hrepeats => simp [hrepeats.not_builds]
  | unknown _ hdangles => simp [hdangles.not_builds]
  | noTrigger _ hnone => simp [hnone]
  | circular hbuilds htrigger hcycle => simpa using ⟨hbuilds, htrigger, _, hcycle⟩
  | sound _ _ hcycle => simp [hcycle]

theorem sound_iff (h : Verdict nodes edges s v) : v = .ok (findings nodes edges s) ↔
    Builds nodes edges ∧ HasTrigger nodes s ∧ ¬ HasCycle edges := by
  cases h with
  | duplicate hrepeats => simp [hrepeats.not_builds]
  | unknown _ hdangles => simp [hdangles.not_builds]
  | noTrigger _ hnone => simp [hnone]
  | circular _ _ hcycle => simpa using fun _ _ => ⟨_, hcycle⟩
  | sound hbuilds htrigger hcycle => simpa using ⟨hbuilds, htrigger, hcycle⟩

end Verdict

/-! ### Other orders -/

section
variable (hnodes : nodes'.Perm nodes) (hedges : edges'.Perm edges)
include hnodes

theorem nodup_perm : (nodes'.map (·.id)).Nodup ↔ (nodes.map (·.id)).Nodup :=
  (hnodes.map _).nodup_iff

theorem hasTrigger_perm : HasTrigger nodes' s ↔ HasTrigger nodes s := by
  simp only [HasTrigger, hnodes.mem_iff]

theorem triggersOf_perm : (triggersOf nodes' s).Perm (triggersOf nodes s) :=
  (hnodes.filter _).map _

include hedges

theorem builds_perm : Builds nodes' edges' ↔ Builds nodes edges := by
  have hmem : ∀ id, id ∈ nodes'.map (·.id) ↔ id ∈ nodes.map (·.id) :=
    fun id => (hnodes.map _).mem_iff
  constructor
  · rintro ⟨hnodup, hends⟩
    refine ⟨(nodup_perm hnodes).mp hnodup, fun e he => ?_⟩
    simpa only [hmem] using hends e (hedges.mem_iff.mpr he)
  · rintro ⟨hnodup, hends⟩
    refine ⟨(nodup_perm hnodes).mpr hnodup, fun e he => ?_⟩
    simpa only [hmem] using hends e (hedges.mem_iff.mp he)

theorem orphansOf_perm : (orphansOf nodes' edges' s).Perm (orphansOf nodes edges s) := by
  have hsame : (nodes'.filter (IsOrphan edges' s ·)) = nodes'.filter (IsOrphan edges s ·) := by
    refine List.filter_congr fun n _ => ?_
    rw [decide_eq_decide]
    simp only [IsOrphan, hedges.mem_iff]
  unfold orphansOf
  rw [hsame]
  exact (hnodes.filter _).map _

omit hnodes in
theorem hasCycle_perm : HasCycle edges' ↔ HasCycle edges := by
  simp only [HasCycle, OnCycle, hedges.mem_iff]

/-- **There is one kind of verdict** on nodes and edges, in whatever order they are. -/
theorem Verdict.alike {v v' : Except StructuralError Diagnostics}
    (hv' : Verdict nodes' edges' s v') (hv : Verdict nodes edges s v) : Alike v' v := by
  cases hv' with
  | duplicate hrepeats =>
    obtain ⟨id, rfl⟩ := hv.duplicate_iff.mpr ((nodup_perm hnodes).not.mp hrepeats.not_nodup)
    exact .duplicate _ id
  | unknown hnodup hdangles =>
    obtain ⟨id, rfl⟩ := hv.unknown_iff.mpr
      ⟨(nodup_perm hnodes).mp hnodup, (builds_perm hnodes hedges).not.mp hdangles.not_builds⟩
    exact .unknown _ id
  | noTrigger hbuilds hnone =>
    obtain rfl := hv.noTrigger_iff.mpr
      ⟨(builds_perm hnodes hedges).mp hbuilds, (hasTrigger_perm hnodes).not.mp hnone⟩
    exact .noTrigger
  | circular hbuilds htrigger hcycle =>
    obtain ⟨id, rfl⟩ := hv.circular_iff.mpr ⟨(builds_perm hnodes hedges).mp hbuilds,
      (hasTrigger_perm hnodes).mp htrigger, (hasCycle_perm hedges).mp ⟨_, hcycle⟩⟩
    exact .circular _ id
  | sound hbuilds htrigger hcycle =>
    obtain rfl := hv.sound_iff.mpr ⟨(builds_perm hnodes hedges).mp hbuilds,
      (hasTrigger_perm hnodes).mp htrigger, (hasCycle_perm hedges).not.mp hcycle⟩
    refine .sound (triggersOf_perm hnodes) ?_
    rw [orphans_findings, orphans_findings]
    exact orphansOf_perm hnodes hedges

end

/-! ### What the check comes to -/

theorem verdict_of_build {e : StructuralError} (h : Graph.build nodes edges = .error e) :
    Verdict nodes edges s (.error e) := by
  unfold Graph.build at h
  simp only at h
  split at h
  · next hrepeat =>
    cases h
    exact .duplicate (repeatsFirst_iff.mp hrepeat)
  · next hdistinct =>
    split at h
    · next hdangling =>
      cases h
      exact .unknown (Graph.firstRepeat?_eq_none hdistinct).1 (danglesFirst_iff.mp hdangling)
    · cases h

theorem verdict_validate (nodes : List Workflow.Node) (edges : List Workflow.Edge)
    (s : EngineSettings) : Verdict nodes edges s (validate nodes edges s) := by
  unfold validate
  cases hbuild : Graph.build nodes edges with
  | error e => exact verdict_of_build hbuild
  | ok g =>
    obtain ⟨rfl, hnodup, hends⟩ := Graph.build_eq_ok hbuild
    have hbuilds : Builds nodes edges := ⟨hnodup, hends⟩
    simp only [List.isEmpty_iff]
    split_ifs with hnone
    · refine .noTrigger hbuilds (triggersOf_ne_nil.not_right.mp ?_)
      rw [triggersOf_eq edges, hnone]
    · have htrigger : HasTrigger nodes s :=
        triggersOf_ne_nil.mp (triggersOf_eq edges ▸ hnone)
      split
      · next hfound => exact .circular hbuilds htrigger (Graph.onCycle_of_findCycle? hfound)
      · next hfound =>
        have hwell := Graph.wellFounded_of_findCycle? hnodup hends hfound
        rw [← findings_eq]
        refine .sound hbuilds htrigger ?_
        rintro ⟨id, hcycle⟩
        exact Graph.not_onCycle_of_wellFounded hwell id hcycle

/-- **The verdict of the check.** It comes to what nodes and edges have as their verdict, and with
the same nodes and edges in any other order to one of the same kind. -/
theorem validate_verdict (nodes : List Workflow.Node) (edges : List Workflow.Edge)
    (s : EngineSettings) :
    Verdict nodes edges s (validate nodes edges s) ∧
      ∀ nodes' edges', nodes'.Perm nodes → edges'.Perm edges →
        Alike (validate nodes' edges' s) (validate nodes edges s) :=
  ⟨verdict_validate nodes edges s, fun nodes' edges' hnodes hedges =>
    (verdict_validate nodes' edges' s).alike hnodes hedges (verdict_validate nodes edges s)⟩

/-- Two triggers and a node apart, the edges before what they lead to. -/
def scattered : Graph where
  nodes := [{ id := "alone", tag := "set" }, { id := "call", tag := "webhook_trigger" },
    { id := "end", tag := "output" }, { id := "start", tag := "manual_trigger" }]
  edges := [⟨"call", "end"⟩, ⟨"start", "end"⟩]

theorem validate_verdict_scattered :
    let backwards : Graph := ⟨scattered.nodes.reverse, scattered.edges.reverse⟩
    backwards.nodes.Perm scattered.nodes ∧ backwards.edges.Perm scattered.edges ∧
      validate scattered.nodes scattered.edges {} =
        .ok ⟨["call", "start"], [.multipleTriggers ["call", "start"], .orphaned "alone"]⟩ ∧
      validate backwards.nodes backwards.edges {} =
        .ok ⟨["start", "call"], [.multipleTriggers ["start", "call"], .orphaned "alone"]⟩ ∧
      Alike (validate backwards.nodes backwards.edges {})
        (validate scattered.nodes scattered.edges {}) := by
  have hnodes := List.reverse_perm scattered.nodes
  have hedges := List.reverse_perm scattered.edges
  obtain ⟨-, hany⟩ := validate_verdict scattered.nodes scattered.edges {}
  exact ⟨hnodes, hedges, rfl, rfl, hany _ _ hnodes hedges⟩

end FlowGraph
