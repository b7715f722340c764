import FlowGraph.Workflow.Graph
import Mathlib.Data.List.Chain
import Mathlib.Data.List.Perm.Subperm
import Mathlib.Order.WellFounded

/-! # Graphs that pass the check

The check of a workflow searches for a cycle depth first. A node is finished when the search comes
back from it; by then all of its children are finished, so no way leads on from it forever. If the
search comes back from every node, the relation `Graph.ChildOf` is well-founded
(`wellFounded_of_findCycle?`), and that is what a walk needs in order to end.

* `Graph.Valid` says what a graph that passes the check is like, `valid_of_validate` that it is.
* `Valid.nodup_of_isWay`: a way along the edges meets no node twice, so that it has no more nodes
  than the graph (`Valid.length_le_of_isWay`). -/

namespace FlowGraph.Graph

/-- The relation of a child to its parent. -/
def ChildOf (g : Graph) (c p : String) : Prop := c ∈ g.children p

/-- A graph that can be walked: distinct names, no loose edge and no cycle. -/
structure Valid (g : Graph) : Prop where
  nodup : g.order.Nodup
  source_mem : ∀ e ∈ g.edges, e.source ∈ g.order
  target_mem : ∀ e ∈ g.edges, e.target ∈ g.order
  wellFounded : WellFounded g.ChildOf

variable {g : Graph}

theorem mem_children {c p : String} :
    c ∈ g.children p ↔ ∃ e ∈ g.edges, e.source = p ∧ e.target = c := by
  simp [children, and_assoc]

theorem flowChildren_subset (s : EngineSettings) (p : String) :
    g.flowChildren s p ⊆ g.children p :=
  List.filter_subset_self _

/-! ### Looking nodes up -/

theorem id_of_node? {id : String} {n : Workflow.Node} (h : g.node? id = some n) : n.id = id := by
  have := List.find?_some h
  simpa using this

theorem node?_isSome_iff {id : String} : (g.node? id).isSome ↔ id ∈ g.order := by
  simp [node?, order]

/-! ### Building -/

theorem firstRepeat?_eq_none {seen ids : List String} :
    firstRepeat? seen ids = none → ids.Nodup ∧ ∀ id ∈ ids, id ∉ seen := by
  induction ids generalizing seen with
  | nil => simp
  | cons id rest ih =>
    intro h
    unfold firstRepeat? at h
    split at h
    · cases h
    · next hseen =>
      obtain ⟨hnodup, hrest⟩ := ih h
      refine ⟨List.nodup_cons.mpr ⟨fun hm => hrest id hm (by simp), hnodup⟩, ?_⟩
      intro x hx
      rcases List.mem_cons.mp hx with rfl | hx
      · simpa using hseen
      · exact fun hs => hrest x hx (by simp [hs])

theorem danglingEnd?_eq_none {ids : List String} {e : Workflow.Edge} :
    danglingEnd? ids e = none ↔ e.source ∈ ids ∧ e.target ∈ ids := by
  unfold danglingEnd?
  by_cases h1 : e.source ∈ ids <;> by_cases h2 : e.target ∈ ids <;> simp [h1, h2]

theorem build_eq_ok {nodes : List Workflow.Node} {edges : List Workflow.Edge}
    (h : build nodes edges = .ok g) :
    g = ⟨nodes, edges⟩ ∧ g.order.Nodup ∧
      ∀ e ∈ g.edges, e.source ∈ g.order ∧ e.target ∈ g.order := by
  unfold build at h
  simp only at h
  split at h
  · cases h
  · next hrepeat =>
    split at h
    · cases h
    · next hends =>
      cases h
      refine ⟨rfl, (firstRepeat?_eq_none hrepeat).1, fun e he => ?_⟩
      exact danglingEnd?_eq_none.mp (List.findSome?_eq_none_iff.mp hends e he)

/-! ### The search -/

/-- Of the nodes visited, those off the way are finished: no way leads on from them forever. -/
def Finished (g : Graph) (way visited : List String) : Prop :=
  ∀ u ∈ visited, u ∈ way ∨ Acc g.ChildOf u

/-- What a search that comes back has done with a node. -/
def Explores (g : Graph) (way : List String) (go : List String → String → Search) (c : String) :
    Prop :=
  ∀ visited visited', g.Finished way visited → go visited c = .ok visited' →
    visited ⊆ visited' ∧ c ∈ visited' ∧ g.Finished way visited'

theorem searchChildren_ok {go : List String → String → Search} {way : List String} :
    ∀ {cs visited visited' : List String}, (∀ c ∈ cs, c ∉ way → g.Explores way go c) →
      g.Finished way visited → searchChildren go way visited cs = .ok visited' →
      visited ⊆ visited' ∧ (∀ c ∈ cs, c ∉ way ∧ c ∈ visited') ∧ g.Finished way visited'
  | [], visited, visited', _, hfin, h => by
    cases h
    exact ⟨fun _ hx => hx, by simp, hfin⟩
  | c :: rest, visited, visited', hgo, hfin, h => by
    have hrest : ∀ d ∈ rest, d ∉ way → g.Explores way go d :=
      fun d hd => hgo d (by simp [hd])
    unfold searchChildren at h
    split at h
    · cases h
    · next hway =>
      have hway' : c ∉ way := by simpa using hway
      split at h
      · next hvis =>
        have hvis' : c ∈ visited := by simpa using hvis
        obtain ⟨h1, h2, h3⟩ := searchChildren_ok hrest hfin h
        refine ⟨h1, fun d hd => ?_, h3⟩
        rcases List.mem_cons.mp hd with rfl | hd
        · exact ⟨hway', h1 hvis'⟩
        · exact h2 d hd
      · split at h
        · cases h
        · next v hv =>
          obtain ⟨e1, e2, e3⟩ := hgo c (by simp) hway' visited v hfin hv
          obtain ⟨h1, h2, h3⟩ := searchChildren_ok hrest e3 h
          refine ⟨List.Subset.trans e1 h1, fun d hd => ?_, h3⟩
          rcases List.mem_cons.mp hd with rfl | hd
          · exact ⟨hway', h1 e2⟩
          · exact h2 d hd

/-- **A search from a node that comes back** has finished the node. The fuel is enough as long as
it makes up for what the way lacks to all nodes. -/
theorem searchFrom_ok (hnodup : g.order.Nodup) (htarget : ∀ e ∈ g.edges, e.target ∈ g.order) :
    ∀ {fuel : Nat} {way : List String} {id : String}, (id :: way).Nodup → id :: way ⊆ g.order →
      g.nodes.length ≤ fuel + way.length → g.Explores way (searchFrom g fuel way) id
  | 0, way, id, hway, hsub, hfuel => by
    have hlen := (List.subperm_of_subset hway hsub).length_le
    simp only [order, List.length_cons, List.length_map] at hlen
    omega
  | fuel + 1, way, id, hway, hsub, hfuel => by
    intro visited visited' hfin h
    unfold searchFrom at h
    have hgo : ∀ c ∈ g.children id, c ∉ id :: way →
        g.Explores (id :: way) (fun v c => searchFrom g fuel (id :: way) v c) c := by
      intro c hc hnot
      obtain ⟨e, he, -, rfl⟩ := mem_children.mp hc
      refine searchFrom_ok hnodup htarget (List.nodup_cons.mpr ⟨hnot, hway⟩) ?_ ?_
      · exact List.cons_subset.mpr ⟨htarget e he, hsub⟩
      · simp only [List.length_cons]; omega
    have hfin' : g.Finished (id :: way) (id :: visited) := by
      intro u hu
      rcases List.mem_cons.mp hu with rfl | hu
      · exact Or.inl (by simp)
      · exact (hfin u hu).imp_left fun hw => by simp [hw]
    obtain ⟨h1, h2, h3⟩ := searchChildren_ok hgo hfin' h
    have hacc : Acc g.ChildOf id := Acc.intro id fun c hc =>
      (h3 c (h2 c hc).2).resolve_left (h2 c hc).1
    refine ⟨fun u hu => h1 (by simp [hu]), h1 (by simp), fun u hu => ?_⟩
    rcases h3 u hu with hu | hu
    · rcases List.mem_cons.mp hu with rfl | hu
      · exact Or.inr hacc
      · exact Or.inl hu
    · exact Or.inr hu

theorem searchAll_ok (hnodup : g.order.Nodup) (htarget : ∀ e ∈ g.edges, e.target ∈ g.order) :
    ∀ {ids visited visited' : List String}, ids ⊆ g.order → g.Finished [] visited →
      searchAll g visited ids = .ok visited' →
      visited ⊆ visited' ∧ ids ⊆ visited' ∧ g.Finished [] visited'
  | [], visited, visited', _, hfin, h => by
    cases h
    exact ⟨fun _ hx => hx, by simp, hfin⟩
  | id :: rest, visited, visited', hids, hfin, h => by
    obtain ⟨hid, hrest⟩ := List.cons_subset.mp hids
    unfold searchAll at h
    split at h
    · next hvis =>
      obtain ⟨h1, h2, h3⟩ := searchAll_ok hnodup htarget hrest hfin h
      exact ⟨h1, List.cons_subset.mpr ⟨h1 (by simpa using hvis), h2⟩, h3⟩
    · split at h
      · cases h
      · next v hv =>
        have hexp : g.Explores [] (searchFrom g g.nodes.length []) id :=
          searchFrom_ok hnodup htarget (by simp) (by simpa using hid) (by simp)
        obtain ⟨e1, e2, e3⟩ := hexp visited v hfin hv
        obtain ⟨h1, h2, h3⟩ := searchAll_ok hnodup htarget hrest e3 h
        exact ⟨List.Subset.trans e1 h1, List.cons_subset.mpr ⟨h1 e2, h2⟩, h3⟩

/-- **A search without a find** means that no way goes on forever. -/
theorem wellFounded_of_findCycle? (hnodup : g.order.Nodup)
    (hends : ∀ e ∈ g.edges, e.source ∈ g.order ∧ e.target ∈ g.order)
    (h : g.findCycle? = none) : WellFounded g.ChildOf := by
  unfold findCycle? at h
  split at h
  · cases h
  · next visited hv =>
    have hfin : g.Finished [] [] := fun u hu => absurd hu (by simp)
    obtain ⟨-, hall, hacc⟩ :=
      searchAll_ok hnodup (fun e he => (hends e he).2) (fun _ hx => hx) hfin hv
    refine ⟨fun id => Acc.intro id fun c hc => ?_⟩
    obtain ⟨e, he, -, rfl⟩ := mem_children.mp hc
    exact (hacc _ (hall (hends e he).2)).resolve_left (by simp)

/-- **What the check of a workflow settles** for the walk. -/
theorem valid_of_validate {nodes : List Workflow.Node} {edges : List Workflow.Edge}
    {s : EngineSettings} {d : Diagnostics} (h : validate nodes edges s = .ok d) :
    build nodes edges = .ok ⟨nodes, edges⟩ ∧ Valid ⟨nodes, edges⟩ ∧
      d.triggers = triggers ⟨nodes, edges⟩ s ∧ d.triggers ≠ [] := by
  unfold validate at h
  split at h
  · cases h
  · next g hg =>
    obtain ⟨rfl, hnodup, hends⟩ := build_eq_ok hg
    simp only at h
    split at h
    · cases h
    · next hsome =>
      split at h
      · cases h
      · next hcycle =>
        cases h
        refine ⟨hg, ⟨hnodup, fun e he => (hends e he).1, fun e he => (hends e he).2,
          wellFounded_of_findCycle? hnodup hends hcycle⟩, rfl, ?_⟩
        simpa using hsome

theorem mem_order_of_mem_triggers {s : EngineSettings} {id : String} (h : id ∈ g.triggers s) :
    id ∈ g.order := by
  obtain ⟨n, hn, rfl⟩ := List.mem_map.mp h
  exact List.mem_map.mpr ⟨n, (List.mem_filter.mp hn).1, rfl⟩

/-! ### Ways -/

/-- A way along the edges, the last node first. -/
structure IsWay (g : Graph) (way : List String) : Prop where
  chain : way.IsChain g.ChildOf
  declared : way ⊆ g.order

theorem isWay_singleton {id : String} (h : id ∈ g.order) : g.IsWay [id] :=
  ⟨List.isChain_singleton id, by simpa using h⟩

namespace Valid

theorem mem_order_of_mem_children (h : g.Valid) {c p : String} (hc : c ∈ g.children p) :
    c ∈ g.order := by
  obtain ⟨e, he, -, rfl⟩ := mem_children.mp hc
  exact h.target_mem e he

theorem isWay_cons (h : g.Valid) {c p : String} {way : List String} (hc : c ∈ g.children p)
    (hway : g.IsWay (p :: way)) : g.IsWay (c :: p :: way) :=
  ⟨List.isChain_cons_cons.mpr ⟨hc, hway.chain⟩,
    List.cons_subset.mpr ⟨h.mem_order_of_mem_children hc, hway.declared⟩⟩

/-- A way on from a node does not lead back to it. -/
theorem not_transGen_self (h : g.Valid) (id : String) : ¬ Relation.TransGen g.ChildOf id id :=
  h.wellFounded.transGen.irrefl.irrefl id

theorem nodup_of_isWay (h : g.Valid) {way : List String} (hway : g.IsWay way) : way.Nodup := by
  have htrans : way.IsChain (Relation.TransGen g.ChildOf) :=
    hway.chain.imp fun _ _ hc => Relation.TransGen.single hc
  refine (List.isChain_iff_pairwise.mp htrans).imp ?_
  rintro a b hab rfl
  exact h.not_transGen_self a hab

theorem length_le_of_isWay (h : g.Valid) {way : List String} (hway : g.IsWay way) :
    way.length ≤ g.nodes.length := by
  have hlen := (List.subperm_of_subset (h.nodup_of_isWay hway) hway.declared).length_le
  simpa [order] using hlen

end Valid

end FlowGraph.Graph
