import FlowGraph.Proofs.Graph.Cycle
import Mathlib.Data.List.Nodup

/-! # Parts of a graph

A walk from a node goes along the edges, so all of a graph that matters to it is what the edges lead
to from there (`Reaches`), and of the edges only the order among those with one source. A part of a
graph may lack any other nodes, and it may have what is left in another order (`IsPart`).

* `IsPart.agrees`: on everything that is reached, a part and the graph look up the same nodes and
  the same children.
* `IsPart.valid`: a part of a valid graph is valid, and `validate_of_valid` says that a valid graph
  with a trigger passes the check. -/

namespace FlowGraph.Graph

variable {g g' : Graph} {start : String}

/-! ### What is reached -/

/-- The edges lead from a node to another, or it is the same. -/
def Reaches (g : Graph) (start id : String) : Prop := Relation.ReflTransGen g.ChildOf id start

theorem Reaches.refl (g : Graph) (start : String) : g.Reaches start start :=
  Relation.ReflTransGen.refl

theorem Reaches.child {p c : String} (h : g.Reaches start p) (hc : c ∈ g.children p) :
    g.Reaches start c :=
  .head hc h

/-- Nodes that have all their children among them have all that is reached from one of them. -/
theorem Reaches.mem_of_closed {ids : List String} (hstart : start ∈ ids)
    (hclosed : ∀ p ∈ ids, ∀ c ∈ g.children p, c ∈ ids) {id : String} (h : g.Reaches start id) :
    id ∈ ids := by
  induction h using Relation.ReflTransGen.head_induction_on with
  | refl => exact hstart
  | head hc _ ih => exact hclosed _ ih _ hc

/-- **Two graphs agree from a node on** if they look up the same there, and everywhere the edges of
the second lead from there. -/
structure Agrees (g' g : Graph) (start : String) : Prop where
  node? : ∀ id, g.Reaches start id → g'.node? id = g.node? id
  children : ∀ id, g.Reaches start id → g'.children id = g.children id

namespace Agrees

variable {id : String}

theorem isErrorHandler (h : Agrees g' g start) (hid : g.Reaches start id) (s : EngineSettings) :
    g'.isErrorHandler s id = g.isErrorHandler s id := by
  unfold Graph.isErrorHandler
  rw [h.node? id hid]

theorem flowChildren (h : Agrees g' g start) (hid : g.Reaches start id) (s : EngineSettings) :
    g'.flowChildren s id = g.flowChildren s id := by
  unfold Graph.flowChildren
  rw [h.children id hid]
  refine List.filter_congr fun c hc => ?_
  rw [h.node? c (hid.child hc)]

end Agrees

/-! ### Parts -/

/-- Whether an edge is between nodes that stay. -/
def keeps (gone : String → Bool) (e : Workflow.Edge) : Bool := !gone e.source && !gone e.target

/-- **A part of a graph**, seen from a node: nodes that are not reached from it may be gone, with
their edges, and all else may come in another order, but for edges with the same source. -/
structure IsPart (g' g : Graph) (start : String) (gone : String → Bool) : Prop where
  unreached : ∀ id, gone id → ¬ g.Reaches start id
  nodes : g'.nodes.Perm (g.nodes.filter fun n => !gone n.id)
  edges : g'.edges.Perm (g.edges.filter (keeps gone))
  order : ∀ id, g'.edges.filter (fun e => e.source == id) =
    (g.edges.filter (keeps gone)).filter fun e => e.source == id

theorem node?_eq_some (hnodup : g.order.Nodup) {id : String} {n : Workflow.Node} :
    g.node? id = some n ↔ n ∈ g.nodes ∧ n.id = id := by
  refine ⟨fun h => ⟨List.mem_of_find?_eq_some h, id_of_node? h⟩, ?_⟩
  rintro ⟨hn, rfl⟩
  obtain ⟨n', hn'⟩ := Option.isSome_iff_exists.mp
    (node?_isSome_iff.mpr (List.mem_map_of_mem hn))
  have hsame : n' = n := List.inj_on_of_nodup_map hnodup (List.mem_of_find?_eq_some hn') hn
    (id_of_node? hn')
  rw [hn', hsame]

namespace IsPart

variable {gone : String → Bool} (h : IsPart g' g start gone)
include h

theorem stays {id : String} (hid : g.Reaches start id) : gone id = false :=
  Bool.eq_false_iff.mpr fun hgone => h.unreached id hgone hid

theorem mem_nodes {n : Workflow.Node} : n ∈ g'.nodes ↔ n ∈ g.nodes ∧ gone n.id = false := by
  rw [h.nodes.mem_iff, List.mem_filter, Bool.not_eq_true']

theorem mem_order {id : String} : id ∈ g'.order ↔ id ∈ g.order ∧ gone id = false := by
  simp only [Graph.order, List.mem_map, h.mem_nodes]
  constructor
  · rintro ⟨n, ⟨hn, hgone⟩, rfl⟩
    exact ⟨⟨n, hn, rfl⟩, hgone⟩
  · rintro ⟨⟨n, hn, rfl⟩, hgone⟩
    exact ⟨n, ⟨hn, hgone⟩, rfl⟩

theorem mem_edges {e : Workflow.Edge} :
    e ∈ g'.edges ↔ e ∈ g.edges ∧ gone e.source = false ∧ gone e.target = false := by
  rw [h.edges.mem_iff, List.mem_filter, keeps, Bool.and_eq_true, Bool.not_eq_true',
    Bool.not_eq_true']

theorem length_le : g'.nodes.length ≤ g.nodes.length :=
  h.nodes.length_eq ▸ List.length_filter_le _ _

theorem nodup (hnodup : g.order.Nodup) : g'.order.Nodup := by
  have hperm : g'.order.Perm ((g.nodes.filter fun n => !gone n.id).map (·.id)) := h.nodes.map _
  exact hperm.nodup_iff.mpr (hnodup.sublist (List.filter_sublist.map _))

/-- **A part of a valid graph is valid.** -/
theorem valid (hg : g.Valid) : g'.Valid where
  nodup := h.nodup hg.nodup
  source_mem e he := by
    obtain ⟨he, hsource, -⟩ := h.mem_edges.mp he
    exact h.mem_order.mpr ⟨hg.source_mem e he, hsource⟩
  target_mem e he := by
    obtain ⟨he, -, htarget⟩ := h.mem_edges.mp he
    exact h.mem_order.mpr ⟨hg.target_mem e he, htarget⟩
  wellFounded := by
    have hsub : Subrelation g'.ChildOf g.ChildOf := fun hc =>
      childOf_iff.mpr (h.mem_edges.mp (childOf_iff.mp hc)).1
    exact hsub.wf hg.wellFounded

/-- **A part and the graph agree** on all that is reached. -/
theorem agrees (hg : g.Valid) : Agrees g' g start where
  node? id hid := by
    refine Option.ext fun n => ?_
    rw [node?_eq_some (h.nodup hg.nodup), node?_eq_some hg.nodup, h.mem_nodes]
    constructor
    · rintro ⟨⟨hn, -⟩, rfl⟩
      exact ⟨hn, rfl⟩
    · rintro ⟨hn, rfl⟩
      exact ⟨⟨hn, h.stays hid⟩, rfl⟩
  children id hid := by
    -- the children of a node that is reached are reached, so none of its edges is gone
    have hall : (g.edges.filter (keeps gone)).filter (fun e => e.source == id) =
        g.edges.filter fun e => e.source == id := by
      rw [List.filter_filter]
      refine List.filter_congr fun e he => ?_
      cases hsource : e.source == id with
      | false => rfl
      | true =>
        have hid' : e.source = id := by simpa using hsource
        have htarget : g.Reaches start e.target :=
          hid.child (mem_children.mpr ⟨e, he, hid', rfl⟩)
        simp [keeps, hid', h.stays hid, h.stays htarget]
    unfold Graph.children
    rw [h.order id, hall]

end IsPart

/-! ### Passing the check -/

theorem firstRepeat?_of_nodup {seen ids : List String} (hnodup : ids.Nodup)
    (hseen : ∀ id ∈ ids, id ∉ seen) : firstRepeat? seen ids = none := by
  induction ids generalizing seen with
  | nil => rfl
  | cons id rest ih =>
    obtain ⟨hid, hrest⟩ := List.nodup_cons.mp hnodup
    unfold firstRepeat?
    rw [if_neg (by simpa using hseen id List.mem_cons_self)]
    refine ih hrest fun x hx hmem => ?_
    rcases List.mem_cons.mp hmem with rfl | hmem
    · exact hid hx
    · exact hseen x (List.mem_cons_of_mem _ hx) hmem

theorem Valid.build (hg : g.Valid) : Graph.build g.nodes g.edges = .ok g := by
  have hrepeat : firstRepeat? [] g.order = none := firstRepeat?_of_nodup hg.nodup (by simp)
  have hends : g.edges.findSome? (danglingEnd? g.order) = none :=
    List.findSome?_eq_none_iff.mpr fun e he =>
      danglingEnd?_eq_none.mpr ⟨hg.source_mem e he, hg.target_mem e he⟩
  unfold Graph.build
  simp only [show g.nodes.map (·.id) = g.order from rfl, hrepeat, hends]

theorem Valid.findCycle?_eq_none (hg : g.Valid) : g.findCycle? = none := by
  rw [Option.eq_none_iff_forall_ne_some]
  exact fun id hid => not_onCycle_of_wellFounded hg.wellFounded id (onCycle_of_findCycle? hid)

/-- **A valid graph with a trigger passes the check.** -/
theorem validate_of_valid (hg : g.Valid) {s : EngineSettings} (ht : g.triggers s ≠ []) :
    ∃ d, validate g.nodes g.edges s = .ok d := by
  unfold validate
  simp [hg.build, hg.findCycle?_eq_none, ht]

end FlowGraph.Graph
