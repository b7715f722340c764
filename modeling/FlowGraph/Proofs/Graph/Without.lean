import FlowGraph.Proofs.Graph.Part

/-! # A graph without some of its nodes

Nodes may be taken out of a graph together with their edges. What is left is valid if the graph was,
the nodes that stay are found as before, and they have those of their children that stay
(`children_without`). If only error handlers are taken out, no node that stays loses a child that
takes part in normal dispatch (`flowChildren_without`). -/

namespace FlowGraph.Graph

variable {g : Graph} {gone : String → Bool} {id : String}

/-- The graph without the nodes that are gone, and without their edges. -/
def without (g : Graph) (gone : String → Bool) : Graph where
  nodes := g.nodes.filter fun n => !gone n.id
  edges := g.edges.filter (keeps gone)

theorem mem_edges_without {e : Workflow.Edge} :
    e ∈ (g.without gone).edges ↔ e ∈ g.edges ∧ gone e.source = false ∧ gone e.target = false := by
  simp [without, keeps]

theorem order_without : (g.without gone).order = g.order.filter fun id => !gone id := by
  simp only [without, order, List.filter_map]
  rfl

theorem mem_order_without : id ∈ (g.without gone).order ↔ id ∈ g.order ∧ gone id = false := by
  rw [order_without, List.mem_filter, Bool.not_eq_true']

/-- **What is left of a valid graph is valid.** -/
theorem Valid.without (hg : g.Valid) (gone : String → Bool) : (g.without gone).Valid where
  nodup := by
    rw [order_without]
    exact hg.nodup.filter _
  source_mem e he := by
    obtain ⟨he, hsource, -⟩ := mem_edges_without.mp he
    exact mem_order_without.mpr ⟨hg.source_mem e he, hsource⟩
  target_mem e he := by
    obtain ⟨he, -, htarget⟩ := mem_edges_without.mp he
    exact mem_order_without.mpr ⟨hg.target_mem e he, htarget⟩
  wellFounded := by
    have hsub : Subrelation (g.without gone).ChildOf g.ChildOf := fun hc =>
      childOf_iff.mpr (mem_edges_without.mp (childOf_iff.mp hc)).1
    exact hsub.wf hg.wellFounded

/-! ### What is found -/

section

variable (hid : gone id = false)
include hid

theorem node?_without : (g.without gone).node? id = g.node? id := by
  unfold node? without
  rw [List.find?_filter]
  congr 1
  funext n
  by_cases hn : n.id = id
  · simp [hn, hid]
  · simp [hn]

theorem children_without :
    (g.without gone).children id = (g.children id).filter fun c => !gone c := by
  unfold children without
  rw [List.filter_filter, List.filter_map, List.filter_filter]
  congr 1
  refine List.filter_congr fun e _ => ?_
  by_cases hsource : e.source = id
  · simp [keeps, hsource, hid]
  · have hne : (e.source == id) = false := by simpa using hsource
    simp [hne]

theorem mem_children_without {c : String} :
    c ∈ (g.without gone).children id ↔ c ∈ g.children id ∧ gone c = false := by
  rw [children_without hid, List.mem_filter, Bool.not_eq_true']

/-- **No node loses a child that takes part in normal dispatch**, if only error handlers go. -/
theorem flowChildren_without {s : EngineSettings}
    (hgone : ∀ c, gone c → g.isErrorHandler s c) :
    (g.without gone).flowChildren s id = g.flowChildren s id := by
  unfold flowChildren
  rw [children_without hid, List.filter_filter]
  refine List.filter_congr fun c _ => ?_
  cases hc : gone c with
  | false => simp [node?_without hc]
  | true =>
    have hhandler := hgone c hc
    unfold isErrorHandler at hhandler
    cases hn : g.node? c with
    | none => simp
    | some n =>
      rw [hn] at hhandler
      simpa using hhandler

end

/-- A way among nodes that stay is still there. -/
theorem isWay_without {way : List String} (hway : g.IsWay way)
    (hstay : ∀ id ∈ way, gone id = false) : (g.without gone).IsWay way where
  chain := hway.chain.imp_of_mem_imp fun c p hc hp hchild =>
    (mem_children_without (hstay p hp)).mpr ⟨hchild, hstay c hc⟩
  declared id hid := mem_order_without.mpr ⟨hway.declared hid, hstay id hid⟩

end FlowGraph.Graph
