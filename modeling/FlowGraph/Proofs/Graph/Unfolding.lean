import FlowGraph.Proofs.Graph.Search
import Mathlib.Algebra.BigOperators.Group.Finset.Basic
import Mathlib.Algebra.BigOperators.Group.List.Basic
import Mathlib.Algebra.BigOperators.Ring.Finset
import Mathlib.Data.List.FinRange

/-! # The unfolding of a graph

Dispatch unfolds a graph from a node: first the node, then the unfoldings of the children it goes on
to, one after another, and all of that as many `times` as the node repeats its children. A node that
is reached on several paths is there several times.

* `Unfolds` relates nodes to their unfolding. There is always one on a valid graph, and only one
  (`Valid.exists_unfolds`, `Unfolds.unique`).
* `IsFlowWay` is a way that dispatch takes.
* `IsPath` is a path by its edges, so that parallel edges make different paths.
  `Valid.exists_paths`: an unfolding has a node as often as its paths say, each path counted as
  often as the nodes before its end repeat their children. -/

namespace FlowGraph.Graph

/-- **The unfolding of nodes**, each before its children and these `times` over. -/
inductive Unfolds (g : Graph) (s : EngineSettings) (times : String → Nat) :
    List String → List String → Prop where
  | nil : Unfolds g s times [] []
  | cons {id rest block tail} (hb : Unfolds g s times (g.flowChildren s id) block)
    (ht : Unfolds g s times rest tail) :
    Unfolds g s times (id :: rest) (id :: (List.replicate (times id) block).flatten ++ tail)

/-- A path to `n`, by the positions of its edges. None of them leads to an error handler. -/
def IsPath (g : Graph) (s : EngineSettings) (n : String) :
    String → List (Fin g.edges.length) → Prop
  | id, [] => id = n
  | id, i :: rest => g.edges[i].source = id ∧ g.isErrorHandler s g.edges[i].target = false ∧
    IsPath g s n g.edges[i].target rest

/-- How often a path is taken: as often as the nodes before its end repeat their children. -/
def weight (g : Graph) (times : String → Nat) (path : List (Fin g.edges.length)) : Nat :=
  (path.map fun i => times g.edges[i].source).prod

variable {g : Graph} {s : EngineSettings} {times : String → Nat}

/-! ### Ways of dispatch -/

/-- A way along the edges of normal dispatch from `start`, the last node first. -/
structure IsFlowWay (g : Graph) (s : EngineSettings) (start : String) (way : List String) :
    Prop where
  chain : way.IsChain fun c p => c ∈ g.flowChildren s p
  starts : way.getLast? = some start

theorem isFlowWay_singleton (g : Graph) (s : EngineSettings) (start : String) :
    g.IsFlowWay s start [start] :=
  ⟨List.isChain_singleton start, rfl⟩

theorem IsFlowWay.cons {start c p : String} {way : List String}
    (h : g.IsFlowWay s start (p :: way)) (hc : c ∈ g.flowChildren s p) :
    g.IsFlowWay s start (c :: p :: way) :=
  ⟨List.isChain_cons_cons.mpr ⟨hc, h.chain⟩, by simpa using h.starts⟩

theorem IsFlowWay.isWay {start : String} (hg : g.Valid)
    (hstart : start ∈ g.order) : ∀ {way : List String}, g.IsFlowWay s start way → g.IsWay way
  | [], h => by cases h.starts
  | [id], h => by
    obtain rfl : id = start := by simpa using h.starts
    exact isWay_singleton hstart
  | c :: p :: way, h => by
    obtain ⟨hc, hchain⟩ := List.isChain_cons_cons.mp h.chain
    have hrest := isWay hg hstart ⟨hchain, by simpa using h.starts⟩
    exact hg.isWay_cons (flowChildren_subset s p hc) hrest

/-! ### Unfoldings -/

namespace Unfolds

theorem unique {ids order order' : List String} (h : g.Unfolds s times ids order)
    (h' : g.Unfolds s times ids order') : order = order' := by
  induction h generalizing order' with
  | nil => cases h'; rfl
  | cons hb ht ihb iht =>
    cases h' with
    | cons hb' ht' => rw [ihb hb', iht ht']

theorem append {xs ys as bs : List String} (h : g.Unfolds s times xs as)
    (h' : g.Unfolds s times ys bs) : g.Unfolds s times (xs ++ ys) (as ++ bs) := by
  induction h with
  | nil => exact h'
  | cons hb ht ihb iht =>
    have hcons := cons hb iht
    simpa using hcons

/-- The unfolding of one node. -/
theorem single {id : String} {block : List String}
    (h : g.Unfolds s times (g.flowChildren s id) block) :
    g.Unfolds s times [id] (id :: (List.replicate (times id) block).flatten) := by
  simpa using cons h nil

theorem block_of_single {id : String} {order : List String} (h : g.Unfolds s times [id] order) :
    ∃ block, g.Unfolds s times (g.flowChildren s id) block ∧
      order = id :: (List.replicate (times id) block).flatten := by
  cases h with
  | cons hb ht =>
    cases ht
    exact ⟨_, hb, by simp⟩

theorem split_cons {id : String} {rest order : List String}
    (h : g.Unfolds s times (id :: rest) order) :
    ∃ as bs, g.Unfolds s times [id] as ∧ g.Unfolds s times rest bs ∧ order = as ++ bs := by
  cases h with
  | cons hb ht => exact ⟨_, _, single hb, ht, rfl⟩

/-- An unfolding stays within the graph. -/
theorem subset_order (hg : g.Valid) {ids order : List String} (h : g.Unfolds s times ids order)
    (hids : ids ⊆ g.order) : order ⊆ g.order := by
  induction h with
  | nil => exact hids
  | @cons id rest block tail hb ht ihb iht =>
    obtain ⟨hid, hrest⟩ := List.cons_subset.mp hids
    have hblock : block ⊆ g.order := ihb fun c hc =>
      hg.mem_order_of_mem_children (flowChildren_subset s id hc)
    intro x hx
    rcases List.mem_cons.mp hx with rfl | hx
    · exact hid
    · rcases List.mem_append.mp hx with hx | hx
      · obtain ⟨b, hb', hxb⟩ := List.mem_flatten.mp hx
        exact hblock (List.eq_of_mem_replicate hb' ▸ hxb)
      · exact iht hrest hx

end Unfolds

theorem exists_unfolds_of_forall : ∀ {ids : List String},
    (∀ id ∈ ids, ∃ order, g.Unfolds s times [id] order) → ∃ order, g.Unfolds s times ids order
  | [], _ => ⟨[], .nil⟩
  | id :: rest, h => by
    obtain ⟨as, has⟩ := h id (by simp)
    obtain ⟨bs, hbs⟩ := exists_unfolds_of_forall fun c hc => h c (List.mem_cons_of_mem _ hc)
    exact ⟨as ++ bs, has.append hbs⟩

theorem Valid.exists_unfolds_single (h : g.Valid) (s : EngineSettings) (times : String → Nat)
    (id : String) : ∃ order, g.Unfolds s times [id] order := by
  induction id using h.wellFounded.induction with
  | _ id ih =>
    obtain ⟨block, hb⟩ := exists_unfolds_of_forall fun c hc => ih c (flowChildren_subset s id hc)
    exact ⟨_, hb.single⟩

/-- **Nodes of a valid graph have an unfolding.** -/
theorem Valid.exists_unfolds (h : g.Valid) (s : EngineSettings) (times : String → Nat)
    (ids : List String) : ∃ order, g.Unfolds s times ids order :=
  exists_unfolds_of_forall fun id _ => h.exists_unfolds_single s times id

/-! ### Paths -/

/-- The edges that lead on from a node, in their order. -/
def outgoing (g : Graph) (s : EngineSettings) (id : String) : List (Fin g.edges.length) :=
  (List.finRange g.edges.length).filter fun i =>
    g.edges[i].source == id && !g.isErrorHandler s g.edges[i].target

theorem nodup_outgoing (g : Graph) (s : EngineSettings) (id : String) :
    (g.outgoing s id).Nodup :=
  (List.nodup_finRange _).filter _

theorem mem_outgoing {id : String} {i : Fin g.edges.length} : i ∈ g.outgoing s id ↔
    g.edges[i].source = id ∧ g.isErrorHandler s g.edges[i].target = false := by
  simp [outgoing, List.mem_finRange]

/-- On a valid graph the edges that lead on lead to the children of normal dispatch. -/
theorem Valid.flowChildren_eq (h : g.Valid) (s : EngineSettings) (id : String) :
    g.flowChildren s id = (g.outgoing s id).map fun i => g.edges[i].target := by
  have hdeclared : ∀ e ∈ g.edges,
      (g.node? e.target).any (fun n => !s.isErrorHandler n.tag) =
        !g.isErrorHandler s e.target := by
    intro e he
    obtain ⟨n, hn⟩ := Option.isSome_iff_exists.mp (node?_isSome_iff.mpr (h.target_mem e he))
    simp [isErrorHandler, hn]
  have hflow : g.flowChildren s id =
      (g.edges.filter fun e => e.source == id && !g.isErrorHandler s e.target).map (·.target) := by
    unfold flowChildren children
    rw [List.filter_map, List.filter_filter]
    refine congrArg _ (List.filter_congr fun e he => ?_)
    simp only [Function.comp_apply, hdeclared e he, Bool.and_comm]
  have hout : (g.edges.filter fun e => e.source == id && !g.isErrorHandler s e.target) =
      (g.outgoing s id).map fun i => g.edges[i] := by
    conv_lhs => rw [← List.map_getElem_finRange g.edges]
    exact List.filter_map
  rw [hflow, hout, List.map_map]
  rfl

/-- The paths from a node to `n`, counted by weight, say how often its unfolding has `n`. -/
structure Counts (g : Graph) (s : EngineSettings) (times : String → Nat) (n id : String)
    (paths : Finset (List (Fin g.edges.length))) : Prop where
  mem_iff : ∀ path, path ∈ paths ↔ g.IsPath s n id path
  count_eq : ∀ order, g.Unfolds s times [id] order →
    order.count n = ∑ path ∈ paths, g.weight times path

theorem weight_cons (i : Fin g.edges.length) (path : List (Fin g.edges.length)) :
    g.weight times (i :: path) = times g.edges[i].source * g.weight times path := by
  simp [weight]

/-- The paths that start with one of some edges. -/
theorem exists_paths_of_edges {n : String} : ∀ {is : List (Fin g.edges.length)}, is.Nodup →
    (∀ i ∈ is, ∃ paths, g.Counts s times n g.edges[i].target paths) →
    ∃ paths : Finset (List (Fin g.edges.length)),
      (∀ path, path ∈ paths ↔
        ∃ i ∈ is, ∃ rest, path = i :: rest ∧ g.IsPath s n g.edges[i].target rest) ∧
      ∀ block, g.Unfolds s times (is.map fun i => g.edges[i].target) block →
        block.count n = ∑ path ∈ paths, g.weight times path.tail
  | [], _, _ => by
    refine ⟨∅, by simp, fun block hb => ?_⟩
    cases hb
    rfl
  | i :: is, hnodup, h => by
    obtain ⟨hi, his⟩ := List.nodup_cons.mp hnodup
    obtain ⟨first, hfirst⟩ := h i (by simp)
    obtain ⟨others, hothers, hcount⟩ :=
      exists_paths_of_edges his fun j hj => h j (List.mem_cons_of_mem _ hj)
    have hdisjoint : Disjoint (first.image (i :: ·)) others := by
      rw [Finset.disjoint_left]
      intro path hpath hmem
      obtain ⟨rest, -, rfl⟩ := Finset.mem_image.mp hpath
      obtain ⟨j, hj, rest', heq, -⟩ := (hothers _).mp hmem
      obtain ⟨rfl, -⟩ := List.cons.inj heq
      exact hi hj
    refine ⟨first.image (i :: ·) ∪ others, fun path => ?_, fun block hb => ?_⟩
    · rw [Finset.mem_union, Finset.mem_image, hothers]
      constructor
      · rintro (⟨rest, hrest, rfl⟩ | ⟨j, hj, rest, rfl, hrest⟩)
        · exact ⟨i, by simp, rest, rfl, (hfirst.mem_iff rest).mp hrest⟩
        · exact ⟨j, by simp [hj], rest, rfl, hrest⟩
      · rintro ⟨j, hj, rest, rfl, hrest⟩
        rcases List.mem_cons.mp hj with rfl | hj
        · exact Or.inl ⟨rest, (hfirst.mem_iff rest).mpr hrest, rfl⟩
        · exact Or.inr ⟨j, hj, rest, rfl, hrest⟩
    · obtain ⟨as, bs, has, hbs, rfl⟩ := hb.split_cons
      rw [List.count_append, hfirst.count_eq as has, hcount bs hbs,
        Finset.sum_union hdisjoint, Finset.sum_image fun _ _ _ _ heq => (List.cons.inj heq).2]
      rfl

/-- **How often an unfolding has a node** is what its paths say. -/
theorem Valid.exists_paths (h : g.Valid) (s : EngineSettings) (times : String → Nat)
    (n id : String) : ∃ paths, g.Counts s times n id paths := by
  induction id using h.wellFounded.induction with
  | _ id ih =>
    have hchild : ∀ i ∈ g.outgoing s id, ∃ paths, g.Counts s times n g.edges[i].target paths := by
      intro i hi
      exact ih _ (mem_children.mpr ⟨g.edges[i], g.edges.getElem_mem _, (mem_outgoing.mp hi).1, rfl⟩)
    obtain ⟨onward, honward, hcount⟩ := exists_paths_of_edges (g.nodup_outgoing s id) hchild
    have hnil : [] ∉ onward := by
      intro hmem
      obtain ⟨i, -, rest, heq, -⟩ := (honward []).mp hmem
      cases heq
    refine ⟨if id = n then insert [] onward else onward, ⟨fun path => ?_, fun order ho => ?_⟩⟩
    · cases path with
      | nil => by_cases hid : id = n <;> simp [hid, hnil, IsPath]
      | cons i rest =>
        have hmem : i :: rest ∈ onward ↔ g.IsPath s n id (i :: rest) := by
          rw [honward]
          constructor
          · rintro ⟨j, hj, rest', heq, hrest⟩
            obtain ⟨rfl, rfl⟩ := List.cons.inj heq
            exact ⟨(mem_outgoing.mp hj).1, (mem_outgoing.mp hj).2, hrest⟩
          · rintro ⟨hsource, htarget, hrest⟩
            exact ⟨i, mem_outgoing.mpr ⟨hsource, htarget⟩, rest, rfl, hrest⟩
        rw [← hmem]
        by_cases hid : id = n <;> simp [hid]
    · obtain ⟨block, hb, rfl⟩ := ho.block_of_single
      rw [h.flowChildren_eq] at hb
      have honce : ∑ path ∈ onward, g.weight times path = times id * block.count n := by
        rw [hcount block hb, Finset.mul_sum]
        refine Finset.sum_congr rfl fun path hpath => ?_
        obtain ⟨i, hi, rest, rfl, -⟩ := (honward path).mp hpath
        rw [weight_cons, (mem_outgoing.mp hi).1, List.tail_cons]
      have hblocks : (List.replicate (times id) block).flatten.count n =
          times id * block.count n := by
        simp [List.count_flatten]
      by_cases hid : id = n
      · subst hid
        rw [if_pos rfl, Finset.sum_insert hnil, honce, List.count_cons_self, hblocks]
        simp [weight, Nat.add_comm]
      · rw [if_neg hid, honce, List.count_cons_of_ne hid, hblocks]

end FlowGraph.Graph
