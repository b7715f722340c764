import FlowGraph.Proofs.Graph.Search

/-! # Cycles and the search for them

A node is on a cycle if the edges lead from it back to it (`OnCycle`); one edge is enough if it
leads from the node to itself. The search goes depth first and stops at the first child that lies on
its own way, and this child is on a cycle: the way leads from it to the node whose child it is. A
search that does not stop has finished every node, and a finished node is on no cycle, whatever was
visited from other starts before.

* `onCycle_of_findCycle?`: what the search finds is on a cycle, in any graph at all.
* `findCycle?_verdict`: on a graph that can be built, the search finds something exactly if there is
  a cycle. -/

namespace FlowGraph.Graph

/-- **On a cycle**: one edge or several lead from the node back to it. -/
def OnCycle (edges : List Workflow.Edge) (id : String) : Prop :=
  Relation.TransGen (fun p c => ⟨p, c⟩ ∈ edges) id id

variable {g : Graph}

theorem childOf_iff {c p : String} : g.ChildOf c p ↔ ⟨p, c⟩ ∈ g.edges := by
  rw [ChildOf, mem_children]
  constructor
  · rintro ⟨⟨source, target⟩, he, rfl, rfl⟩
    exact he
  · exact fun he => ⟨_, he, rfl, rfl⟩

theorem onCycle_iff {id : String} : OnCycle g.edges id ↔ Relation.TransGen g.ChildOf id id := by
  have hswap : (fun p c => ⟨p, c⟩ ∈ g.edges) = Function.swap g.ChildOf := by
    funext p c
    exact propext childOf_iff.symm
  rw [OnCycle, hswap, Relation.transGen_swap]

/-! ### What a search finds -/

/-- A way leads from each of its nodes to the last one. -/
theorem reflTransGen_of_mem_way {id : String} : ∀ {way : List String},
    (id :: way).IsChain g.ChildOf → ∀ c ∈ id :: way, Relation.ReflTransGen g.ChildOf id c
  | [], _, c, hc => by
    obtain rfl := List.mem_singleton.mp hc
    exact .refl
  | p :: way, hway, c, hc => by
    obtain ⟨hstep, hrest⟩ := List.isChain_cons_cons.mp hway
    rcases List.mem_cons.mp hc with rfl | hc
    · exact .refl
    · exact .head hstep (reflTransGen_of_mem_way hrest c hc)

/-- A child that lies on the way closes a cycle. -/
theorem onCycle_of_mem_way {id c : String} {way : List String}
    (hway : (id :: way).IsChain g.ChildOf) (hchild : c ∈ g.children id) (hc : c ∈ id :: way) :
    OnCycle g.edges c :=
  onCycle_iff.mpr (.head' hchild (reflTransGen_of_mem_way hway c hc))

theorem searchChildren_error {P : String → Prop} {go : List String → String → Search}
    {way : List String} {found : String} :
    ∀ {cs visited : List String}, (∀ c ∈ cs, c ∈ way → P c) →
      (∀ c ∈ cs, ∀ visited, go visited c = .error found → P found) →
      searchChildren go way visited cs = .error found → P found
  | [], _, _, _, h => by cases h
  | c :: rest, visited, hway, hgo, h => by
    have hrest : ∀ {visited}, searchChildren go way visited rest = .error found → P found :=
      searchChildren_error (fun d hd => hway d (List.mem_cons_of_mem _ hd))
        fun d hd => hgo d (List.mem_cons_of_mem _ hd)
    unfold searchChildren at h
    split_ifs at h with hmem hvis
    · cases h
      exact hway _ List.mem_cons_self (by simpa using hmem)
    · exact hrest h
    · split at h
      · next hfound =>
        cases h
        exact hgo c List.mem_cons_self visited hfound
      · exact hrest h

theorem searchFrom_error {found : String} : ∀ {fuel : Nat} {way visited : List String}
    {id : String}, (id :: way).IsChain g.ChildOf →
      searchFrom g fuel way visited id = .error found → OnCycle g.edges found
  | 0, _, _, _, _, h => by cases h
  | fuel + 1, way, visited, id, hway, h => by
    refine searchChildren_error (fun c hc hmem => onCycle_of_mem_way hway hc hmem) ?_ h
    intro c hc visited hfound
    exact searchFrom_error (List.isChain_cons_cons.mpr ⟨hc, hway⟩) hfound

theorem searchAll_error {found : String} : ∀ {ids visited : List String},
    searchAll g visited ids = .error found → OnCycle g.edges found
  | [], _, h => by cases h
  | id :: rest, visited, h => by
    unfold searchAll at h
    split_ifs at h
    · exact searchAll_error h
    · split at h
      · next hfound =>
        cases h
        exact searchFrom_error (List.isChain_singleton id) hfound
      · exact searchAll_error h

theorem onCycle_of_findCycle? {id : String} (h : g.findCycle? = some id) :
    OnCycle g.edges id := by
  unfold findCycle? at h
  split at h
  · next hfound =>
    cases h
    exact searchAll_error hfound
  · cases h

/-! ### Whether there is a cycle -/

theorem not_onCycle_of_wellFounded (h : WellFounded g.ChildOf) (id : String) :
    ¬ OnCycle g.edges id :=
  fun hid => h.transGen.irrefl.irrefl id (onCycle_iff.mp hid)

/-- **The search for cycles is sound and complete**: it comes back without a node exactly if no node
is on a cycle, and a node that it comes back with is on one. -/
theorem findCycle?_verdict {nodes : List Workflow.Node} {edges : List Workflow.Edge}
    (h : build nodes edges = .ok g) :
    (g.findCycle? = none ↔ ∀ id, ¬ OnCycle edges id) ∧
      ∀ id, g.findCycle? = some id → OnCycle edges id := by
  obtain ⟨rfl, hnodup, hends⟩ := build_eq_ok h
  refine ⟨⟨fun hnone => ?_, fun hall => ?_⟩, fun id => onCycle_of_findCycle?⟩
  · exact not_onCycle_of_wellFounded (wellFounded_of_findCycle? hnodup hends hnone)
  · rw [Option.eq_none_iff_forall_ne_some]
    exact fun id hid => hall id (onCycle_of_findCycle? hid)

/-- Two components, parallel edges in the one, a cycle behind a detour in the other. -/
def detour : Graph where
  nodes := [{ id := "d", tag := "set" }, { id := "a", tag := "set" }, { id := "b", tag := "set" },
    { id := "start", tag := "manual_trigger" }, { id := "c", tag := "set" }]
  edges := [⟨"start", "d"⟩, ⟨"start", "d"⟩, ⟨"a", "b"⟩, ⟨"b", "c"⟩, ⟨"c", "b"⟩]

theorem findCycle?_verdict_detour :
    build detour.nodes detour.edges = .ok detour ∧ detour.findCycle? = some "b" ∧
      OnCycle detour.edges "b" ∧ ¬ ∀ id, ¬ OnCycle detour.edges id := by
  have hbuild : build detour.nodes detour.edges = .ok detour := rfl
  have hfound : detour.findCycle? = some "b" := by decide
  obtain ⟨hnone, hsome⟩ := findCycle?_verdict hbuild
  refine ⟨hbuild, hfound, hsome "b" hfound, ?_⟩
  rw [← hnone, hfound]
  simp

end FlowGraph.Graph
