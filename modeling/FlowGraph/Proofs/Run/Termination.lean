import FlowGraph.Proofs.Run.Start
import FlowGraph.Proofs.Walk.Recursion
import FlowGraph.Proofs.Walk.Within

/-! # Runs end

A run of a workflow that passes the check comes to its end, whatever its handlers answer. Nothing
that comes between the check and the walk can go wrong any more. The walk from the first trigger has
a course, so it ends after finitely many visits, and it gives what the equation of visits gives
without any fuel. The workflows of nodes end too, because each level of them is one level closer to
the limit of the settings.

* `Graph.Confines` says where the visits of a run stay: on ways along the edges, which are no longer
  than the graph has nodes. `runWith_confines` says that they do.
* `run_finishes` puts it all together. -/

namespace FlowGraph

variable {σ τ : Type}

/-- **Where visits stay**: a visit and the visits under way around it are distinct nodes on a way
along the edges, no more than there are nodes, and no visit is cut off. -/
def Graph.Confines (g : Graph) : Event → Prop
  | .visited id _ _ enclosing _ =>
    let way := id :: enclosing.map (·.id)
    g.IsWay way ∧ way.Nodup ∧ way.length ≤ g.nodes.length
  | .exhausted _ => False
  | _ => True

namespace Walk

variable {w : Walk σ τ}

theorem Within.confines (hg : w.graph.Valid) {chain : List ActiveVisit} {ev : Event}
    (h : w.Within chain ev) : w.graph.Confines ev := by
  cases ev with
  | visited id input cause enclosing loops =>
    exact ⟨h.2, hg.nodup_of_isWay h.2, hg.length_le_of_isWay h.2⟩
  | exhausted id => exact h
  | _ => trivial

end Walk

namespace Engine

variable {e : Engine σ τ} {workflow : Workflow} {input : Json} {session : Session σ} {store : τ}

theorem confines_reports (g : Graph) (rs : List Report) :
    ∀ ev ∈ rs.map Event.reported, g.Confines ev :=
  List.forall_mem_map.mpr fun _ _ => trivial

/-- The visits of a run stay in the graph, accepted or not. -/
theorem runWith_confines (e : Engine σ τ) (nested : NestedRun σ) (workflow : Workflow)
    (input : Json) (session : Session σ) (store : τ) :
    ∀ ev ∈ (e.runWith nested workflow input session store).journal,
      workflow.graph.Confines ev := by
  by_cases h : e.Accepts workflow input session store
  · obtain ⟨w, trigger, s₀, s₁, o, hw⟩ := h.walked nested
    obtain ⟨rs₀, hj₀⟩ := hw.start_journal
    obtain ⟨rs₁, hj₁⟩ := hw.end_journal
    have hcourse : ∀ ev ∈ s₁.journal, w.graph.Confines ev := by
      have hadds := hw.course.within.mono fun _ => Walk.Within.confines hw.valid
      exact hadds.forall_mem (hj₀ ▸ confines_reports _ rs₀)
    rw [hj₁, ← hw.graph]
    exact List.forall_mem_append.mpr ⟨confines_reports _ rs₁, hcourse⟩
  · obtain ⟨rs, hrs⟩ := journal_of_not_accepts h nested
    exact hrs ▸ confines_reports _ rs

/-- The walk from the first trigger ends, with what the equation of visits gives. -/
theorem walkFrom_finishes {w : Walk σ τ} (hg : w.graph.Valid) {trigger : String}
    (ht : trigger ∈ w.graph.order) (rest : List String) (input : Json) (s : RunState σ τ) :
    let result := walkFrom w (trigger :: rest) input s
    w.Course (.visit [] .start trigger input) s result.1 result.2 ∧
      ∀ go, w.Follows go → go [] .start trigger input s = result := by
  have hway := Graph.isWay_singleton ht
  exact ⟨Walk.visit_course hg s hway (Nat.le_refl _),
    fun go hgo => hgo.eq_visit hg input s hway (Nat.le_refl _)⟩

/-- **A run of a workflow that passes the check comes to its end.** After the check, the graph is
built and there is a first trigger. From it the walk has a course, and its end is that of any
function that solves the equation of visits; there is such a function. The way to run the workflows
of nodes is the only solution of its own equation. All visits, of the run and of any run inside it,
stay on ways that are no longer than the graph has nodes. -/
theorem run_finishes {d : Diagnostics}
    (h : validate workflow.nodes workflow.edges e.settings = .ok d) :
    Graph.build workflow.nodes workflow.edges = .ok workflow.graph ∧
    e.prepare workflow = .ok (workflow.graph, d.triggers) ∧
    (∃ trigger, d.triggers.head? = some trigger ∧
      ∀ w : Walk σ τ, w.graph = workflow.graph → (∃ go, w.Follows go) ∧ ∀ input s,
        let result := walkFrom w d.triggers input s
        w.Course (.visit [] .start trigger input) s result.1 result.2 ∧
          ∀ go, w.Follows go → go [] .start trigger input s = result) ∧
    (∃ nested, (∀ other, other = SubWorkflow.runWith (some e.registry) other ↔ other = nested) ∧
      ∀ input session store, e.run workflow input session store =
        e.runWith nested workflow input session store) ∧
    ∀ nested input session store, ∀ ev ∈ (e.runWith nested workflow input session store).journal,
      workflow.graph.Confines ev := by
  obtain ⟨hbuild, hvalid, htriggers, hne⟩ := Graph.valid_of_validate h
  obtain ⟨hprep, -, -⟩ := prepare_of_validate h
  obtain ⟨trigger, rest, hcons⟩ := List.exists_cons_of_ne_nil hne
  have ht : trigger ∈ workflow.graph.order := by
    refine Graph.mem_order_of_mem_triggers (s := e.settings) ?_
    rw [Workflow.graph, ← htriggers, hcons]
    exact List.mem_cons_self
  refine ⟨hbuild, ?_, ⟨trigger, by rw [hcons]; rfl, ?_⟩,
    ⟨_, fun _ => SubWorkflow.eq_unboundedRun_iff, fun input session store => ?_⟩,
    fun nested => e.runWith_confines nested workflow⟩
  · rw [hprep, htriggers]
    rfl
  · intro w hw
    have hg : w.graph.Valid := hw ▸ hvalid
    refine ⟨⟨_, Walk.follows_visit hg⟩, fun input s => ?_⟩
    rw [hcons]
    exact walkFrom_finishes hg (hw ▸ ht) rest input s
  · exact e.run_eq_runWith workflow input session store

/-- A loop, below it a node that fails and below that an error handler. -/
def ladder : Workflow where
  nodes := [{ id := "start", tag := "trigger" },
    { id := "l", tag := "loop", config := .obj [("iterations", .ofNat 2)] },
    { id := "a", tag := "refuse" }, { id := "rescue", tag := "error_handler" }]
  edges := [⟨"start", "l"⟩, ⟨"l", "a"⟩, ⟨"a", "rescue"⟩]

/-- Whether as many visits are under way as there are nodes. -/
def isFull (workflow : Workflow) : Event → Bool
  | .visited _ _ _ enclosing _ => enclosing.length + 1 == workflow.nodes.length
  | _ => false

theorem run_finishes_ladder :
    validate ladder.nodes ladder.edges small.settings = .ok ⟨["start"], []⟩ ∧
    small.prepare ladder = .ok (ladder.graph, ["start"]) ∧
    let r := small.run ladder .null .dawn ()
    (∀ ev ∈ r.journal, ladder.graph.Confines ev) ∧ r.journal.countP (isFull ladder) = 2 := by
  have hd : validate ladder.nodes ladder.edges small.settings = .ok ⟨["start"], []⟩ := rfl
  obtain ⟨-, hprep, -, ⟨nested, -, hrun⟩, hconfines⟩ := run_finishes (e := small) hd
  refine ⟨hd, hprep, ?_, rfl⟩
  rw [hrun]
  exact hconfines nested .null .dawn ()

end Engine

end FlowGraph
