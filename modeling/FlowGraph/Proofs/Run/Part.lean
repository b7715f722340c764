import FlowGraph.Proofs.Run.Start
import FlowGraph.Proofs.Walk.Reach

/-! # What a run depends on

A run starts from the first trigger of its workflow and gets no further than the edges lead. Nodes
that they do not lead to may be taken away, nodes and edges may be put into another order, as long
as the first trigger stays the first and the edges of each source keep theirs: the workflow still
passes the check, and a run does exactly the same (`runWith_part`). So orphans and other triggers
neither run nor matter. -/

namespace FlowGraph

variable {σ τ : Type}

/-- **A part of a workflow**: it has the same name, variables and first trigger, and its graph is a
part of the other, seen from that trigger. -/
structure Workflow.IsPart (part whole : Workflow) (s : EngineSettings) (gone : String → Bool) :
    Prop where
  name : part.name = whole.name
  vars : part.vars = whole.vars
  trigger : (part.graph.triggers s).head? = (whole.graph.triggers s).head?
  graph : ∀ trigger, (whole.graph.triggers s).head? = some trigger →
    part.graph.IsPart whole.graph trigger gone

namespace Engine

variable {e : Engine σ τ} {part whole : Workflow} {gone : String → Bool} {d : Diagnostics}

theorem exists_trigger (hd : validate whole.nodes whole.edges e.settings = .ok d) :
    ∃ trigger, (whole.graph.triggers e.settings).head? = some trigger := by
  obtain ⟨-, -, hne⟩ := prepare_of_validate hd
  obtain ⟨trigger, rest, htriggers⟩ := List.exists_cons_of_ne_nil hne
  exact ⟨trigger, by rw [htriggers, List.head?_cons]⟩

/-- A part of a workflow that passes the check passes it. -/
theorem validate_part (hd : validate whole.nodes whole.edges e.settings = .ok d)
    (h : part.IsPart whole e.settings gone) :
    ∃ d', validate part.nodes part.edges e.settings = .ok d' := by
  obtain ⟨-, hvalid, -⟩ := prepare_of_validate hd
  obtain ⟨trigger, hhead⟩ := exists_trigger hd
  refine Graph.validate_of_valid (g := part.graph) ((h.graph trigger hhead).valid hvalid) ?_
  intro hnil
  rw [← h.trigger, hnil] at hhead
  cases hhead

/-- The graph of a walk plays no part in how it is closed. -/
theorem close_withGraph (w : Walk σ τ) (g : Graph) (started : Nat) :
    close (w.withGraph g) started = close w started := by
  funext r
  rcases r with ⟨_ | _, s⟩ <;> rfl

theorem runRecorded_part (hd : validate whole.nodes whole.edges e.settings = .ok d)
    (h : part.IsPart whole e.settings gone) (nested : NestedRun σ) (input : Json)
    (runId : Option String) (s : RunState σ τ) :
    e.runRecorded nested part input runId s = e.runRecorded nested whole input runId s := by
  obtain ⟨-, hvalid, -⟩ := prepare_of_validate hd
  obtain ⟨d', hd'⟩ := validate_part hd h
  obtain ⟨trigger, hhead, hway, hrun, -⟩ :=
    runRecorded_eq_close hd nested input runId s
  obtain ⟨trigger', hhead', hway', hrun', -⟩ :=
    runRecorded_eq_close hd' nested input runId s
  obtain rfl : trigger' = trigger := by
    rw [h.trigger, hhead] at hhead'
    cases hhead'
    rfl
  have hpart := h.graph trigger' hhead
  let w : Walk σ τ := ⟨whole.graph, whole.name, e, runId, nested⟩
  have hw : (⟨part.graph, part.name, e, runId, nested⟩ : Walk σ τ) = w.withGraph part.graph := by
    rw [h.name]
    rfl
  rw [hw] at hrun'
  have hdeclared : trigger' ∈ part.graph.order := hway'.declared List.mem_cons_self
  -- the whole graph has more nodes, so its fuel is more than the part needs
  have hfuel := Walk.visit_of_length_le (w := w.withGraph part.graph) (hpart.valid hvalid)
    hdeclared hpart.length_le .start input ((w.withGraph part.graph).log none .info "Run started"
      none s)
  have hvisit : (w.withGraph part.graph).visit whole.graph.nodes.length [] .start trigger' input
      (w.log none .info "Run started" none s) = w.visit whole.graph.nodes.length [] .start trigger'
        input (w.log none .info "Run started" none s) :=
    Walk.visit_withGraph (hpart.agrees hvalid) input _ (.refl _ trigger')
  rw [hrun', hrun, close_withGraph]
  exact congrArg (close w _) (hfuel.symm.trans hvisit)

theorem runWith_eq_of_part (hd : validate whole.nodes whole.edges e.settings = .ok d)
    (h : part.IsPart whole e.settings gone) (nested : NestedRun σ) (input : Json)
    (session : Session σ) (store : τ) :
    e.runWith nested part input session store = e.runWith nested whole input session store := by
  unfold runWith
  simp only [runRecorded_part hd h, h.name, h.vars]

/-- Every event of a run is about a node that the edges lead to from the first trigger. -/
theorem reaches_of_mem_journal (nested : NestedRun σ) {workflow : Workflow} {input : Json}
    {session : Session σ} {store : τ} {trigger : String}
    (hhead : (workflow.graph.triggers e.settings).head? = some trigger) {ev : Event}
    (hev : ev ∈ (e.runWith nested workflow input session store).journal) {id : String}
    (hid : id ∈ ev.node?) : workflow.graph.Reaches trigger id := by
  have hsilent : ∀ (rs : List Report), ∀ ev ∈ rs.map Event.reported, ev.node? = none :=
    fun rs => List.forall_mem_map.mpr fun _ _ => rfl
  by_cases haccepts : e.Accepts workflow input session store
  · obtain ⟨w, trigger', s₀, s₁, o, hw⟩ := haccepts.walked nested
    obtain rfl : trigger' = trigger := Option.some.inj (hw.trigger_head.symm.trans hhead)
    obtain ⟨rs₀, hj₀⟩ := hw.start_journal
    obtain ⟨rs₁, hj₁⟩ := hw.end_journal
    have hcourse : Adds (w.IsReached trigger') s₀.journal s₁.journal :=
      hw.course.reaches fun c hc => List.mem_singleton.mp hc ▸ .refl _ _
    have hwalk : ∀ ev ∈ s₁.journal, w.IsReached trigger' ev := by
      refine hcourse.forall_mem fun ev hev id hid => ?_
      rw [hsilent rs₀ ev (hj₀ ▸ hev)] at hid
      cases hid
    rw [hj₁] at hev
    rcases List.mem_append.mp hev with hev | hev
    · rw [hsilent rs₁ ev hev] at hid
      cases hid
    · exact hw.graph ▸ hwalk ev hev id hid
  · obtain ⟨rs, hrs⟩ := journal_of_not_accepts haccepts nested
    rw [hsilent rs ev (hrs ▸ hev)] at hid
    cases hid

/-- **Only what the first trigger leads to matters to a run**, and the order of the edges of each
source. A part of a workflow that passes the check passes it, and its runs are those of the whole
workflow: the same calls with the same inputs in the same order, the same outcome, and the same
context, breakers, session and store at the end. Every event is about a node that the edges lead to
from the first trigger, and that is none of those that may be gone. -/
theorem runWith_part (hd : validate whole.nodes whole.edges e.settings = .ok d)
    (h : part.IsPart whole e.settings gone) :
    (∃ d', validate part.nodes part.edges e.settings = .ok d') ∧
    (∀ nested input session store,
      e.runWith nested part input session store = e.runWith nested whole input session store) ∧
    (∀ input session store, e.run part input session store = e.run whole input session store) ∧
    ∀ nested input session store, ∀ ev ∈ (e.runWith nested whole input session store).journal,
      ∀ id ∈ ev.node?, gone id = false ∧ ∃ trigger,
        (whole.graph.triggers e.settings).head? = some trigger ∧
          whole.graph.Reaches trigger id := by
  refine ⟨validate_part hd h, runWith_eq_of_part hd h, fun input session store => ?_, ?_⟩
  · rw [run_eq_runWith, run_eq_runWith, runWith_eq_of_part hd h]
  · intro nested input session store ev hev id hid
    obtain ⟨trigger, hhead⟩ := exists_trigger hd
    have hreaches := reaches_of_mem_journal nested hhead hev hid
    exact ⟨(h.graph trigger hhead).stays hreaches, trigger, hhead, hreaches⟩

/-- An orphan, and a second trigger with a child of its own. -/
def cluttered : Workflow where
  nodes := [{ id := "orphan", tag := "step" }, { id := "start", tag := "trigger" },
    { id := "second", tag := "trigger" }, { id := "own", tag := "step" },
    { id := "a", tag := "refuse" }, { id := "rescue", tag := "error_handler" }]
  edges := [⟨"second", "own"⟩, ⟨"start", "a"⟩, ⟨"a", "rescue"⟩, ⟨"second", "a"⟩]

/-- The same without the orphan and the child, in another order. -/
def cleared : Workflow where
  nodes := [{ id := "rescue", tag := "error_handler" }, { id := "start", tag := "trigger" },
    { id := "second", tag := "trigger" }, { id := "a", tag := "refuse" }]
  edges := [⟨"second", "a"⟩, ⟨"start", "a"⟩, ⟨"a", "rescue"⟩]

theorem isPart_cleared :
    cleared.IsPart cluttered small.settings fun id => id == "orphan" || id == "own" where
  name := rfl
  vars := rfl
  trigger := rfl
  graph trigger hhead := by
    obtain rfl : "start" = trigger := Option.some.inj hhead
    constructor
    · intro id hgone hreaches
      have hmem : id ∈ ["start", "a", "rescue"] :=
        hreaches.mem_of_closed List.mem_cons_self (by decide)
      simp only [List.mem_cons, List.not_mem_nil, or_false] at hmem
      rcases hmem with rfl | rfl | rfl <;> cases hgone
    · exact @List.perm_append_comm _ (cleared.nodes.take 1) (cleared.nodes.drop 1)
    · exact @List.perm_append_comm _ (cleared.edges.take 1) (cleared.edges.drop 1)
    · intro id
      by_cases hsecond : "second" = id
      · subst hsecond; rfl
      by_cases hstart : "start" = id
      · subst hstart; rfl
      by_cases ha : "a" = id
      · subst ha; rfl
      simp [cleared, cluttered, Workflow.graph, Graph.keeps, hsecond, hstart, ha]

theorem runWith_part_cleared :
    let r := small.runWith unnested cluttered .null .dawn ()
    validate cluttered.nodes cluttered.edges small.settings = .ok ⟨["start", "second"],
      [.multipleTriggers ["start", "second"], .orphaned "orphan"]⟩ ∧
    (cleared.IsPart cluttered small.settings fun id => id == "orphan" || id == "own") ∧
    small.runWith unnested cleared .null .dawn () = r ∧
    r.engine.context.lastCompleted = some "rescue" ∧
    ∀ ev ∈ r.journal, ev.node? ≠ some "orphan" := by
  intro r
  have hd : validate cluttered.nodes cluttered.edges small.settings = .ok ⟨["start", "second"],
      [.multipleTriggers ["start", "second"], .orphaned "orphan"]⟩ := rfl
  obtain ⟨-, hsame, -, hreached⟩ := runWith_part (e := small) hd isPart_cleared
  refine ⟨hd, isPart_cleared, hsame unnested .null .dawn (), rfl, fun ev hev horphan => ?_⟩
  obtain ⟨hgone, -⟩ := hreached unnested .null .dawn () ev hev "orphan" horphan
  cases hgone

end Engine

end FlowGraph
