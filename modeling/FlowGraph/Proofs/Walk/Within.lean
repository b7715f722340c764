import FlowGraph.Proofs.Walk.Kept

/-! # Visits lie within the visits under way

While a visit is under way, everything that is visited is visited inside it: a task starts visits
only within the visits that are under way around it, and each of them lies on a way along the edges.
So the visits under way are at any time distinct nodes of the graph, one a child of the next, and
none of them is cut off.

* `Adds P j j'`: the journal goes on from `j` to `j'` with events of which `P` holds.
* `Course.within` is the induction over the course. -/

namespace FlowGraph

variable {σ τ : Type}

/-! ### Events that are added -/

/-- The journal `j'` goes on from `j` with events of which `P` holds. -/
def Adds (P : Event → Prop) (j j' : List Event) : Prop := ∃ evs, j' = evs ++ j ∧ ∀ ev ∈ evs, P ev

namespace Adds

variable {P Q : Event → Prop} {j j' j'' : List Event}

theorem refl (j : List Event) : Adds P j j := ⟨[], rfl, by simp⟩

theorem trans (h : Adds P j j') (h' : Adds P j' j'') : Adds P j j'' := by
  obtain ⟨evs, rfl, hall⟩ := h
  obtain ⟨evs', rfl, hall'⟩ := h'
  exact ⟨evs' ++ evs, by simp, List.forall_mem_append.mpr ⟨hall', hall⟩⟩

theorem mono (h : Adds P j j') (hPQ : ∀ ev, P ev → Q ev) : Adds Q j j' := by
  obtain ⟨evs, rfl, hall⟩ := h
  exact ⟨evs, rfl, fun ev hev => hPQ ev (hall ev hev)⟩

theorem cons {ev : Event} (hev : P ev) (j : List Event) : Adds P j (ev :: j) :=
  ⟨[ev], rfl, by simpa using hev⟩

/-- All events of a journal that goes on from one without any other. -/
theorem forall_mem (h : Adds P j j') (hj : ∀ ev ∈ j, P ev) : ∀ ev ∈ j', P ev := by
  obtain ⟨evs, rfl, hall⟩ := h
  exact List.forall_mem_append.mpr ⟨hall, hj⟩

end Adds

namespace Walk

variable {w : Walk σ τ} {P : Event → Prop} {s s' : RunState σ τ}

theorem Told.adds (h : Told s s') (hreport : ∀ report, P (.reported report)) :
    Adds P s.journal s'.journal := by
  obtain ⟨rs, hrs⟩ := h.journal
  exact ⟨_, hrs, List.forall_mem_map.mpr fun report _ => hreport report⟩

/-- What comes of a call of a handler: the call, if it is made, an output and reports. -/
theorem adds_of_invoke {node : Workflow.Node} {h : Handler σ} {input : Json}
    {outcome : Except Error Json} (hi : w.invoke node h input s = (outcome, s'))
    (hreport : ∀ report, P (.reported report))
    (hinvoked : P (.invoked (w.nodeContext node input s.context)))
    (hcompleted : ∀ output, P (.completed node.id output)) : Adds P s.journal s'.journal := by
  cases outcome with
  | error e =>
    rcases (invoke_error hi).2 with hj | hj
    · exact hj ▸ .refl _
    · exact hj ▸ .cons hinvoked _
  | ok output =>
    obtain ⟨-, rs, hj⟩ := invoke_ok hi
    have hreports : Adds P (.completed node.id output ::
        .invoked (w.nodeContext node input s.context) :: s.journal) s'.journal :=
      ⟨_, hj, List.forall_mem_map.mpr fun report _ => hreport report⟩
    exact ((Adds.cons hinvoked _).trans (.cons (hcompleted output) _)).trans hreports

end Walk

/-- The visits under way while a task is done, the innermost first. -/
def Task.chain : Task → List ActiveVisit
  | .visit enclosing _ _ _ => enclosing
  | .recover v enclosing _ => v :: enclosing
  | .sweep chain _ _ _ => chain
  | .passes v enclosing _ _ => v :: enclosing

namespace Walk

/-- **An event within visits under way**: a visit starts inside all of them and lies on a way, and
no visit is cut off. -/
def Within (w : Walk σ τ) (chain : List ActiveVisit) : Event → Prop
  | .visited id _ _ enclosing _ => chain <:+ enclosing ∧ w.graph.IsWay (id :: enclosing.map (·.id))
  | .exhausted _ => False
  | _ => True

variable {w : Walk σ τ} {s s' : RunState σ τ} {o : Except Error Unit} {chain : List ActiveVisit}
  {enclosing : List ActiveVisit}

theorem Within.of_cons {v : ActiveVisit} {ev : Event} (h : w.Within (v :: chain) ev) :
    w.Within chain ev := by
  cases ev with
  | visited id input cause enclosing loops => exact ⟨(List.suffix_cons v chain).trans h.1, h.2⟩
  | exhausted id => exact h
  | _ => trivial

/-! ### One step of a walk -/

theorem adds_told (h : Told s s') : Adds (w.Within chain) s.journal s'.journal :=
  h.adds fun _ => trivial

theorem adds_recordFailure (id : String) (e : Error) (s : RunState σ τ) :
    Adds (w.Within chain) s.journal (w.recordFailure id e s).journal :=
  adds_told (s := s.onContext _) (told_recordFailure w id e s)

theorem adds_skip (id tag : String) (s : RunState σ τ) :
    Adds (w.Within chain) s.journal (w.skip id tag s).journal := by
  have hskip : Adds (w.Within chain) (.skipped id :: s.journal) (w.skip id tag s).journal :=
    adds_told (told_skip w id tag s)
  exact (Adds.cons trivial _).trans hskip

theorem adds_enter {cause : Cause} {id : String} {input : Json}
    (hw : w.graph.IsWay (id :: enclosing.map (·.id))) (s : RunState σ τ) :
    Adds (w.Within enclosing) s.journal (enter enclosing cause id input s).journal :=
  .cons ⟨List.suffix_refl _, hw⟩ _

theorem adds_invoke {node : Workflow.Node} {h : Handler σ} {input : Json}
    {outcome : Except Error Json} (hi : w.invoke node h input s = (outcome, s')) :
    Adds (w.Within chain) s.journal s'.journal :=
  adds_of_invoke hi (fun _ => trivial) trivial fun _ => trivial

/-! ### A whole walk -/

/-- **Every course stays within the visits under way around it.** -/
theorem Course.within {task : Task} (h : w.Course task s o s') :
    Adds (w.Within task.chain) s.journal s'.journal := by
  induction h with
  | skipped hw hn hr => exact (adds_enter hw _).trans (adds_skip _ _ _)
  | failed hw hn hr hi hc ih =>
    have hrest := ih.mono fun _ => Within.of_cons
    exact (adds_enter hw _).trans ((adds_invoke hi).trans ((Adds.cons trivial _).trans hrest))
  | dispatched hw hn hr hi hf hc ih =>
    exact (adds_enter hw _).trans ((adds_invoke hi).trans (ih.mono fun _ => Within.of_cons))
  | tooDeep hw hn hr hi hf hd hc ih =>
    have hrest := ih.mono fun _ => Within.of_cons
    exact (adds_enter hw _).trans ((adds_invoke hi).trans ((Adds.cons trivial _).trans hrest))
  | looped hw hn hr hi hf hd hc ih =>
    have hrest := ih.mono fun _ => Within.of_cons
    exact (adds_enter hw _).trans ((adds_invoke hi).trans ((Adds.cons trivial _).trans hrest))
  | recovered hr hc ih => exact (adds_recordFailure _ _ _).trans ih
  | unrecovered hr => exact adds_recordFailure _ _ _
  | sweepNil => exact .refl _
  | sweepStop hc ih => exact ih
  | sweepNext hc hn ih ihn => exact ih.trans ihn
  | passesNil => exact .refl _
  | passesStop i hleft hc ih => exact ih
  | passesNext i hleft hc hn ih ihn => exact Adds.trans ih ihn

end Walk

end FlowGraph
