import FlowGraph.Proofs.Run.Provenance
import FlowGraph.Proofs.Walk.Moments

/-! # Visits of error handlers

An error handler stands among the children of a node like any other, but only a failure of the node
goes to it: whatever the node does with its output, it selects among its other children. A node that
fails visits no child before the handler, and none after it.

* `Hosts` is an event inside a visit under way, with the children that the visit may visit itself;
  `Course.hosts` says which these are.
* `Placed` is what there is to say of a visit: how it came about if its node is an error handler,
  and that error handlers have no siblings in a visit. `Arranged` is what a task needs for it, and
  what it passes on to the tasks inside; `Course.recoveries` says that every visit has its place. -/

namespace FlowGraph

variable {σ τ : Type}

theorem Graph.isErrorHandler_of_mem_flowChildren {g : Graph} {s : EngineSettings} {c p : String}
    (h : c ∈ g.flowChildren s p) : g.isErrorHandler s c = false := by
  have hflow : (g.node? c).any (fun n => !s.isErrorHandler n.tag) = true := (List.mem_filter.mp h).2
  cases hn : g.node? c with
  | none =>
    rw [hn] at hflow
    cases hflow
  | some n =>
    rw [hn] at hflow
    simpa [Graph.isErrorHandler, hn] using hflow

/-! ### The children of a visit -/

/-- **An event inside visits under way**: the innermost of them visits itself only some nodes. -/
def Hosts (chain : List ActiveVisit) (ids : List String) : Event → Prop
  | .visited id _ _ enclosing _ => chain <:+ enclosing ∧ (enclosing = chain → id ∈ ids)
  | _ => True

theorem Hosts.mono {chain : List ActiveVisit} {ids ids' : List String} {ev : Event}
    (h : Hosts chain ids ev) (hids : ids ⊆ ids') : Hosts chain ids' ev := by
  cases ev with
  | visited id input cause enclosing loops => exact ⟨h.1, fun heq => hids (h.2 heq)⟩
  | _ => trivial

/-- What a child of a visit visits is no child of the visit. -/
theorem Hosts.of_cons {v : ActiveVisit} {chain : List ActiveVisit} {ids ids' : List String}
    {ev : Event} (h : Hosts (v :: chain) ids ev) : Hosts chain ids' ev := by
  cases ev with
  | visited id input cause enclosing loops =>
    refine ⟨(List.suffix_cons v chain).trans h.1, fun heq => ?_⟩
    have hlen := h.1.length_le
    rw [heq, List.length_cons] at hlen
    omega
  | _ => trivial

theorem Hosts.inside {chain : List ActiveVisit} {ids : List String} {ev : Event}
    (h : Hosts chain ids ev) : Inside chain ev := by
  cases ev with
  | visited id input cause enclosing loops => exact h.1
  | _ => trivial

namespace Walk

variable {w : Walk σ τ} {s s' s₁ : RunState σ τ} {o : Except Error Unit}

/-- The nodes that a task visits itself. -/
def own (w : Walk σ τ) : Task → List String
  | .visit _ _ id _ => [id]
  | .recover v _ _ => (w.recovery? v.id).toList
  | .sweep _ _ _ ids => ids
  | .passes v _ _ _ => w.flowChildren v.id

section

variable {chain enclosing : List ActiveVisit} {ids : List String} {cause : Cause} {id : String}
  {input : Json} {node : Workflow.Node} {h : Handler σ}

theorem hosts_of_cons {v : ActiveVisit} {ids' : List String} {j j' : List Event}
    (h : Adds (Hosts (v :: chain) ids) j j') : Adds (Hosts chain ids') j j' :=
  h.mono fun _ => Hosts.of_cons

theorem hosts_told (ht : Told s s') : Adds (Hosts chain ids) s.journal s'.journal :=
  ht.adds fun _ => trivial

theorem hosts_skip (id tag : String) (s : RunState σ τ) :
    Adds (Hosts chain ids) s.journal (w.skip id tag s).journal := by
  have hskip : Adds (Hosts chain ids) (.skipped id :: s.journal) (w.skip id tag s).journal :=
    hosts_told (told_skip w id tag s)
  exact (Adds.cons trivial _).trans hskip

theorem hosts_enter (s : RunState σ τ) :
    Adds (Hosts enclosing [id]) s.journal (enter enclosing cause id input s).journal :=
  .cons ⟨List.suffix_refl _, fun _ => List.mem_singleton_self id⟩ _

theorem hosts_invoke {outcome : Except Error Json} (hi : w.invoke node h input s = (outcome, s')) :
    Adds (Hosts chain ids) s.journal s'.journal :=
  adds_of_invoke hi (fun _ => trivial) trivial fun _ => trivial

/-- The start of a visit and the call of its handler. -/
theorem hosts_call {outcome : Except Error Json}
    (hi : w.invoke node h input (enter enclosing cause id input s) = (outcome, s')) :
    Adds (Hosts enclosing [id]) s.journal s'.journal :=
  (hosts_enter s).trans (hosts_invoke hi)

end

/-- **A task visits itself only its own nodes**, and everything else inside them. -/
theorem Course.hosts {task : Task} (h : w.Course task s o s') :
    Adds (Hosts task.chain (w.own task)) s.journal s'.journal := by
  induction h with
  | skipped hw hn hr => exact (hosts_enter _).trans (hosts_skip _ _ _)
  | failed hw hn hr hi hc ih =>
    exact (hosts_call hi).trans ((Adds.cons (by trivial) _).trans (hosts_of_cons ih))
  | dispatched hw hn hr hi hf hc ih => exact (hosts_call hi).trans (hosts_of_cons ih)
  | tooDeep hw hn hr hi hf hd hc ih =>
    exact (hosts_call hi).trans ((Adds.cons (by trivial) _).trans (hosts_of_cons ih))
  | looped hw hn hr hi hf hd hc ih =>
    exact (hosts_call hi).trans ((Adds.cons (by trivial) _).trans (hosts_of_cons ih))
  | @recovered v enclosing e s handler o s' hr hc ih =>
    have hrecorded : Adds (Hosts (v :: enclosing) (w.own (.recover v enclosing e))) s.journal
        (w.recordFailure v.id e s).journal :=
      hosts_told (s := s.onContext _) (told_recordFailure w v.id e s)
    refine hrecorded.trans (ih.mono fun _ hev => hev.mono ?_)
    simp [own, hr]
  | @unrecovered v enclosing e s hr =>
    exact hosts_told (s := s.onContext _) (told_recordFailure w v.id e s)
  | sweepNil => exact .refl _
  | sweepStop hc ih => exact ih.mono fun _ hev => hev.mono (by simp [own])
  | sweepNext hc hn ih ihn =>
    refine (ih.mono fun _ hev => hev.mono ?_).trans (ihn.mono fun _ hev => hev.mono ?_)
    · simp [own]
    · exact List.subset_cons_self _ _
  | passesNil => exact .refl _
  | passesStop i hleft hc ih => exact ih
  | passesNext i hleft hc hn ih ihn => exact Adds.trans ih ihn

end Walk

/-! ### Where an error handler is visited -/

/-- A list that is split at two elements has one of them before the other. -/
theorem mem_or_mem_of_splits {α : Type} {a b : α} : ∀ {xs ys zs ws : List α},
    xs ++ a :: ys = zs ++ b :: ws → b ∈ xs ∨ a ∈ zs ∨ a = b
  | [], _, [], _, h => Or.inr (Or.inr (List.cons.inj h).1)
  | [], _, z :: zs, _, h => by simp [(List.cons.inj h).1]
  | x :: xs, _, [], _, h => by simp [(List.cons.inj h).1]
  | x :: xs, _, z :: zs, _, h => by
    rcases mem_or_mem_of_splits (List.cons.inj h).2 with hb | ha | hab
    · exact Or.inl (List.mem_cons_of_mem _ hb)
    · exact Or.inr (Or.inl (List.mem_cons_of_mem _ ha))
    · exact Or.inr (Or.inr hab)

/-- **A visit under way that has visited nothing itself but nodes of which `P` holds.** -/
def HasVisited (P : String → Prop) (v : ActiveVisit) (enclosing : List ActiveVisit)
    (before : List Event) : Prop :=
  ∃ since, UnderWay v enclosing since before ∧
    ∀ id input cause loops, .visited id input cause (v :: enclosing) loops ∈ since → P id

/-- **A visit that has just failed and has visited nothing.** -/
structure Failing (v : ActiveVisit) (enclosing : List ActiveVisit) (e : Error)
    (before : List Event) : Prop where
  marked : ∃ (rs : List Report) (mark : Event) (earlier : List Event),
    Walk.IsMark mark v.id e ∧ before = rs.map .reported ++ mark :: earlier
  childless : HasVisited (fun _ => False) v enclosing before

section

variable {P Q : String → Prop} {v : ActiveVisit} {enclosing : List ActiveVisit}
  {before before' : List Event}

theorem HasVisited.mono (h : HasVisited P v enclosing before) (hPQ : ∀ id, P id → Q id) :
    HasVisited Q v enclosing before := by
  obtain ⟨since, hunder, hall⟩ := h
  exact ⟨since, hunder, fun id input cause loops hmem => hPQ id (hall id input cause loops hmem)⟩

theorem HasVisited.adds {ids : List String} (h : HasVisited P v enclosing before)
    (hadds : Adds (Hosts (v :: enclosing) ids) before before') (hids : ∀ id ∈ ids, P id) :
    HasVisited P v enclosing before' := by
  obtain ⟨since, hunder, hall⟩ := h
  obtain ⟨new, rfl, hnew⟩ := hadds
  refine ⟨new ++ since, hunder.append fun ev hev => (hnew ev hev).inside, ?_⟩
  intro id input cause loops hmem
  rcases List.mem_append.mp hmem with hmem | hmem
  · exact hids id ((hnew _ hmem).2 rfl)
  · exact hall id input cause loops hmem

/-- What happens without a visit adds nothing that is visited. -/
theorem HasVisited.quiet (h : HasVisited P v enclosing before)
    (hadds : Adds (fun ev => ev.visited? = none) before before') :
    HasVisited P v enclosing before' := by
  have hhosts : Adds (Hosts (v :: enclosing) []) before before' :=
    hadds.mono fun ev hev => by cases ev <;> trivial
  exact h.adds hhosts (by simp)

theorem Failing.reports {e : Error} (h : Failing v enclosing e before) (rs : List Report) :
    Failing v enclosing e (rs.map .reported ++ before) where
  marked := by
    obtain ⟨rs', mark, earlier, hmark, rfl⟩ := h.marked
    exact ⟨rs ++ rs', mark, earlier, hmark, by simp⟩
  childless := h.childless.quiet ⟨_, rfl, List.forall_mem_map.mpr fun _ _ => rfl⟩

/-- **Two visits by one visit**: what was visited by a visit that is still under way was visited
since its start. -/
theorem HasVisited.of_sibling (h : HasVisited P v enclosing before) {mid early : List Event}
    {id : String} {input : Json} {cause : Cause} {loops : List LoopFrame}
    (heq : before = mid ++ .visited id input cause (v :: enclosing) loops :: early)
    (hmid : ∀ ev ∈ mid, Inside (v :: enclosing) ev) : P id := by
  obtain ⟨since, hunder, hall⟩ := h
  obtain ⟨vinput, vloops, earlier, hstart⟩ := hunder.started
  rcases mem_or_mem_of_splits (hstart.symm.trans heq) with hmem | hmem | hsame
  · exact hall id input cause loops hmem
  · -- the start of the visit would lie inside the visit
    have hlen := (show (v :: enclosing) <:+ enclosing from hmid _ hmem).length_le
    rw [List.length_cons] at hlen
    omega
  · have hlen := congrArg List.length (Event.visited.inj hsame).2.2.2.1
    simp at hlen

end

/-- **How an error handler comes to be visited**: it is the first trigger and the run starts with
it, or a visit fails that has visited nothing, and it is the first error handler among the children
of the node that failed. -/
inductive Recovers (g : Graph) (s : EngineSettings) :
    String → Json → Cause → List ActiveVisit → List Event → Prop where
  | start {id input before} (ht : (g.triggers s).head? = some id) (h : visits before = []) :
    Recovers g s id input .start [] before
  | failure {id p enclosing e before}
    (hc : (g.children p.id).find? (g.isErrorHandler s) = some id)
    (hf : Failing p enclosing e before) :
    Recovers g s id (Walk.failureInput p.id e) (.failure p.id) (p :: enclosing) before

/-- **The place of a visit**, after what happened before: a failure goes to it if its node is an
error handler, and neither the node nor any other that the same visit has visited before is one, if
there is such another. -/
structure Placed (g : Graph) (s : EngineSettings) (id : String) (input : Json) (cause : Cause)
    (enclosing : List ActiveVisit) (before : List Event) : Prop where
  recovers : g.isErrorHandler s id → Recovers g s id input cause enclosing before
  alone : ∀ mid sibling v c loops early,
    before = mid ++ .visited sibling v c enclosing loops :: early →
    (∀ ev ∈ mid, Inside enclosing ev) →
    g.isErrorHandler s id = false ∧ g.isErrorHandler s sibling = false

/-- What is said of an event: a visit has its place. -/
def Places (g : Graph) (s : EngineSettings) (_ : List Event) (ev : Event) (before : List Event) :
    Prop :=
  match ev with
  | .visited id input cause enclosing _ => Placed g s id input cause enclosing before
  | _ => True

theorem lasting_places (g : Graph) (s : EngineSettings) : Lasting (Places g s) := fun _ _ _ _ h => h

section

variable {g : Graph} {s : EngineSettings} {id : String} {v : ActiveVisit}
  {enclosing : List ActiveVisit} {before : List Event}

/-- The place of a child that a visit goes on to. -/
theorem placed_flow (hid : g.isErrorHandler s id = false)
    (h : HasVisited (fun id => g.isErrorHandler s id = false) v enclosing before) (input : Json)
    (cause : Cause) : Placed g s id input cause (v :: enclosing) before where
  recovers hhandler := by
    rw [hid] at hhandler
    cases hhandler
  alone _ _ _ _ _ _ heq hmid := ⟨hid, h.of_sibling heq hmid⟩

/-- The place of the error handler of a node that failed. -/
theorem placed_recovery {e : Error} (hc : (g.children v.id).find? (g.isErrorHandler s) = some id)
    (hf : Failing v enclosing e before) :
    Placed g s id (Walk.failureInput v.id e) (.failure v.id) (v :: enclosing) before where
  recovers _ := .failure hc hf
  alone _ _ _ _ _ _ heq hmid := (hf.childless.of_sibling heq hmid).elim

/-- The place of the first visit. -/
theorem placed_start (ht : (g.triggers s).head? = some id) (h : visits before = [])
    (input : Json) : Placed g s id input .start [] before where
  recovers _ := .start ht h
  alone mid sibling v c loops early heq _ := by
    have hmem : sibling ∈ visits before := by
      refine mem_visits.mpr ⟨.visited sibling v c [] loops, ?_, rfl⟩
      rw [heq]
      simp
    rw [h] at hmem
    cases hmem

end

namespace Walk

variable {w : Walk σ τ} {s s' s₁ : RunState σ τ} {o : Except Error Unit}

/-- What is said of the visits of a walk. -/
abbrev placesIn (w : Walk σ τ) : List Event → Event → List Event → Prop :=
  Places w.graph w.settings

/-- A visit under way that has visited no error handler itself. -/
def GoesOn (w : Walk σ τ) (v : ActiveVisit) (enclosing : List ActiveVisit) (before : List Event) :
    Prop :=
  HasVisited (fun id => w.graph.isErrorHandler w.settings id = false) v enclosing before

/-- What a task needs: the visits to come have their places. -/
def Arranged (w : Walk σ τ) (task : Task) (s : RunState σ τ) : Prop :=
  match task with
  | .visit enclosing cause id input =>
    Placed w.graph w.settings id input cause enclosing s.journal
  | .recover v enclosing e => Failing v enclosing e s.journal
  | .sweep chain _ _ ids => ∃ v enclosing, chain = v :: enclosing ∧
    w.GoesOn v enclosing s.journal ∧ ∀ id ∈ ids, w.graph.isErrorHandler w.settings id = false
  | .passes v enclosing _ _ => w.GoesOn v enclosing s.journal

theorem ofVisits_places (w : Walk σ τ) : OfVisits w.placesIn where
  lasting := lasting_places _ _
  quiet after ev before hev := by
    cases ev with
    | visited _ _ _ _ _ => cases hev
    | _ => trivial

/-! ### One step of a walk -/

section

variable {enclosing : List ActiveVisit} {cause : Cause} {id : String} {input : Json}
  {node : Workflow.Node} {h : Handler σ}

theorem childless_enter (enclosing : List ActiveVisit) (cause : Cause) (id : String) (input : Json)
    (s : RunState σ τ) : HasVisited (fun _ => False) ⟨id, cause⟩ enclosing
      (enter enclosing cause id input s).journal :=
  ⟨[], ⟨⟨input, s.context.loops, s.journal, rfl⟩, by simp⟩, by simp⟩

theorem childless_call {outcome : Except Error Json}
    (hi : w.invoke node h input (enter enclosing cause id input s) = (outcome, s₁)) :
    HasVisited (fun _ => False) ⟨id, cause⟩ enclosing s₁.journal :=
  (childless_enter enclosing cause id input s).quiet (unvisited_invoke hi)

theorem goesOn_call {outcome : Except Error Json}
    (hi : w.invoke node h input (enter enclosing cause id input s) = (outcome, s₁)) :
    w.GoesOn ⟨id, cause⟩ enclosing s₁.journal :=
  (childless_call hi).mono fun _ => False.elim

/-- A visit that has visited nothing fails. -/
theorem failing_note {e : Error} {mark : Event} (hmark : IsMark mark id e)
    (hchildless : HasVisited (fun _ => False) ⟨id, cause⟩ enclosing s₁.journal) :
    Failing ⟨id, cause⟩ enclosing e (s₁.note mark).journal where
  marked := ⟨[], mark, s₁.journal, hmark, rfl⟩
  childless := hchildless.quiet (unvisited_note s₁ mark (by rcases hmark with rfl | rfl <;> rfl))

theorem arranged_sweep {v : ActiveVisit} {ids : List String} (h : w.GoesOn v enclosing s.journal)
    (hids : ids ⊆ w.flowChildren v.id) : w.Arranged (.sweep (v :: enclosing) cause input ids) s :=
  ⟨v, enclosing, rfl, h, fun _ hid => Graph.isErrorHandler_of_mem_flowChildren (hids hid)⟩

end

/-- What is needed is passed on to the tasks inside. -/
theorem Includes.arranged {task task' : Task} (h : w.Includes task s task' s')
    (hready : w.Arranged task s) : w.Arranged task' s' := by
  cases h with
  | failed hn hr hi => exact failing_note (Or.inl rfl) (childless_call hi)
  | dispatched hn hr hi hf =>
    exact arranged_sweep (goesOn_call hi) (w.selected_subset_flowChildren _ _ _)
  | tooDeep hn hr hi hf hd => exact failing_note (Or.inr rfl) (childless_call hi)
  | looped hn hr hi hf hd => exact HasVisited.quiet (goesOn_call hi) (unvisited_enterLoop ..)
  | @recovered v enclosing e s handler hr =>
    obtain ⟨rs, hj⟩ := (told_recordFailure w v.id e s).journal
    have hfailing : Failing v enclosing e (w.recordFailure v.id e s).journal :=
      hj ▸ Failing.reports hready rs
    exact placed_recovery hr hfailing
  | sweepFirst =>
    obtain ⟨v, enclosing, rfl, hvisited, hids⟩ := hready
    exact placed_flow (hids _ List.mem_cons_self) hvisited _ _
  | sweepRest hc =>
    obtain ⟨v, enclosing, rfl, hvisited, hids⟩ := hready
    have hfirst := hids _ List.mem_cons_self
    exact ⟨v, enclosing, rfl,
      hvisited.adds hc.hosts fun id hid => List.mem_singleton.mp hid ▸ hfirst,
      fun id hid => hids id (List.mem_cons_of_mem _ hid)⟩
  | passesFirst i hleft => exact arranged_sweep hready (List.Subset.refl _)
  | passesRest i hleft hc =>
    exact HasVisited.adds hready hc.hosts fun _ => Graph.isErrorHandler_of_mem_flowChildren

/-- **In every course each visit has its place.** -/
theorem Course.recoveries {task : Task} (h : w.Course task s o s') :
    w.Arranged task s → Stretch w.placesIn s.journal s'.journal :=
  w.ofVisits_places.course (fun _ _ _ _ _ hplaced => hplaced) (fun hinside => hinside.arranged) h

end Walk

end FlowGraph
