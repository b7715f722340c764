import FlowGraph.Proofs.Run.Start
import FlowGraph.Proofs.Walk.Within

/-! # The span of a visit

A journal is an outline: a visit is as deep as there are visits under way around it, and what
belongs to it comes right after it, up to the next visit that is no deeper (`span`). So the journal
alone tells which nodes a visit went on to itself: they are visited one level deeper in its span.

* `Course.onAgenda`: the nodes that a task visits itself are what is on its agenda, in this order,
  up to the first failure.
* `Course.outlined`: every visit in the journal follows its course, and what the course writes down
  is the span of the visit but for events that visit nothing (`Visiting.span_eq`).
* `Engine.runWith_visit` says the same of the visits of a run. -/

namespace FlowGraph

variable {σ τ : Type}

/-! ### Depths -/

/-- How many visits are under way around a visit. -/
def Event.depth? : Event → Option Nat
  | .visited _ _ _ enclosing _ => some enclosing.length
  | _ => none

/-- Whether an event is no visit, or one more than `n` deep. -/
def Event.isBelow (n : Nat) (ev : Event) : Bool := ev.depth?.all (n < ·)

/-- The node that is visited `n` deep, and what it receives. -/
def Event.handed? (n : Nat) : Event → Option (String × Json)
  | .visited id input _ enclosing _ => if enclosing.length = n then some (id, input) else none
  | _ => none

/-- The nodes that are visited `n` deep, the first one first. -/
def level (n : Nat) (evs : List Event) : List (String × Json) :=
  evs.reverse.filterMap (Event.handed? n)

/-- The depth of the first visit. -/
def firstDepth? (evs : List Event) : Option Nat := evs.reverse.findSome? Event.depth?

/-- **The span of a visit** `n` deep: of all that came after it, what came before the next visit
that is no deeper. -/
def span (n : Nat) (after : List Event) : List Event :=
  (after.reverse.takeWhile (Event.isBelow n)).reverse

/-- The nodes that a visit `n` deep goes on to itself, with what it hands to each of them. -/
def handedOn (n : Nat) (after : List Event) : List (String × Json) := level (n + 1) (span n after)

variable {n : Nat} {evs later own : List Event}

theorem level_append (n : Nat) (later evs : List Event) :
    level n (later ++ evs) = level n evs ++ level n later := by
  simp [level]

theorem level_eq_nil (h : ∀ ev ∈ evs, ev.handed? n = none) : level n evs = [] :=
  List.filterMap_eq_nil_iff.mpr fun ev hev => h ev (List.mem_reverse.mp hev)

theorem handed?_of_depth? {ev : Event} (h : ev.depth? ≠ some n) : ev.handed? n = none := by
  cases ev with
  | visited id input cause enclosing loops => exact if_neg fun heq => h (congrArg some heq)
  | _ => rfl

theorem firstDepth?_append (later evs : List Event) :
    firstDepth? (later ++ evs) = (firstDepth? evs).or (firstDepth? later) := by
  simp [firstDepth?]

theorem firstDepth?_eq_none (h : ∀ ev ∈ evs, ev.depth? = none) : firstDepth? evs = none :=
  List.findSome?_eq_none_iff.mpr fun ev hev => h ev (List.mem_reverse.mp hev)

theorem depth?_reports (rs : List Report) : ∀ ev ∈ rs.map Event.reported, ev.depth? = none :=
  List.forall_mem_map.mpr fun _ _ => rfl

/-- Before the next visit that is no deeper there is no visit, if the next one of all is. -/
theorem depth?_of_mem_takeWhile : ∀ {evs : List Event},
    (∀ d, evs.findSome? Event.depth? = some d → d ≤ n) →
      ∀ ev ∈ evs.takeWhile (Event.isBelow n), ev.depth? = none
  | [], _, ev, hev => by cases hev
  | x :: rest, h, ev, hev => by
    cases hx : x.depth? with
    | none =>
      rw [List.takeWhile_cons_of_pos (by simp [Event.isBelow, hx])] at hev
      rcases List.mem_cons.mp hev with rfl | hev
      · exact hx
      · exact depth?_of_mem_takeWhile (fun d hd => h d (by simpa [hx] using hd)) ev hev
    | some d =>
      have hd : d ≤ n := h d (by simp [hx])
      rw [List.takeWhile_cons_of_neg (by simpa [Event.isBelow, hx] using hd)] at hev
      cases hev

/-- What belongs to a visit is in its span, and no other visit is. -/
theorem span_append (hown : ∀ ev ∈ own, ev.isBelow n)
    (hlater : ∀ d, firstDepth? later = some d → d ≤ n) :
    ∃ rest, span n (later ++ own) = rest ++ own ∧ ∀ ev ∈ rest, ev.depth? = none := by
  refine ⟨span n later, ?_, fun ev hev => ?_⟩
  · unfold span
    rw [List.reverse_append, List.takeWhile_append_of_pos fun ev hev =>
      hown ev (List.mem_reverse.mp hev), List.reverse_append, List.reverse_reverse]
  · exact depth?_of_mem_takeWhile hlater ev (List.mem_reverse.mp hev)

namespace Walk

variable {w : Walk σ τ} {s s' : RunState σ τ} {o : Except Error Unit} {chain : List ActiveVisit}
  {enclosing : List ActiveVisit} {cause : Cause} {id : String} {input : Json}

theorem Within.length_le {ev : Event} (h : w.Within chain ev) {d : Nat} (hd : ev.depth? = some d) :
    chain.length ≤ d := by
  cases ev with
  | visited id input cause enclosing loops =>
    cases hd
    exact h.1.length_le
  | _ => cases hd

theorem Within.isBelow {v : ActiveVisit} {ev : Event} (h : w.Within (v :: chain) ev) :
    ev.isBelow chain.length := by
  cases ev with
  | visited id input cause enclosing loops =>
    have hlt : chain.length < enclosing.length := h.length_le rfl
    simpa [Event.isBelow, Event.depth?] using hlt
  | _ => rfl

/-- What a visit writes down lies inside it. -/
theorem Course.within_visit (h : w.Course (.visit enclosing cause id input) s o s') :
    Adds (w.Within (⟨id, cause⟩ :: enclosing))
      (.visited id input cause enclosing s.context.loops :: s.journal) s'.journal := by
  cases h with
  | skipped hw hn hr => exact adds_skip _ _ (enter ..)
  | failed hw hn hr hi hc => exact (adds_invoke hi).trans ((Adds.cons trivial _).trans hc.within)
  | dispatched hw hn hr hi hf hc => exact (adds_invoke hi).trans hc.within
  | tooDeep hw hn hr hi hf hd hc =>
    exact (adds_invoke hi).trans ((Adds.cons trivial _).trans hc.within)
  | looped hw hn hr hi hf hd hc =>
    exact (adds_invoke hi).trans ((Adds.cons trivial _).trans hc.within)

theorem Within.level_eq_nil (h : ∀ ev ∈ evs, w.Within chain ev) (hn : n < chain.length) :
    level n evs = [] := by
  refine FlowGraph.level_eq_nil fun ev hev => handed?_of_depth? fun hd => ?_
  have hle := (h ev hev).length_le hd
  omega

/-! ### What a task visits itself -/

/-- **The agenda of a task**: the nodes that it visits itself, if nothing fails. -/
def agenda (w : Walk σ τ) : Task → List (String × Json)
  | .visit _ _ id input => [(id, input)]
  | .recover v _ e => (w.recovery? v.id).toList.map fun c => (c, failureInput v.id e)
  | .sweep _ _ input ids => ids.map fun c => (c, input)
  | .passes v _ output left =>
    (List.range' (passCount output - left) left).flatMap fun i =>
      (w.flowChildren v.id).map fun c =>
        (c, passInput output i (passCount output) (passItem? output i))

/-- The nodes that a task has visited are on its agenda up to some point, and that is its end unless
something failed. -/
structure OnAgenda (w : Walk σ τ) (task : Task) (o : Except Error Unit)
    (done : List (String × Json)) : Prop where
  isPrefix : done <+: w.agenda task
  complete : o = .ok () → done = w.agenda task

theorem onAgenda_all {task : Task} (o : Except Error Unit) : w.OnAgenda task o (w.agenda task) :=
  ⟨List.prefix_refl _, fun _ => rfl⟩

theorem level_visit (h : w.Course (.visit enclosing cause id input) s o s')
    (hevs : s'.journal = evs ++ s.journal) : level enclosing.length evs = [(id, input)] := by
  obtain ⟨own, hown, hall⟩ := h.within_visit
  obtain rfl : evs = own ++ [.visited id input cause enclosing s.context.loops] :=
    List.append_cancel_right (hevs.symm.trans (hown.trans (by simp)))
  rw [level_append, Within.level_eq_nil hall (by simp)]
  simp [level, Event.handed?]

theorem agenda_passes {v : ActiveVisit} {output : Json} {i left : Nat}
    (hleft : i + (left + 1) = passCount output) :
    w.agenda (.passes v enclosing output (left + 1)) =
      w.agenda (.sweep (v :: enclosing) (.pass v.id i)
        (passInput output i (passCount output) (passItem? output i)) (w.flowChildren v.id)) ++
      w.agenda (.passes v enclosing output left) := by
  have hfirst : passCount output - (left + 1) = i := by omega
  have hrest : passCount output - left = i + 1 := by omega
  simp only [agenda, hfirst, hrest, List.range'_succ, List.flatMap_cons]

/-- What was done before a failure, after all of another agenda. -/
theorem OnAgenda.append {task task₁ task₂ : Task} {done : List (String × Json)}
    (hagenda : w.agenda task = w.agenda task₁ ++ w.agenda task₂) (h : w.OnAgenda task₂ o done) :
    w.OnAgenda task o (w.agenda task₁ ++ done) where
  isPrefix := hagenda ▸ (List.prefix_append_right_inj _).mpr h.isPrefix
  complete ho := by rw [hagenda, h.complete ho]

/-- **A task keeps to its agenda.** -/
theorem Course.onAgenda {task : Task} (h : w.Course task s o s') :
    ∀ evs, s'.journal = evs ++ s.journal →
      w.OnAgenda task o (level task.chain.length evs) := by
  induction h with
  | skipped hw hn hr =>
    intro evs hevs
    exact level_visit (.skipped hw hn hr) hevs ▸ onAgenda_all _
  | failed hw hn hr hi hc ih =>
    intro evs hevs
    exact level_visit (.failed hw hn hr hi hc) hevs ▸ onAgenda_all _
  | dispatched hw hn hr hi hf hc ih =>
    intro evs hevs
    exact level_visit (.dispatched hw hn hr hi hf hc) hevs ▸ onAgenda_all _
  | tooDeep hw hn hr hi hf hd hc ih =>
    intro evs hevs
    exact level_visit (.tooDeep hw hn hr hi hf hd hc) hevs ▸ onAgenda_all _
  | looped hw hn hr hi hf hd hc ih =>
    intro evs hevs
    exact level_visit (.looped hw hn hr hi hf hd hc) hevs ▸ onAgenda_all _
  | @recovered v enclosing e s handler o s' hr hc ih =>
    intro evs hevs
    obtain ⟨rs, hrs⟩ := (told_recordFailure w v.id e s).journal
    obtain ⟨own, hown⟩ := hc.suffix
    obtain rfl : evs = own ++ rs.map .reported :=
      List.append_cancel_right (hevs.symm.trans (by rw [← hown, hrs, List.append_assoc]; rfl))
    have hagenda : w.agenda (.recover v enclosing e) = [(handler, failureInput v.id e)] := by
      simp [agenda, hr]
    have hlevel : level (v :: enclosing).length (own ++ rs.map .reported) =
        [(handler, failureInput v.id e)] := by
      rw [level_append, level_visit hc hown.symm,
        level_eq_nil fun ev hev => handed?_of_depth? (by simp [depth?_reports rs ev hev])]
      rfl
    change w.OnAgenda _ o (level (v :: enclosing).length _)
    rw [hlevel, ← hagenda]
    exact onAgenda_all _
  | @unrecovered v enclosing e s hr =>
    intro evs hevs
    obtain ⟨rs, hrs⟩ := (told_recordFailure w v.id e s).journal
    obtain rfl : evs = rs.map .reported := List.append_cancel_right (hevs.symm.trans hrs)
    have hagenda : w.agenda (.recover v enclosing e) = [] := by simp [agenda, hr]
    rw [level_eq_nil fun ev hev => handed?_of_depth? (by simp [depth?_reports rs ev hev]),
      ← hagenda]
    exact onAgenda_all _
  | sweepNil =>
    intro evs hevs
    obtain rfl : evs = [] := by simpa using hevs
    exact onAgenda_all _
  | @sweepStop chain cause input id rest s e s' hc ih =>
    intro evs hevs
    change w.OnAgenda _ _ (level chain.length evs)
    rw [level_visit hc hevs]
    exact ⟨⟨rest.map fun c => (c, input), rfl⟩, fun ho => by cases ho⟩
  | @sweepNext chain cause input id rest s s₁ o s' hc hn ih ihn =>
    intro evs hevs
    obtain ⟨evs₁, h₁⟩ := hc.suffix
    obtain ⟨evs₂, h₂⟩ := hn.suffix
    obtain rfl : evs = evs₂ ++ evs₁ :=
      List.append_cancel_right (hevs.symm.trans (by rw [← h₂, ← h₁, List.append_assoc]))
    have hdone : level chain.length evs₁ = _ := (ih evs₁ h₁.symm).complete rfl
    change w.OnAgenda _ o (level chain.length _)
    rw [level_append, hdone]
    exact (ihn evs₂ h₂.symm).append rfl
  | passesNil =>
    intro evs hevs
    obtain rfl : evs = [] := by simpa using hevs
    exact onAgenda_all _
  | @passesStop v enclosing output left s e s' i hleft hc ih =>
    intro evs hevs
    refine ⟨?_, fun ho => by cases ho⟩
    rw [agenda_passes hleft]
    exact (ih evs hevs).isPrefix.trans (List.prefix_append _ _)
  | @passesNext v enclosing output left s s₁ o s' i hleft hc hn ih ihn =>
    intro evs hevs
    obtain ⟨evs₁, h₁⟩ := hc.suffix
    obtain ⟨evs₂, h₂⟩ := hn.suffix
    obtain rfl : evs = evs₂ ++ evs₁ :=
      List.append_cancel_right (hevs.symm.trans (by rw [← h₂, ← h₁, List.append_assoc]; rfl))
    have hdone : level (v :: enclosing).length evs₁ = _ := (ih evs₁ h₁.symm).complete rfl
    change w.OnAgenda _ o (level (v :: enclosing).length _)
    rw [level_append, hdone]
    exact (ihn evs₂ h₂.symm).append (agenda_passes hleft)

/-! ### Every visit has its span -/

/-- **A visit in a journal**, with all that came after it and before it, and its course: `own` is
what the course has written down, and the next visit after that is no deeper. -/
structure Visiting (w : Walk σ τ) (enclosing : List ActiveVisit) (cause : Cause) (id : String)
    (input : Json) (after before own : List Event) (s : RunState σ τ) (o : Except Error Unit)
    (s' : RunState σ τ) : Prop where
  course : w.Course (.visit enclosing cause id input) s o s'
  start_journal : s.journal = before
  end_journal : s'.journal = own ++ .visited id input cause enclosing s.context.loops :: before
  after_eq : ∃ later, after = later ++ own ∧
    ∀ d, firstDepth? later = some d → d ≤ enclosing.length

/-- An event that is a visit follows its course. -/
def Begins (w : Walk σ τ) (after : List Event) (ev : Event) (before : List Event) : Prop :=
  ∀ id input cause enclosing loops, ev = .visited id input cause enclosing loops →
    ∃ own s o s', s.context.loops = loops ∧
      w.Visiting enclosing cause id input after before own s o s'

section

variable {after before : List Event}
  (h : w.Visiting enclosing cause id input after before own s o s')
include h

/-- What a visit writes down is what the journal has after it at its end. -/
theorem Visiting.eq_own
    (hevs : s'.journal = evs ++ .visited id input cause enclosing s.context.loops :: before) :
    evs = own :=
  List.append_cancel_right (hevs.symm.trans h.end_journal)

theorem Visiting.isBelow : ∀ ev ∈ own, ev.isBelow enclosing.length := by
  obtain ⟨evs, hevs, hall⟩ := h.course.within_visit
  rw [h.start_journal] at hevs
  obtain rfl := h.eq_own hevs
  exact fun ev hev => Within.isBelow (hall ev hev)

theorem Visiting.span_eq : ∃ rest, span enclosing.length after = rest ++ own ∧
    ∀ ev ∈ rest, ev.depth? = none := by
  obtain ⟨later, rfl, hlater⟩ := h.after_eq
  exact span_append h.isBelow hlater

theorem Visiting.mem_span {ev : Event} (hev : ev ∈ own) : ev ∈ span enclosing.length after := by
  obtain ⟨rest, hspan, -⟩ := h.span_eq
  exact hspan ▸ List.mem_append_right _ hev

/-- What a visit hands on, it does after some events that visit nothing. -/
theorem Visiting.handedOn_eq {j : List Event}
    (hquiet : Adds (fun ev => ev.depth? = none)
      (.visited id input cause enclosing s.context.loops :: before) j)
    (hj : s'.journal = evs ++ j) : handedOn enclosing.length after =
      level (enclosing.length + 1) evs := by
  obtain ⟨rest, hspan, hrest⟩ := h.span_eq
  obtain ⟨call, rfl, hcall⟩ := hquiet
  obtain rfl : evs ++ call = own := h.eq_own (hj.trans (List.append_assoc ..).symm)
  have hnone : ∀ {l : List Event}, (∀ ev ∈ l, ev.depth? = none) →
      level (enclosing.length + 1) l = [] :=
    fun hl => level_eq_nil fun ev hev => handed?_of_depth? (by simp [hl ev hev])
  rw [handedOn, hspan, level_append, level_append, hnone hrest, hnone hcall, List.append_nil,
    List.nil_append]

end

theorem Begins.extend {after before : List Event} {ev : Event} (h : w.Begins after ev before)
    (hlater : ∀ d d', firstDepth? later = some d → ev.depth? = some d' → d ≤ d') :
    w.Begins (later ++ after) ev before := by
  rintro id input cause enclosing loops rfl
  obtain ⟨own, s, o, s', hloops, hc, hs, hs', rest, hafter, hrest⟩ := h _ _ _ _ _ rfl
  refine ⟨own, s, o, s', hloops, hc, hs, hs', later ++ rest, by rw [hafter, List.append_assoc], ?_⟩
  intro d hd
  rw [firstDepth?_append] at hd
  rcases Option.or_eq_some_iff.mp hd with hd | ⟨-, hd⟩
  · exact hrest d hd
  · exact hlater d _ hd rfl

/-- **The outline of a stretch**, all of it at least `n` deep and the first visit no deeper: every
visit in it follows its course. -/
structure Outlined (w : Walk σ τ) (n : Nat) (j j' : List Event) : Prop where
  stretch : Stretch
    (fun after ev before => (∀ d, ev.depth? = some d → n ≤ d) ∧ w.Begins after ev before) j j'
  first : ∀ evs, j' = evs ++ j → ∀ d, firstDepth? evs = some d → d ≤ n

theorem outlined_quiet (evs : List Event) (h : ∀ ev ∈ evs, ev.depth? = none) (j : List Event) :
    w.Outlined n j (evs ++ j) where
  stretch := by
    refine Stretch.of_forall evs fun ev hev after before => ⟨by simp [h ev hev], ?_⟩
    rintro id input cause enclosing loops rfl
    cases h _ hev
  first evs' heq d hd := by
    obtain rfl := List.append_cancel_right heq
    rw [firstDepth?_eq_none h] at hd
    cases hd

theorem Outlined.trans {j j' j'' : List Event} (h : w.Outlined n j j') (h' : w.Outlined n j' j'') :
    w.Outlined n j j'' where
  stretch := by
    obtain ⟨evs, rfl, -⟩ := id h'.stretch
    refine Stretch.extend (fun after ev before hev => ⟨hev.1, ?_⟩) h.stretch h'.stretch
    exact Begins.extend hev.2 fun d d' hd hd' => (h'.first evs rfl d hd).trans (hev.1 d' hd')
  first evs heq d hd := by
    obtain ⟨evs₁, rfl, -⟩ := h.stretch
    obtain ⟨evs₂, rfl, -⟩ := h'.stretch
    obtain rfl : evs = evs₂ ++ evs₁ :=
      List.append_cancel_right (heq.symm.trans (List.append_assoc ..).symm)
    rw [firstDepth?_append] at hd
    rcases Option.or_eq_some_iff.mp hd with hd | ⟨-, hd⟩
    · exact h.first evs₁ rfl d hd
    · exact h'.first evs₂ rfl d hd

theorem outlined_told (h : Told s s') : w.Outlined n s.journal s'.journal := by
  obtain ⟨rs, hrs⟩ := h.journal
  exact hrs ▸ outlined_quiet _ (depth?_reports rs) _

theorem outlined_note (s : RunState σ τ) {ev : Event} (h : ev.depth? = none) :
    w.Outlined n s.journal (s.note ev).journal :=
  outlined_quiet [ev] (by simpa using h) _

theorem outlined_invoke {node : Workflow.Node} {h : Handler σ} {outcome : Except Error Json}
    (hi : w.invoke node h input s = (outcome, s')) : w.Outlined n s.journal s'.journal := by
  obtain ⟨evs, hevs, hall⟩ : Adds (fun ev => ev.depth? = none) s.journal s'.journal :=
    adds_of_invoke hi (fun _ => rfl) rfl fun _ => rfl
  exact hevs ▸ outlined_quiet evs hall _

/-- A visit follows its course, and all that comes of it is deeper. -/
theorem outlined_visit (hc : w.Course (.visit enclosing cause id input) s o s')
    (h : w.Outlined (enclosing.length + 1)
      (.visited id input cause enclosing s.context.loops :: s.journal) s'.journal) :
    w.Outlined enclosing.length s.journal s'.journal where
  stretch := by
    have hdeeper := h.stretch
    obtain ⟨own, hown, hall⟩ := hdeeper
    refine Stretch.first ⟨own, hown, fun after ev before heq => ?_⟩ fun after hafter => ?_
    · obtain ⟨hdepth, hbegins⟩ := hall after ev before heq
      exact ⟨fun d hd => (Nat.le_succ _).trans (hdepth d hd), hbegins⟩
    · refine ⟨fun d hd => (Option.some.inj hd).le, ?_⟩
      rintro _ _ _ _ _ ⟨⟩
      exact ⟨after, s, o, s', rfl, hc, rfl, hafter, [], rfl, fun d hd => by cases hd⟩
  first evs heq d hd := by
    obtain ⟨own, hown, -⟩ := h.stretch
    obtain rfl : evs = own ++ [.visited id input cause enclosing s.context.loops] :=
      List.append_cancel_right (heq.symm.trans (hown.trans (by simp)))
    rw [firstDepth?_append] at hd
    cases hd
    exact Nat.le_refl _

/-- **Every visit of a walk follows its course.** -/
theorem Course.outlined {task : Task} (h : w.Course task s o s') :
    w.Outlined task.chain.length s.journal s'.journal := by
  induction h with
  | skipped hw hn hr =>
    refine outlined_visit (.skipped hw hn hr) ?_
    exact (outlined_note (enter ..) rfl).trans (outlined_told (told_skip w _ _ _))
  | failed hw hn hr hi hc ih =>
    refine outlined_visit (.failed hw hn hr hi hc) ?_
    exact (outlined_invoke hi).trans ((outlined_note _ rfl).trans ih)
  | dispatched hw hn hr hi hf hc ih =>
    exact outlined_visit (.dispatched hw hn hr hi hf hc) ((outlined_invoke hi).trans ih)
  | tooDeep hw hn hr hi hf hd hc ih =>
    refine outlined_visit (.tooDeep hw hn hr hi hf hd hc) ?_
    exact (outlined_invoke hi).trans ((outlined_note _ rfl).trans ih)
  | looped hw hn hr hi hf hd hc ih =>
    refine outlined_visit (.looped hw hn hr hi hf hd hc) ?_
    exact (outlined_invoke hi).trans ((outlined_note _ rfl).trans ih)
  | recovered hr hc ih =>
    exact (outlined_told (s := RunState.onContext _ _) (told_recordFailure w _ _ _)).trans ih
  | unrecovered hr => exact outlined_told (s := RunState.onContext _ _) (told_recordFailure w _ _ _)
  | sweepNil => exact outlined_quiet [] (by simp) _
  | sweepStop hc ih => exact ih
  | sweepNext hc hn ih ihn => exact ih.trans ihn
  | passesNil => exact outlined_quiet [] (by simp) _
  | passesStop i hleft hc ih => exact ih
  | passesNext i hleft hc hn ih ihn => exact Outlined.trans ih ihn

end Walk

/-! ### The visits of a run -/

/-- **A visit of a run** follows its course in a walk through the graph of the workflow. -/
theorem Engine.runWith_visit {e : Engine σ τ} {nested : NestedRun σ} {workflow : Workflow}
    {runInput : Json} {session : Session σ} {store : τ} {after before : List Event} {id : String}
    {input : Json} {cause : Cause} {enclosing : List ActiveVisit} {loops : List LoopFrame}
    (h : (e.runWith nested workflow runInput session store).journal =
      after ++ .visited id input cause enclosing loops :: before) :
    ∃ (w : Walk σ τ) (own : List Event) (s : RunState σ τ) (o : Except Error Unit)
      (s' : RunState σ τ), w.graph = workflow.graph ∧ w.engine = e ∧ w.nested = nested ∧
        w.graph.Valid ∧ s.context.loops = loops ∧
        w.Visiting enclosing cause id input after before own s o s' := by
  by_cases haccepts : e.Accepts workflow runInput session store
  · obtain ⟨w, trigger, s₀, s₁, o, hnested, hw⟩ := haccepts.walked_nested nested
    obtain ⟨rs₀, hj₀⟩ := hw.start_journal
    obtain ⟨rs₁, hj₁⟩ := hw.end_journal
    have hstart : w.Outlined 0 [] s₀.journal := by
      rw [hj₀, ← List.append_nil (rs₀.map _)]
      exact Walk.outlined_quiet _ (depth?_reports rs₀) []
    have hrun := (hstart.trans hw.course.outlined).trans
      (Walk.outlined_quiet _ (depth?_reports rs₁) _)
    rw [← hj₁] at hrun
    obtain ⟨own, s, o, s', hloops, hvisit⟩ := (hrun.stretch.get h).2 _ _ _ _ _ rfl
    exact ⟨w, own, s, o, s', hw.graph, hw.engine, hnested, hw.valid, hloops, hvisit⟩
  · obtain ⟨rs, hrs⟩ := Engine.journal_of_not_accepts haccepts nested
    have hmem : .visited id input cause enclosing loops ∈ rs.map Event.reported := by
      rw [← hrs, h]
      simp
    cases depth?_reports rs _ hmem

end FlowGraph
