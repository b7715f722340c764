import FlowGraph.Proofs.Walk.Kept
import FlowGraph.Proofs.Walk.Recursion
import FlowGraph.Proofs.Walk.Within

/-! # The moments of a walk

A course tells how a task ends. What a walk is like on the way there is said of its moments: the
states in which a task begins or ends, a visit is noted, a handler has answered or an answer is
kept, and all of these for every task that is done inside.

* `Includes` lists the tasks that a task consists of, `Moment` the states that it goes through.
  `Moment.suffix` and `Moment.suffix_end`: the journal of a moment lies between those of the
  beginning and of the end.
* `Steady` is a property that no step of a walk breaks, `Steady.course` and `Steady.moment` carry it
  from the beginning of a task to its end and to all its moments.
* `OfVisits` is a law about the visits in a journal, `OfVisits.course` the induction that gives it
  for a whole walk if every task passes on what is needed to the tasks inside. -/

namespace FlowGraph

variable {σ τ : Type}

/-- The node that an event visits. -/
def Event.visited? : Event → Option String
  | .visited id .. => some id
  | _ => none

/-- The nodes that were visited, the first one first. A node may be visited more than once. -/
def visits (j : List Event) : List String := j.reverse.filterMap Event.visited?

theorem mem_visits {id : String} {j : List Event} :
    id ∈ visits j ↔ ∃ ev ∈ j, ev.visited? = some id := by
  simp [visits]

@[simp] theorem visits_visited (id : String) (input : Json) (cause : Cause)
    (enclosing : List ActiveVisit) (loops : List LoopFrame) (j : List Event) :
    visits (.visited id input cause enclosing loops :: j) = visits j ++ [id] := by
  simp [visits, Event.visited?]

theorem visits_append {evs : List Event} (j : List Event)
    (h : ∀ ev ∈ evs, ev.visited? = none) : visits (evs ++ j) = visits j := by
  have hnil : evs.reverse.filterMap Event.visited? = [] :=
    List.filterMap_eq_nil_iff.mpr fun ev hev => h ev (List.mem_reverse.mp hev)
  simp [visits, hnil]

theorem mem_visits_of_suffix {id : String} {j j' : List Event} (h : j <:+ j')
    (hid : id ∈ visits j) : id ∈ visits j' := by
  obtain ⟨ev, hev, hvisited⟩ := mem_visits.mp hid
  exact mem_visits.mpr ⟨ev, h.subset hev, hvisited⟩

/-- The handler of a node has just been called. -/
def JustCalled (id : String) (j : List Event) : Prop :=
  ∃ (ctx : NodeContext) (earlier : List Event), ctx.nodeId = id ∧ j = .invoked ctx :: earlier

/-- **A visit has just completed**: nothing but reports came after the output. -/
def JustCompleted (id : String) (j : List Event) : Prop :=
  ∃ (rs : List Report) (output : Json) (ctx : NodeContext) (input : Json) (cause : Cause)
    (enclosing : List ActiveVisit) (loops : List LoopFrame) (earlier : List Event),
    ctx.nodeId = id ∧ j = rs.map .reported ++ .completed id output :: .invoked ctx ::
      .visited id input cause enclosing loops :: earlier

/-- A failure that is to be dealt with is one of a node that was visited. -/
def Task.Begun (task : Task) (s : RunState σ τ) : Prop :=
  match task with
  | .recover v _ _ => v.id ∈ visits s.journal
  | _ => True

namespace Walk

theorem mem_visits_enter (enclosing : List ActiveVisit) (cause : Cause) (id : String)
    (input : Json) (s : RunState σ τ) :
    id ∈ visits (enter enclosing cause id input s).journal :=
  mem_visits.mpr ⟨_, List.mem_cons_self, rfl⟩

theorem justCompleted_of_invoke {w : Walk σ τ} {s s₁ : RunState σ τ}
    {enclosing : List ActiveVisit} {cause : Cause} {id : String} {input output : Json}
    {node : Workflow.Node} {h : Handler σ} (hn : w.graph.node? id = some node)
    (hi : w.invoke node h input (enter enclosing cause id input s) = (.ok output, s₁)) :
    JustCompleted id s₁.journal := by
  obtain ⟨-, rs, hj⟩ := invoke_ok hi
  obtain rfl := Graph.id_of_node? hn
  exact ⟨rs, output, _, input, cause, enclosing, _, _, rfl, hj⟩

/-! ### The tasks inside a task -/

/-- **A task done inside another**: while `task` is done from `s` on, `task'` is begun in `s'`. -/
inductive Includes (w : Walk σ τ) : Task → RunState σ τ → Task → RunState σ τ → Prop where
  | failed {enclosing cause id input s node h e s₁} (hn : w.graph.node? id = some node)
    (hr : w.engine.registry.resolve? node.tag = some h)
    (hi : w.invoke node h input (enter enclosing cause id input s) = (.error e, s₁)) :
    Includes w (.visit enclosing cause id input) s (.recover ⟨id, cause⟩ enclosing e)
      (s₁.note (.failed id e))
  | dispatched {enclosing cause id input s node h output s₁} (hn : w.graph.node? id = some node)
    (hr : w.engine.registry.resolve? node.tag = some h)
    (hi : w.invoke node h input (enter enclosing cause id input s) = (.ok output, s₁))
    (hf : h.controlFlow ≠ .loop) :
    Includes w (.visit enclosing cause id input) s (.sweep (⟨id, cause⟩ :: enclosing) (.output id)
      output (w.selected h.controlFlow id output)) s₁
  | tooDeep {enclosing cause id input s node h output s₁} (hn : w.graph.node? id = some node)
    (hr : w.engine.registry.resolve? node.tag = some h)
    (hi : w.invoke node h input (enter enclosing cause id input s) = (.ok output, s₁))
    (hf : h.controlFlow = .loop) (hd : w.settings.maxLoopDepth ≤ s₁.context.loopDepth) :
    Includes w (.visit enclosing cause id input) s
      (.recover ⟨id, cause⟩ enclosing (.loopDepthExceeded id w.settings.maxLoopDepth))
      (s₁.note (.tooDeep id (.loopDepthExceeded id w.settings.maxLoopDepth)))
  | looped {enclosing cause id input s node h output s₁} (hn : w.graph.node? id = some node)
    (hr : w.engine.registry.resolve? node.tag = some h)
    (hi : w.invoke node h input (enter enclosing cause id input s) = (.ok output, s₁))
    (hf : h.controlFlow = .loop) (hd : s₁.context.loopDepth < w.settings.maxLoopDepth) :
    Includes w (.visit enclosing cause id input) s
      (.passes ⟨id, cause⟩ enclosing output (passCount output))
      (enterLoop id (passCount output) s₁)
  | recovered {v enclosing e s handler} (hr : w.recovery? v.id = some handler) :
    Includes w (.recover v enclosing e) s
      (.visit (v :: enclosing) (.failure v.id) handler (failureInput v.id e))
      (w.recordFailure v.id e s)
  | sweepFirst {chain cause input id rest s} :
    Includes w (.sweep chain cause input (id :: rest)) s (.visit chain cause id input) s
  | sweepRest {chain cause input id rest s s₁}
    (hc : w.Course (.visit chain cause id input) s (.ok ()) s₁) :
    Includes w (.sweep chain cause input (id :: rest)) s (.sweep chain cause input rest) s₁
  | passesFirst {v enclosing output left s} (i : Nat) (hleft : i + (left + 1) = passCount output) :
    Includes w (.passes v enclosing output (left + 1)) s
      (.sweep (v :: enclosing) (.pass v.id i)
        (passInput output i (passCount output) (passItem? output i)) (w.flowChildren v.id))
      (s.onContext (·.setIteration (i + 1)))
  | passesRest {v enclosing output left s s₁} (i : Nat)
    (hleft : i + (left + 1) = passCount output)
    (hc : w.Course (.sweep (v :: enclosing) (.pass v.id i)
      (passInput output i (passCount output) (passItem? output i)) (w.flowChildren v.id))
      (s.onContext (·.setIteration (i + 1))) (.ok ()) s₁) :
    Includes w (.passes v enclosing output (left + 1)) s (.passes v enclosing output left) s₁

/-- **A moment of a task** that is begun in `s`: a state that the walk goes through before the task
is over. -/
inductive Moment (w : Walk σ τ) : Task → RunState σ τ → RunState σ τ → Prop where
  | start {task s} : Moment w task s s
  | ended {task s o s'} (hc : w.Course task s o s') : Moment w task s s'
  /-- A visit is noted. -/
  | entered {enclosing cause id input s node} (hn : w.graph.node? id = some node) :
    Moment w (.visit enclosing cause id input) s (enter enclosing cause id input s)
  /-- The handler of a node, or the breaker before it, has answered. -/
  | answered {enclosing cause id input s node h outcome s₁} (hn : w.graph.node? id = some node)
    (hr : w.engine.registry.resolve? node.tag = some h)
    (hm : missingField? node.config h.requiredFields = none)
    (hc : w.callGuarded node h
      (w.nodeContext node input (enter enclosing cause id input s).context)
      (enter enclosing cause id input s) = (outcome, s₁)) :
    Moment w (.visit enclosing cause id input) s s₁
  /-- The answer is kept, if it is an output. -/
  | invoked {enclosing cause id input s node h outcome s₁} (hn : w.graph.node? id = some node)
    (hr : w.engine.registry.resolve? node.tag = some h)
    (hi : w.invoke node h input (enter enclosing cause id input s) = (outcome, s₁)) :
    Moment w (.visit enclosing cause id input) s s₁
  | inside {task s task' s' t} (hi : w.Includes task s task' s') (hm : Moment w task' s' t) :
    Moment w task s t

variable {w : Walk σ τ} {s s' t : RunState σ τ} {task task' : Task} {o : Except Error Unit}

/-! ### The journal of a moment -/

theorem suffix_callGuarded {node : Workflow.Node} {h : Handler σ} {ctx : NodeContext}
    {outcome : Except Error NodeResult} (hc : w.callGuarded node h ctx s = (outcome, s')) :
    s.journal <:+ s'.journal := by
  rcases (callGuarded_effect hc).2 with hj | ⟨hj, -⟩
  · exact hj ▸ List.suffix_cons _ _
  · exact hj ▸ List.suffix_refl _

theorem suffix_complete (w : Walk σ τ) (id : String) (output : Json) (s : RunState σ τ) :
    s.journal <:+ (w.complete id output s).journal := by
  obtain ⟨-, rs, hj⟩ := complete_effect w id output s
  rw [hj]
  exact (List.suffix_cons _ _).trans (List.suffix_append _ _)

/-- A call is part of what comes of it. -/
theorem suffix_invoke_of_callGuarded {node : Workflow.Node} {h : Handler σ} {input : Json}
    {answer : Except Error NodeResult} {outcome : Except Error Json} {s₁ s₂ : RunState σ τ}
    (hm : missingField? node.config h.requiredFields = none)
    (hc : w.callGuarded node h (w.nodeContext node input s.context) s = (answer, s₁))
    (hi : w.invoke node h input s = (outcome, s₂)) : s₁.journal <:+ s₂.journal := by
  unfold invoke at hi
  simp only [hm, hc] at hi
  cases answer with
  | error e =>
    cases hi
    exact List.suffix_refl _
  | ok result =>
    cases hi
    exact suffix_complete w node.id result.data (s₁.count _)

theorem Includes.suffix (h : w.Includes task s task' s') : s.journal <:+ s'.journal := by
  cases h with
  | failed hn hr hi => exact (suffix_enter ..).trans ((suffix_invoke hi).trans (suffix_note ..))
  | dispatched hn hr hi hf => exact (suffix_enter ..).trans (suffix_invoke hi)
  | tooDeep hn hr hi hf hd =>
    exact (suffix_enter ..).trans ((suffix_invoke hi).trans (suffix_note ..))
  | looped hn hr hi hf hd =>
    exact (suffix_enter ..).trans ((suffix_invoke hi).trans (List.suffix_cons _ _))
  | recovered hr => exact suffix_recordFailure ..
  | sweepFirst => exact List.suffix_refl _
  | sweepRest hc => exact hc.suffix
  | passesFirst i hleft => exact List.suffix_refl _
  | passesRest i hleft hc => exact hc.suffix

theorem Moment.suffix (h : w.Moment task s t) : s.journal <:+ t.journal := by
  induction h with
  | start => exact List.suffix_refl _
  | ended hc => exact hc.suffix
  | entered hn => exact suffix_enter ..
  | answered hn hr hm hc => exact (suffix_enter ..).trans (suffix_callGuarded hc)
  | invoked hn hr hi => exact (suffix_enter ..).trans (suffix_invoke hi)
  | inside hi hm ih => exact hi.suffix.trans ih

/-! ### The end of the tasks inside -/

/-- A visit ends as the task does that it goes on with. -/
theorem Includes.ends_visit {enclosing : List ActiveVisit} {cause : Cause} {id : String}
    {input : Json} (hi : w.Includes (.visit enclosing cause id input) s task' s')
    (h : w.Course (.visit enclosing cause id input) s o t) :
    ∃ t', w.Course task' s' o t' ∧ t'.journal = t.journal := by
  -- the node, its handler and the answer are the same on both sides
  cases hi with
  | failed hn hr hi => cases h <;> grind
  | dispatched hn hr hi hf => cases h <;> grind
  | tooDeep hn hr hi hf hd => cases h <;> grind
  | looped hn hr hi hf hd => cases h <;> grind [RunState.onContext_journal]

/-- **A task inside a task** has a course too, its journal is part of the whole, and the whole fails
with the task if the task fails. -/
theorem Includes.ends (hg : w.graph.Valid) (hi : w.Includes task s task' s')
    (h : w.Course task s o t) :
    ∃ o' t', w.Course task' s' o' t' ∧ t'.journal <:+ t.journal ∧
      ∀ err, o' = .error err → o = .error err := by
  cases task with
  | visit enclosing cause id input =>
    obtain ⟨t', hc, hj⟩ := hi.ends_visit h
    exact ⟨o, t', hc, hj ▸ List.suffix_refl _, fun _ ho => ho⟩
  | recover v enclosing e =>
    cases hi with
    | recovered hr =>
      cases h with
      | recovered hr' hc =>
        obtain rfl := Option.some.inj (hr.symm.trans hr')
        exact ⟨o, t, hc, List.suffix_refl _, fun _ ho => ho⟩
      | unrecovered hr' => exact absurd (hr.symm.trans hr') (by simp)
  | sweep chain cause input ids =>
    cases hi with
    | sweepFirst =>
      cases h with
      | sweepStop hc => exact ⟨_, t, hc, List.suffix_refl _, fun _ ho => ho⟩
      | sweepNext hc hn => exact ⟨_, _, hc, hn.suffix, by rintro _ ⟨⟩⟩
    | sweepRest hfirst =>
      cases h with
      | sweepStop hc => cases (hfirst.unique hg hc).1
      | sweepNext hc hn =>
        obtain rfl := (hfirst.unique hg hc).2
        exact ⟨o, t, hn, List.suffix_refl _, fun _ ho => ho⟩
  | passes v enclosing output left =>
    cases hi with
    | passesFirst i hleft =>
      cases h with
      | passesStop i' hleft' hc =>
        obtain rfl : i = i' := by omega
        exact ⟨_, t, hc, List.suffix_refl _, fun _ ho => ho⟩
      | passesNext i' hleft' hc hn =>
        obtain rfl : i = i' := by omega
        exact ⟨_, _, hc, hn.suffix, by rintro _ ⟨⟩⟩
    | passesRest i hleft hfirst =>
      cases h with
      | passesStop i' hleft' hc =>
        obtain rfl : i = i' := by omega
        cases (hfirst.unique hg hc).1
      | passesNext i' hleft' hc hn =>
        obtain rfl : i = i' := by omega
        obtain rfl := (hfirst.unique hg hc).2
        exact ⟨o, t, hn, List.suffix_refl _, fun _ ho => ho⟩

/-- What comes of a call is part of the visit that it belongs to. -/
theorem suffix_visit_of_invoke {enclosing : List ActiveVisit} {cause : Cause} {id : String}
    {input : Json} {node : Workflow.Node} {h : Handler σ} {outcome : Except Error Json}
    {s₁ : RunState σ τ} (hn : w.graph.node? id = some node)
    (hr : w.engine.registry.resolve? node.tag = some h)
    (hi : w.invoke node h input (enter enclosing cause id input s) = (outcome, s₁))
    (hc : w.Course (.visit enclosing cause id input) s o t) : s₁.journal <:+ t.journal := by
  have hsame : ∀ {node' h' outcome' s₂}, w.graph.node? id = some node' →
      w.engine.registry.resolve? node'.tag = some h' →
      w.invoke node' h' input (enter enclosing cause id input s) = (outcome', s₂) → s₁ = s₂ := by
    grind
  cases hc with
  | skipped hw hn' hr' => grind
  | failed hw hn' hr' hi' hc =>
    obtain rfl := hsame hn' hr' hi'
    exact (suffix_note ..).trans hc.suffix
  | dispatched hw hn' hr' hi' hf hc =>
    obtain rfl := hsame hn' hr' hi'
    exact hc.suffix
  | tooDeep hw hn' hr' hi' hf hd hc =>
    obtain rfl := hsame hn' hr' hi'
    exact (suffix_note ..).trans hc.suffix
  | looped hw hn' hr' hi' hf hd hc =>
    obtain rfl := hsame hn' hr' hi'
    exact (List.suffix_cons _ _).trans hc.suffix

/-- **The journal of a moment is part of the journal at the end.** -/
theorem Moment.suffix_end (hg : w.graph.Valid) {m : RunState σ τ} (h : w.Moment task s m) :
    ∀ {o t}, w.Course task s o t → m.journal <:+ t.journal := by
  induction h with
  | start => exact fun hc => hc.suffix
  | ended hc =>
    intro o t hc'
    exact (hc.unique hg hc').2 ▸ List.suffix_refl _
  | entered hn => exact fun hc => hc.suffix_visit
  | answered hn hr hm hcall =>
    intro o t hc
    exact (suffix_invoke_of_callGuarded hm hcall rfl).trans
      (suffix_visit_of_invoke hn hr rfl hc)
  | invoked hn hr hi => exact fun hc => suffix_visit_of_invoke hn hr hi hc
  | inside hi hm ih =>
    intro o t hc
    obtain ⟨o', t', hc', hj, -⟩ := hi.ends hg hc
    exact (ih hc').trans hj

/-! ### Properties that no step breaks -/

/-- **No step of a walk breaks a property.** A failure is entered and an output is kept of nodes
that were visited. An output is kept right after the call that gave it, and a loop is turned away
right after it has completed. -/
structure Steady (w : Walk σ τ) (I : RunState σ τ → Prop) : Prop where
  enter : ∀ enclosing cause id input s, I s → I (enter enclosing cause id input s)
  skip : ∀ id tag s, I s → I (w.skip id tag s)
  call : ∀ node h input c s outcome s',
    w.callGuarded node h (w.nodeContext node input c) s = (outcome, s') → I s → I s'
  count : ∀ c s, I s → I (s.count c)
  complete : ∀ id output s, id ∈ visits s.journal → JustCalled id s.journal → I s →
    I (w.complete id output s)
  failed : ∀ id e s, I s → I (s.note (.failed id e))
  tooDeep : ∀ id e s, JustCompleted id s.journal → I s → I (s.note (.tooDeep id e))
  recordFailure : ∀ id e s, id ∈ visits s.journal → I s → I (w.recordFailure id e s)
  enterLoop : ∀ id total s, I s → I (enterLoop id total s)
  setIteration : ∀ i s, I s → I (s.onContext (·.setIteration i))
  popLoop : ∀ s, I s → I (s.onContext (·.popLoop))

namespace Steady

variable {I : RunState σ τ → Prop} (hI : w.Steady I)
include hI

theorem invoke {node : Workflow.Node} {h : Handler σ} {input : Json}
    {outcome : Except Error Json} (hi : w.invoke node h input s = (outcome, s'))
    (hid : node.id ∈ visits s.journal) (hs : I s) : I s' := by
  unfold Walk.invoke at hi
  split at hi
  · cases hi
    exact hs
  · rcases hc : w.callGuarded node h (w.nodeContext node input s.context) s with ⟨answer, s₁⟩
    have hid₁ : node.id ∈ visits s₁.journal := mem_visits_of_suffix (suffix_callGuarded hc) hid
    have hcall := hI.count (.node node.tag (statusText answer)) _ (hI.call _ _ _ _ _ _ _ hc hs)
    rw [hc] at hi
    cases answer with
    | error e =>
      cases hi
      exact hcall
    | ok result =>
      cases hi
      have hcalled : JustCalled node.id s₁.journal :=
        ⟨_, _, rfl, (callGuarded_effect hc).2.resolve_right fun hno => by
          obtain ⟨-, key, hkey⟩ := hno
          cases hkey⟩
      exact hI.complete _ _ _ hid₁ hcalled hcall

/-- The call of its handler, right after a visit has started. -/
theorem invoke_enter {enclosing : List ActiveVisit} {cause : Cause} {id : String} {input : Json}
    {node : Workflow.Node} {h : Handler σ} {outcome : Except Error Json}
    (hn : w.graph.node? id = some node)
    (hi : w.invoke node h input (Walk.enter enclosing cause id input s) = (outcome, s'))
    (hs : I s) : I s' ∧ id ∈ visits s'.journal := by
  have hid := mem_visits_enter enclosing cause id input s
  refine ⟨hI.invoke hi ?_ (hI.enter _ _ _ _ _ hs), mem_visits_of_suffix (suffix_invoke hi) hid⟩
  rwa [Graph.id_of_node? hn]

/-- **A steady property holds at the end of a task** if it holds where the task begins. -/
theorem course (h : w.Course task s o s') (hb : task.Begun s) (hs : I s) : I s' := by
  induction h with
  | skipped hw hn hr => exact hI.skip _ _ _ (hI.enter _ _ _ _ _ hs)
  | failed hw hn hr hi hc ih =>
    obtain ⟨hs₁, hid⟩ := hI.invoke_enter hn hi hs
    exact ih (mem_visits_of_suffix (suffix_note ..) hid) (hI.failed _ _ _ hs₁)
  | dispatched hw hn hr hi hf hc ih => exact ih trivial (hI.invoke_enter hn hi hs).1
  | @tooDeep enclosing cause id input s node h output s₁ o s' hw hn hr hi hf hd hc ih =>
    obtain ⟨hs₁, hid⟩ := hI.invoke_enter hn hi hs
    have hs₂ := hI.tooDeep id (.loopDepthExceeded id w.settings.maxLoopDepth) _
      (justCompleted_of_invoke hn hi) hs₁
    exact ih (mem_visits_of_suffix (suffix_note ..) hid) hs₂
  | looped hw hn hr hi hf hd hc ih =>
    exact hI.popLoop _ (ih trivial (hI.enterLoop _ _ _ (hI.invoke_enter hn hi hs).1))
  | recovered hr hc ih => exact ih trivial (hI.recordFailure _ _ _ hb hs)
  | unrecovered hr => exact hI.recordFailure _ _ _ hb hs
  | sweepNil => exact hs
  | sweepStop hc ih => exact ih trivial hs
  | sweepNext hc hn ih ihn => exact ihn trivial (ih trivial hs)
  | passesNil => exact hs
  | passesStop i hleft hc ih => exact ih trivial (hI.setIteration _ _ hs)
  | passesNext i hleft hc hn ih ihn =>
    exact ihn trivial (ih trivial (hI.setIteration _ _ hs))

/-- A steady property holds where a task inside another begins. -/
theorem includes (h : w.Includes task s task' s') (hb : task.Begun s) (hs : I s) :
    I s' ∧ task'.Begun s' := by
  cases h with
  | failed hn hr hi =>
    obtain ⟨hs₁, hid⟩ := hI.invoke_enter hn hi hs
    exact ⟨hI.failed _ _ _ hs₁, mem_visits_of_suffix (suffix_note ..) hid⟩
  | dispatched hn hr hi hf => exact ⟨(hI.invoke_enter hn hi hs).1, trivial⟩
  | tooDeep hn hr hi hf hd =>
    obtain ⟨hs₁, hid⟩ := hI.invoke_enter hn hi hs
    exact ⟨hI.tooDeep _ _ _ (justCompleted_of_invoke hn hi) hs₁,
      mem_visits_of_suffix (suffix_note ..) hid⟩
  | looped hn hr hi hf hd =>
    exact ⟨hI.enterLoop _ _ _ (hI.invoke_enter hn hi hs).1, trivial⟩
  | recovered hr => exact ⟨hI.recordFailure _ _ _ hb hs, trivial⟩
  | sweepFirst => exact ⟨hs, trivial⟩
  | sweepRest hc => exact ⟨hI.course hc trivial hs, trivial⟩
  | passesFirst i hleft => exact ⟨hI.setIteration _ _ hs, trivial⟩
  | passesRest i hleft hc => exact ⟨hI.course hc trivial (hI.setIteration _ _ hs), trivial⟩

/-- **A steady property holds at every moment** of a task. -/
theorem moment (h : w.Moment task s t) (hb : task.Begun s) (hs : I s) : I t := by
  induction h with
  | start => exact hs
  | ended hc => exact hI.course hc hb hs
  | entered hn => exact hI.enter _ _ _ _ _ hs
  | answered hn hr hm hc => exact hI.call _ _ _ _ _ _ _ hc (hI.enter _ _ _ _ _ hs)
  | invoked hn hr hi => exact (hI.invoke_enter hn hi hs).1
  | inside hi hm ih =>
    obtain ⟨hs', hb'⟩ := hI.includes hi hb hs
    exact ih hb' hs'

end Steady

/-! ### Laws of visits -/

theorem unvisited_told (h : Told s s') :
    Adds (fun ev => ev.visited? = none) s.journal s'.journal :=
  h.adds fun _ => rfl

theorem unvisited_note (s : RunState σ τ) (ev : Event) (hev : ev.visited? = none) :
    Adds (fun ev => ev.visited? = none) s.journal (s.note ev).journal :=
  .cons hev _

theorem unvisited_enterLoop (id : String) (total : Nat) (s : RunState σ τ) :
    Adds (fun ev => ev.visited? = none) s.journal (enterLoop id total s).journal :=
  unvisited_note (s.onContext _) (.entered ..) rfl

theorem unvisited_skip (w : Walk σ τ) (id tag : String) (s : RunState σ τ) :
    Adds (fun ev => ev.visited? = none) s.journal (w.skip id tag s).journal :=
  (unvisited_note s (.skipped id) rfl).trans (unvisited_told (told_skip w id tag s))

theorem unvisited_recordFailure (w : Walk σ τ) (id : String) (e : Error) (s : RunState σ τ) :
    Adds (fun ev => ev.visited? = none) s.journal (w.recordFailure id e s).journal :=
  unvisited_told (s := s.onContext _) (told_recordFailure w id e s)

theorem unvisited_invoke {node : Workflow.Node} {h : Handler σ} {input : Json}
    {outcome : Except Error Json} (hi : w.invoke node h input s = (outcome, s')) :
    Adds (fun ev => ev.visited? = none) s.journal s'.journal :=
  adds_of_invoke hi (fun _ => rfl) rfl fun _ => rfl

/-- **A law of visits** says nothing of other events, and holds on as the journal goes on. -/
structure OfVisits (P : List Event → Event → List Event → Prop) : Prop where
  lasting : Lasting P
  quiet : ∀ after ev before, ev.visited? = none → P after ev before

namespace OfVisits

variable {P : List Event → Event → List Event → Prop} (hP : OfVisits P)
include hP

theorem of_adds {j j' : List Event} (h : Adds (fun ev => ev.visited? = none) j j') :
    Stretch P j j' := by
  obtain ⟨evs, rfl, hall⟩ := h
  exact Stretch.of_forall evs fun ev hev after before => hP.quiet after ev before (hall ev hev)

/-- The start of a visit of which the law holds, and what comes of it. -/
theorem visit {enclosing : List ActiveVisit} {cause : Cause} {id : String} {input : Json}
    (hvisit : P [] (.visited id input cause enclosing s.context.loops) s.journal)
    (h : Adds (fun ev => ev.visited? = none) (enter enclosing cause id input s).journal
      s'.journal) : Stretch P s.journal s'.journal :=
  (hP.of_adds h).first fun after _ => by simpa using hP.lasting after [] _ _ hvisit

/-- **A law of visits holds in every course** if a visit that has what it needs obeys it, and every
task that has what it needs passes it on to the tasks inside. -/
theorem course {Ready : Task → RunState σ τ → Prop}
    (hvisit : ∀ enclosing cause id input s, Ready (.visit enclosing cause id input) s →
      P [] (.visited id input cause enclosing s.context.loops) s.journal)
    (hinside : ∀ {task s task' s'}, w.Includes task s task' s' → Ready task s → Ready task' s')
    (h : w.Course task s o s') : Ready task s → Stretch P s.journal s'.journal := by
  have hlasting := hP.lasting
  induction h with
  | skipped hw hn hr =>
    exact fun hready => hP.visit (hvisit _ _ _ _ _ hready) (unvisited_skip ..)
  | @failed enclosing cause id input s node h e s₁ o s' hw hn hr hi hc ih =>
    intro hready
    have hfailed := (unvisited_invoke hi).trans (unvisited_note s₁ (.failed id e) rfl)
    exact (hP.visit (hvisit _ _ _ _ _ hready) hfailed).trans hlasting
      (ih (hinside (.failed hn hr hi) hready))
  | dispatched hw hn hr hi hf hc ih =>
    intro hready
    exact (hP.visit (hvisit _ _ _ _ _ hready) (unvisited_invoke hi)).trans hlasting
      (ih (hinside (.dispatched hn hr hi hf) hready))
  | @tooDeep enclosing cause id input s node h output s₁ o s' hw hn hr hi hf hd hc ih =>
    intro hready
    have hdeep := (unvisited_invoke hi).trans
      (unvisited_note s₁ (.tooDeep id (.loopDepthExceeded id w.settings.maxLoopDepth)) rfl)
    exact (hP.visit (hvisit _ _ _ _ _ hready) hdeep).trans hlasting
      (ih (hinside (.tooDeep hn hr hi hf hd) hready))
  | @looped enclosing cause id input s node h output s₁ o s' hw hn hr hi hf hd hc ih =>
    intro hready
    have hentered := (unvisited_invoke hi).trans (unvisited_enterLoop id (passCount output) s₁)
    exact (hP.visit (hvisit _ _ _ _ _ hready) hentered).trans hlasting
      (ih (hinside (.looped hn hr hi hf hd) hready))
  | recovered hr hc ih =>
    intro hready
    exact (hP.of_adds (unvisited_recordFailure ..)).trans hlasting
      (ih (hinside (.recovered hr) hready))
  | unrecovered hr => exact fun _ => hP.of_adds (unvisited_recordFailure ..)
  | sweepNil => exact fun _ => .refl _
  | sweepStop hc ih => exact fun hready => ih (hinside .sweepFirst hready)
  | sweepNext hc hn ih ihn =>
    exact fun hready => (ih (hinside .sweepFirst hready)).trans hlasting
      (ihn (hinside (.sweepRest hc) hready))
  | passesNil => exact fun _ => .refl _
  | passesStop i hleft hc ih => exact fun hready => ih (hinside (.passesFirst i hleft) hready)
  | passesNext i hleft hc hn ih ihn =>
    exact fun hready => Stretch.trans hlasting (ih (hinside (.passesFirst i hleft) hready))
      (ihn (hinside (.passesRest i hleft hc) hready))

end OfVisits

end Walk

end FlowGraph
