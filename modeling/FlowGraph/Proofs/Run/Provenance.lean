import FlowGraph.Proofs.Run.Failure
import FlowGraph.Proofs.Walk.Memory
import FlowGraph.Proofs.Walk.Within

/-! # Where the inputs of handlers come from

A handler is called in a visit, and the visit came about in one of a few ways: the run started with
it, or a visit that is still under way has handed down its output, the input of a pass, or its
failure. Together with the visit around it this settles what the input is. The rest of what the
handler sees are the outputs and the variables that the run remembers, and what it answers is the
next thing in the journal.

* `UnderWay` is a visit that has not come to its end, with what happened in it so far. `Gave` and
  `FailedWith` are such visits with an output and with a failure.
* `Origin` lists the ways in which a visit comes about, `Explained` is what there is to say of a
  call.
* `Poised` is what a task needs for it, `Course.traces` the induction over the course, and
  `runWith_provenance` the law of runs. -/

namespace FlowGraph

variable {σ τ : Type}

/-- What is written down about the outcome of a call. -/
def Event.ofOutcome (id : String) : Except Error Json → Event
  | .ok output => .completed id output
  | .error e => .failed id e

/-! ### Visits under way -/

/-- An event inside visits under way: a visit that starts has all of them around it. -/
def Inside (chain : List ActiveVisit) : Event → Prop
  | .visited _ _ _ enclosing _ => chain <:+ enclosing
  | _ => True

/-- **A visit under way**: everything `since` its start happened inside it. -/
structure UnderWay (v : ActiveVisit) (enclosing : List ActiveVisit) (since before : List Event) :
    Prop where
  started : ∃ input loops earlier,
    before = since ++ .visited v.id input v.cause enclosing loops :: earlier
  inside : ∀ ev ∈ since, Inside (v :: enclosing) ev

/-- A visit is under way whose handler was called and gave an output. -/
def Gave (v : ActiveVisit) (enclosing : List ActiveVisit) (output : Json)
    (before : List Event) : Prop :=
  ∃ later ctx, ctx.nodeId = v.id ∧
    UnderWay v enclosing (later ++ [.completed v.id output, .invoked ctx]) before

/-- A visit is under way that has just failed. -/
def FailedWith (v : ActiveVisit) (enclosing : List ActiveVisit) (e : Error)
    (before : List Event) : Prop :=
  ∃ (rs : List Report) (mark : Event) (earlier : List Event), Walk.IsMark mark v.id e ∧
    UnderWay v enclosing (rs.map .reported ++ mark :: earlier) before

section

variable {v : ActiveVisit} {enclosing : List ActiveVisit} {since before before' : List Event}

theorem inside_reports (chain : List ActiveVisit) (rs : List Report) :
    ∀ ev ∈ rs.map Event.reported, Inside chain ev :=
  List.forall_mem_map.mpr fun _ _ => trivial

theorem UnderWay.append {new : List Event} (h : UnderWay v enclosing since before)
    (hnew : ∀ ev ∈ new, Inside (v :: enclosing) ev) :
    UnderWay v enclosing (new ++ since) (new ++ before) := by
  obtain ⟨input, loops, earlier, rfl⟩ := h.started
  exact ⟨⟨input, loops, earlier, by simp⟩, List.forall_mem_append.mpr ⟨hnew, h.inside⟩⟩

/-- What happens inside a visit leaves it under way. -/
theorem Gave.adds {output : Json} (h : Gave v enclosing output before)
    (hadds : Adds (Inside (v :: enclosing)) before before') : Gave v enclosing output before' := by
  obtain ⟨later, ctx, hctx, hunder⟩ := h
  obtain ⟨new, rfl, hnew⟩ := hadds
  exact ⟨new ++ later, ctx, hctx, by simpa using hunder.append hnew⟩

theorem Gave.tooDeep {output : Json} (h : Gave v enclosing output before) (e : Error) :
    FailedWith v enclosing e (.tooDeep v.id e :: before) := by
  obtain ⟨later, ctx, -, hunder⟩ := h
  have hdeep : ∀ ev ∈ [Event.tooDeep v.id e], Inside (v :: enclosing) ev := by simp [Inside]
  exact ⟨[], .tooDeep v.id e, _, Or.inr rfl, hunder.append hdeep⟩

theorem FailedWith.reports {e : Error} (h : FailedWith v enclosing e before) (rs : List Report) :
    FailedWith v enclosing e (rs.map .reported ++ before) := by
  obtain ⟨rs', mark, earlier, hmark, hunder⟩ := h
  exact ⟨rs ++ rs', mark, earlier, hmark, by simpa using hunder.append (inside_reports _ rs)⟩

end

/-! ### Origins -/

/-- **The origin of a visit** with an input, under the visits and the loops around it and after what
happened before:

* the run starts with the first trigger, which receives the input of the run;
* a node that is not a loop hands its output to a child;
* a loop hands the input of a pass to a child, while the pass is under way;
* a node that failed hands its failure to the first child that is an error handler. -/
inductive Origin (e : Engine σ τ) (g : Graph) (input : Json) :
    ActiveVisit → List ActiveVisit → Json → List LoopFrame → List Event → Prop where
  | start {trigger : String} (rs : List Report)
    (ht : (g.triggers e.settings).head? = some trigger) :
    Origin e g input ⟨trigger, .start⟩ [] input [] (rs.map .reported)
  | output {c p enclosing output loops before flow} (hc : c ∈ g.children p.id)
    (hf : e.flow? g p.id = some flow) (hflow : flow ≠ .loop)
    (hg : Gave p enclosing output before) :
    Origin e g input ⟨c, .output p.id⟩ (p :: enclosing) output loops before
  | pass {c p enclosing output loops before i} (hc : c ∈ g.children p.id)
    (hf : e.flow? g p.id = some .loop) (hg : Gave p enclosing output before)
    (hi : i < Walk.passCount output) :
    Origin e g input ⟨c, .pass p.id i⟩ (p :: enclosing)
      (Walk.passInput output i (Walk.passCount output) (Walk.passItem? output i))
      (⟨p.id, i + 1, Walk.passCount output⟩ :: loops) before
  | failure {c p enclosing err loops before}
    (hc : (g.children p.id).find? (g.isErrorHandler e.settings) = some c)
    (hfailed : FailedWith p enclosing err before) :
    Origin e g input ⟨c, .failure p.id⟩ (p :: enclosing) (Walk.failureInput p.id err) loops before

/-- **What there is to say of a call**: the visit it belongs to has just started and has an origin,
the handler sees the last outputs and the variables, and its answer is what comes next. -/
structure Explained (e : Engine σ τ) (g : Graph) (nested : NestedRun σ) (vars : Fields Json)
    (input : Json) (after : List Event) (ctx : NodeContext) (before : List Event) : Prop where
  origin : ∃ cause enclosing loops earlier,
    before = .visited ctx.nodeId ctx.input cause enclosing loops :: earlier ∧
      Origin e g input ⟨ctx.nodeId, cause⟩ enclosing ctx.input loops earlier
  outputs : Recalls ctx.outputs before
  vars : ctx.vars = .obj vars
  answered : ∃ node h session later, g.node? ctx.nodeId = some node ∧
    e.registry.resolve? node.tag = some h ∧
    after = later ++ [.ofOutcome ctx.nodeId
      ((h.invoke nested node.config ctx session).1.map (·.data))]

namespace Walk

variable {w : Walk σ τ} {s s' s₁ : RunState σ τ} {o : Except Error Unit} {vars : Fields Json}
  {input : Json}

theorem Within.inside {chain : List ActiveVisit} {ev : Event} (h : w.Within chain ev) :
    Inside chain ev := by
  cases ev with
  | visited id v cause enclosing loops => exact h.1
  | _ => trivial

theorem Course.inside {task : Task} (h : w.Course task s o s') :
    Adds (Inside task.chain) s.journal s'.journal :=
  h.within.mono fun _ => Within.inside

/-- What is said of an event: a call is explained, and an output is the answer to a call. -/
def Traces (w : Walk σ τ) (vars : Fields Json) (input : Json) (after : List Event) (ev : Event)
    (before : List Event) : Prop :=
  match ev with
  | .invoked ctx => Explained w.engine w.graph w.nested vars input after ctx before
  | .completed id _ => ∃ ctx earlier, before = .invoked ctx :: earlier ∧ ctx.nodeId = id
  | _ => True

theorem lasting_traces (w : Walk σ τ) (vars : Fields Json) (input : Json) :
    Lasting (w.Traces vars input) := by
  intro more after ev before h
  cases ev with
  | invoked ctx =>
    obtain ⟨node, h', session, later, hn, hr, rfl⟩ := h.answered
    exact { h with answered := ⟨node, h', session, more ++ later, hn, hr, by simp⟩ }
  | _ => exact h

/-- What a task needs: the visits to come have their origins. A later child has its own whatever the
children before it add to the journal. -/
def Poised (w : Walk σ τ) (input : Json) (task : Task) (s : RunState σ τ) : Prop :=
  match task with
  | .visit enclosing cause id v =>
    Origin w.engine w.graph input ⟨id, cause⟩ enclosing v s.context.loops s.journal
  | .recover v enclosing e => FailedWith v enclosing e s.journal
  | .sweep chain cause v ids => ∀ c ∈ ids, ∀ journal, Adds (Inside chain) s.journal journal →
    Origin w.engine w.graph input ⟨c, cause⟩ chain v s.context.loops journal
  | .passes v enclosing output _ => Gave v enclosing output s.journal ∧
    w.flow? v.id = some .loop ∧ ∃ k outer, s.context.loops = ⟨v.id, k, passCount output⟩ :: outer

/-! ### One step of a walk -/

/-- An event that is neither a call nor the answer to one. -/
def IsSilent : Event → Prop
  | .invoked _ | .completed .. => False
  | _ => True

theorem traces_of_isSilent {ev : Event} (h : IsSilent ev) (after before : List Event) :
    w.Traces vars input after ev before := by
  cases ev <;> first | exact h.elim | trivial

theorem traces_silent (evs : List Event) (h : ∀ ev ∈ evs, IsSilent ev) (j : List Event) :
    Stretch (w.Traces vars input) j (evs ++ j) :=
  Stretch.of_forall evs fun ev hev => traces_of_isSilent (h ev hev)

theorem isSilent_reports (rs : List Report) : ∀ ev ∈ rs.map Event.reported, IsSilent ev :=
  List.forall_mem_map.mpr fun _ _ => trivial

theorem traces_note (s : RunState σ τ) (ev : Event) (h : IsSilent ev) :
    Stretch (w.Traces vars input) s.journal (s.note ev).journal :=
  traces_silent [ev] (by simpa using h) _

theorem traces_told (h : Told s s') : Stretch (w.Traces vars input) s.journal s'.journal := by
  obtain ⟨rs, hrs⟩ := h.journal
  rw [hrs]
  exact traces_silent _ (isSilent_reports rs) _

theorem traces_skip (w : Walk σ τ) (id tag : String) (s : RunState σ τ) :
    Stretch (w.Traces vars input) s.journal (w.skip id tag s).journal :=
  (traces_note s (.skipped id) trivial).trans (lasting_traces w vars input)
    (traces_told (told_skip w id tag s))

theorem traces_recordFailure (w : Walk σ τ) (id : String) (e : Error) (s : RunState σ τ) :
    Stretch (w.Traces vars input) s.journal (w.recordFailure id e s).journal := by
  obtain ⟨rs, hrs⟩ := (told_recordFailure w id e s).journal
  rw [hrs]
  exact traces_silent _ (isSilent_reports rs) _

section

variable {enclosing : List ActiveVisit} {cause : Cause} {id : String} {v : Json}
  {node : Workflow.Node} {h : Handler σ}

/-- A call at the start of a visit is explained, if the visit has its origin. -/
theorem explained_call {outcome : Except Error Json} (hn : w.graph.node? node.id = some node)
    (hr : w.engine.registry.resolve? node.tag = some h)
    (hready : w.Poised input (.visit enclosing cause node.id v) s) (hs : Remembers vars s)
    {session : Session σ}
    (hanswer : (h.invoke w.nested node.config (w.nodeContext node v s.context) session).1.map
      (·.data) = outcome) (later : List Event) :
    Explained w.engine w.graph w.nested vars input (later ++ [.ofOutcome node.id outcome])
      (w.nodeContext node v s.context) (enter enclosing cause node.id v s).journal where
  origin := ⟨cause, enclosing, s.context.loops, s.journal, rfl, hready⟩
  outputs := (remembers_enter enclosing cause node.id v hs).outputs
  vars := congrArg Json.obj hs.vars
  answered := ⟨node, h, session, later, hn, hr, by rw [← hanswer]; rfl⟩

/-- A visit whose node fails. -/
theorem traces_failed {e : Error} (hn : w.graph.node? id = some node)
    (hr : w.engine.registry.resolve? node.tag = some h)
    (hready : w.Poised input (.visit enclosing cause id v) s) (hs : Remembers vars s)
    (hi : w.invoke node h v (enter enclosing cause id v s) = (.error e, s₁)) :
    Stretch (w.Traces vars input) s.journal (.failed id e :: s₁.journal) ∧
      FailedWith ⟨id, cause⟩ enclosing e (.failed id e :: s₁.journal) := by
  obtain rfl := Graph.id_of_node? hn
  rcases (invoke_error hi).2 with hj | hj
  · rw [hj]
    refine ⟨traces_silent [.failed _ e, .visited ..] (by simp [IsSilent]) _, ?_⟩
    exact ⟨[], _, [], Or.inl rfl, ⟨_, _, _, rfl⟩, by simp [Inside]⟩
  · obtain ⟨session, hanswer⟩ := (invoke_answer hi).resolve_right fun hno =>
      List.cons_ne_self _ _ (hj.symm.trans hno.1)
    rw [hj]
    constructor
    · have hfailed : Stretch (w.Traces vars input)
          (.invoked (w.nodeContext node v s.context) :: (enter enclosing cause node.id v s).journal)
          (.failed node.id e :: .invoked (w.nodeContext node v s.context) ::
            (enter enclosing cause node.id v s).journal) :=
        traces_silent [.failed _ e] (by simp [IsSilent]) _
      have hcall := hfailed.first fun after heq => by
        obtain rfl : [.failed node.id e] = after := List.append_cancel_right heq
        exact explained_call hn hr hready hs hanswer []
      exact hcall.first fun _ _ => trivial
    · exact ⟨[], _, [.invoked _], Or.inl rfl, ⟨_, _, _, rfl⟩, by simp [Inside]⟩

/-- A visit whose node completes. -/
theorem traces_completed {output : Json} (hn : w.graph.node? id = some node)
    (hr : w.engine.registry.resolve? node.tag = some h)
    (hready : w.Poised input (.visit enclosing cause id v) s) (hs : Remembers vars s)
    (hi : w.invoke node h v (enter enclosing cause id v s) = (.ok output, s₁)) :
    Stretch (w.Traces vars input) s.journal s₁.journal ∧
      Gave ⟨id, cause⟩ enclosing output s₁.journal := by
  obtain rfl := Graph.id_of_node? hn
  obtain ⟨-, rs, hj⟩ := invoke_ok hi
  obtain ⟨session, hanswer⟩ := (invoke_answer hi).resolve_right fun hno => by
    obtain ⟨-, e, he⟩ := hno
    cases he
  rw [hj]
  constructor
  · have hreports : Stretch (w.Traces vars input) _ (rs.map .reported ++
        .completed node.id output :: .invoked (w.nodeContext node v s.context) ::
          (enter enclosing cause node.id v s).journal) := traces_silent _ (isSilent_reports rs) _
    -- the call and the start of the visit are not part of this yet: back over them one by one
    have hcompleted := hreports.first fun _ _ => ⟨_, _, rfl, rfl⟩
    have hcall := hcompleted.first fun after heq => by
      obtain rfl : rs.map .reported ++ [.completed node.id output] = after :=
        List.append_cancel_right ((List.append_assoc _ [_] _).trans heq)
      exact explained_call hn hr hready hs hanswer _
    exact hcall.first fun _ _ => trivial
  · refine ⟨rs.map .reported, w.nodeContext node v s.context, rfl,
      ⟨v, s.context.loops, s.journal, (List.append_assoc _ [_, _] _).symm⟩, ?_⟩
    exact List.forall_mem_append.mpr ⟨inside_reports _ rs, by simp [Inside]⟩

end

/-! ### A whole walk -/

/-- A node hands its output to children. -/
theorem poised_sweep_output {p : ActiveVisit} {enclosing : List ActiveVisit} {output : Json}
    {flow : ControlFlow} {ids : List String} (hids : ids ⊆ w.graph.children p.id)
    (hf : w.flow? p.id = some flow) (hflow : flow ≠ .loop)
    (hg : Gave p enclosing output s.journal) :
    w.Poised input (.sweep (p :: enclosing) (.output p.id) output ids) s :=
  fun _ hc _ hadds => .output (hids hc) hf hflow (hg.adds hadds)

/-- A loop hands the input of a pass to children. -/
theorem poised_sweep_pass {p : ActiveVisit} {enclosing : List ActiveVisit} {output : Json}
    {left i : Nat} (hready : w.Poised input (.passes p enclosing output (left + 1)) s)
    (hleft : i + (left + 1) = passCount output) :
    w.Poised input (.sweep (p :: enclosing) (.pass p.id i)
      (passInput output i (passCount output) (passItem? output i)) (w.flowChildren p.id))
      (s.onContext (·.setIteration (i + 1))) := by
  obtain ⟨hg, hf, k, outer, hloops⟩ := hready
  intro c hc journal hadds
  rw [RunState.onContext_context, RunContext.loops_setIteration_cons _ (i + 1) hloops]
  exact .pass (w.flowChildren_subset _ hc) hf (hg.adds hadds) (by omega)

/-- The passes after one that came to its end. -/
theorem poised_passes {p : ActiveVisit} {enclosing : List ActiveVisit} {output v : Json}
    {cause : Cause} {ids : List String} {left left' i : Nat}
    (hready : w.Poised input (.passes p enclosing output left) s)
    (hc : w.Course (.sweep (p :: enclosing) cause v ids) (s.onContext (·.setIteration i)) o s₁) :
    w.Poised input (.passes p enclosing output left') s₁ := by
  obtain ⟨hg, hf, k, outer, hloops⟩ := hready
  have hkeeps : s₁.context.loops = (s.context.setIteration i).loops := hc.keeps
  refine ⟨hg.adds hc.inside, hf, i, outer, ?_⟩
  rw [hkeeps, RunContext.loops_setIteration_cons _ i hloops]

/-- **Every course traces** what it hands down and what it calls. -/
theorem Course.traces {task : Task} (h : w.Course task s o s') :
    w.Poised input task s → Remembers vars s →
      Stretch (w.Traces vars input) s.journal s'.journal := by
  have hP := lasting_traces w vars input
  induction h with
  | @skipped enclosing cause id v s node hw hn hr =>
    intro _ _
    have hstart : Stretch (w.Traces vars input) s.journal (enter enclosing cause id v s).journal :=
      traces_note s (.visited ..) trivial
    exact hstart.trans hP (traces_skip ..)
  | failed hw hn hr hi hc ih =>
    intro hready hs
    obtain ⟨hcall, hfailed⟩ := traces_failed hn hr hready hs hi
    have hmem := remembers_call hi hs
    exact hcall.trans hP (ih hfailed (hmem.of_eq rfl rfl fun _ => rfl))
  | @dispatched enclosing cause id v s node h output s₁ o s' hw hn hr hi hf hc ih =>
    intro hready hs
    obtain ⟨hcall, hgave⟩ := traces_completed hn hr hready hs hi
    have hmem := remembers_call hi hs
    have hids : w.selected h.controlFlow id output ⊆ w.graph.children id :=
      fun c hc => w.flowChildren_subset id (w.selected_subset_flowChildren _ _ _ hc)
    exact hcall.trans hP (ih (poised_sweep_output hids (flow?_of_resolve? hn hr) hf hgave) hmem)
  | @tooDeep enclosing cause id v s node h output s₁ o s' hw hn hr hi hf hd hc ih =>
    intro hready hs
    obtain ⟨hcall, hgave⟩ := traces_completed hn hr hready hs hi
    have hmem := remembers_call hi hs
    have hrest := ih (hgave.tooDeep _) (hmem.of_eq rfl rfl fun _ => rfl)
    exact hcall.trans hP ((traces_note s₁ (.tooDeep ..) trivial).trans hP hrest)
  | @looped enclosing cause id v s node h output s₁ o s' hw hn hr hi hf hd hc ih =>
    intro hready hs
    obtain ⟨hcall, hgave⟩ := traces_completed hn hr hready hs hi
    have hmem := remembers_call hi hs
    have hentered : Stretch (w.Traces vars input) s₁.journal
        (enterLoop id (passCount output) s₁).journal :=
      traces_note (s₁.onContext _) (.entered ..) trivial
    have hflow : w.flow? id = some .loop := by rw [flow?_of_resolve? hn hr, hf]
    have hgave' : Gave ⟨id, cause⟩ enclosing output (enterLoop id (passCount output) s₁).journal :=
      hgave.adds (.cons trivial _)
    have hrest := ih ⟨hgave', hflow, 0, _, loops_enterLoop ..⟩ (remembers_enterLoop _ _ hmem)
    exact hcall.trans hP (hentered.trans hP hrest)
  | @recovered v enclosing e s handler o s' hr hc ih =>
    intro hready hs
    obtain ⟨rs, hj⟩ := (told_recordFailure w v.id e s).journal
    have hfailed : FailedWith v enclosing e (w.recordFailure v.id e s).journal :=
      hj ▸ FailedWith.reports hready rs
    have hrest := ih (.failure hr hfailed) (remembers_recordFailure _ _ hs)
    exact (traces_recordFailure ..).trans hP hrest
  | unrecovered hr => exact fun _ _ => traces_recordFailure ..
  | sweepNil => exact fun _ _ => .refl _
  | sweepStop hc ih =>
    exact fun hready hs => ih (hready _ List.mem_cons_self _ (.refl _)) hs
  | @sweepNext chain cause v id rest s s₁ o s' hc hn ih ihn =>
    intro hready hs
    have hfirst := ih (hready id List.mem_cons_self _ (.refl _)) hs
    have hkeeps : s₁.context.loops = s.context.loops := hc.keeps
    -- what the first child added happened inside the visits that the others belong to
    refine hfirst.trans hP (ihn (fun c hc' journal hadds => ?_) (hc.remembers hs))
    rw [hkeeps]
    exact hready c (List.mem_cons_of_mem _ hc') journal (Adds.trans hc.inside hadds)
  | passesNil => exact fun _ _ => .refl _
  | passesStop i hleft hc ih =>
    exact fun hready hs => ih (poised_sweep_pass hready hleft) (remembers_setIteration _ hs)
  | passesNext i hleft hc hn ih ihn =>
    intro hready hs
    have hset := remembers_setIteration (i + 1) hs
    have hpass := ih (poised_sweep_pass hready hleft) hset
    exact Stretch.trans hP hpass (ihn (poised_passes hready hc) (hc.remembers hset))

end Walk

namespace Engine

variable {e : Engine σ τ} {nested : NestedRun σ} {workflow : Workflow} {input : Json}
  {session : Session σ} {store : τ}

theorem Walked.traces {r : RunReport σ τ} {w : Walk σ τ} {trigger : String}
    {s₀ s₁ : RunState σ τ} {o : Except Error Unit}
    (hw : Walked e workflow input r w trigger s₀ s₁ o) :
    Stretch (w.Traces workflow.vars input) [] r.journal := by
  obtain ⟨rs₀, hj₀⟩ := hw.start_journal
  obtain ⟨id, hctx⟩ := hw.start_context
  have hready : w.Poised input (.visit [] .start trigger input) s₀ := by
    rw [Walk.Poised, hctx, hj₀]
    refine .start rs₀ ?_
    rw [hw.graph, hw.engine]
    exact hw.trigger_head
  have hmem : Remembers workflow.vars s₀ := by
    refine ⟨by rw [hctx], ?_⟩
    rw [hctx, hj₀]
    exact recalls_nil fun id => by simpa [lastOutput?] using lastOutput?_reports id rs₀ []
  exact hw.stretch (Walk.lasting_traces w _ _) (fun _ _ _ => trivial) (hw.course.traces hready hmem)

/-- A run starts with the first trigger, which receives the input of the run. -/
theorem Walked.first_visit {r : RunReport σ τ} {w : Walk σ τ} {trigger : String}
    {s₀ s₁ : RunState σ τ} {o : Except Error Unit}
    (hw : Walked e workflow input r w trigger s₀ s₁ o) :
    ∃ (later : List Event) (rs : List Report),
      r.journal = later ++ .visited trigger input .start [] [] :: rs.map .reported := by
  obtain ⟨rs₀, hj₀⟩ := hw.start_journal
  obtain ⟨rs₁, hj₁⟩ := hw.end_journal
  obtain ⟨id, hctx⟩ := hw.start_context
  obtain ⟨evs, hevs⟩ := hw.course.suffix_visit
  refine ⟨rs₁.map .reported ++ evs, rs₀, ?_⟩
  rw [hj₁, ← hevs, hctx, hj₀, List.append_assoc]

/-- Each pass of the loop hands its item to a node that fails, and that its failure to an error
handler. -/
def relay : Workflow where
  vars := [("site", .str "north")]
  nodes := [{ id := "start", tag := "trigger" },
    { id := "l", tag := "loop", config := .obj [("items", .arr [.str "x", .str "y"]),
      ("iterations", .ofNat 2)] },
    { id := "a", tag := "refuse" }, { id := "rescue", tag := "error_handler" }]
  edges := [⟨"start", "l"⟩, ⟨"l", "a"⟩, ⟨"a", "rescue"⟩]

end Engine

end FlowGraph
