import FlowGraph.Node.Flow
import FlowGraph.Proofs.Run.Failure
import FlowGraph.Proofs.Walk.Kept

/-! # The stack of loops in a run

A visit has around it the visits under way, and each of them is there for a cause. The causes that
are passes make up the stack of loops: one frame for each, with the number of the pass and, as the
number of all passes, what the loop gave as its last output. The stack holds at most as many frames
as the settings allow, because a loop that finds it full is turned away before its first pass.

* `Around` says this of the stack at the start of a visit, `TurnedAway` of a loop that found the
  stack full.
* `Ready` is what a task needs for it, `Course.tallies` the induction over the course.
* `runWith_loops` is the law of runs. By `Walk.loops_visit` the stack comes back after a visit. -/

namespace FlowGraph

variable {σ τ : Type}

/-- The loop and the pass, counted from one, that a visit is part of. -/
def Cause.pass? : Cause → Option (String × Nat)
  | pass parent index => some (parent, index + 1)
  | _ => none

/-- How a visit hangs on the visit around it: a loop visits in its passes, any other node when it
has its output, and both of them when they fail. -/
def Hangs (flow? : String → Option ControlFlow) (v p : ActiveVisit) : Prop :=
  match v.cause with
  | .start => False
  | .output parent => parent = p.id ∧ ∃ flow ≠ .loop, flow? p.id = some flow
  | .pass parent _ => parent = p.id ∧ flow? p.id = some .loop
  | .failure parent => parent = p.id

/-- **The stack of loops around a visit**: it belongs to the chain of the visit and the visits under
way, and `before` is the journal up to then. -/
structure Around (flow? : String → Option ControlFlow) (limit : Nat) (chain : List ActiveVisit)
    (before : List Event) (loops : List LoopFrame) : Prop where
  hangs : chain.IsChain (Hangs flow?)
  starts : ∃ trigger, chain.getLast? = some ⟨trigger, .start⟩
  passes : loops.map (fun f => (f.nodeId, f.iteration)) = chain.filterMap (·.cause.pass?)
  isLoop : ∀ f ∈ loops, flow? f.nodeId = some .loop
  counted : ∀ f ∈ loops, 1 ≤ f.iteration ∧ f.iteration ≤ f.maxIterations ∧
    (lastOutput? f.nodeId before).map Walk.passCount = some f.maxIterations
  depth : loops.length ≤ limit

/-- What a node did that was visited with the stack full: it completed and was turned away at once,
or it failed before. -/
def TurnedAway (limit : Nat) (id : String) (after : List Event) : Prop :=
  (∃ (later : List Event) (rs : List Report) (output : Json) (ctx : NodeContext),
    after = later ++ .tooDeep id (.loopDepthExceeded id limit) ::
      (rs.map .reported ++ [.completed id output, .invoked ctx])) ∨
  ∃ (later : List Event) (e : Error) (call : List Event), after = later ++ .failed id e :: call ∧
    (call = [] ∨ ∃ ctx, call = [.invoked ctx])

theorem TurnedAway.later {limit : Nat} {id : String} {after : List Event} (later : List Event)
    (h : TurnedAway limit id after) : TurnedAway limit id (later ++ after) := by
  rcases h with ⟨l, rs, output, ctx, rfl⟩ | ⟨l, e, call, rfl, hcall⟩
  · exact Or.inl ⟨later ++ l, rs, output, ctx, by simp⟩
  · exact Or.inr ⟨later ++ l, e, call, by simp, hcall⟩

namespace Around

variable {flow? : String → Option ControlFlow} {limit : Nat} {chain : List ActiveVisit}
  {v : ActiveVisit} {before before' : List Event} {loops : List LoopFrame} {c : String}

/-- The parent of a visit is among the visits around it. -/
theorem mem_of_parent {trigger p : String} : ∀ {chain : List ActiveVisit},
    chain.IsChain (Hangs flow?) → chain.getLast? = some ⟨trigger, .start⟩ →
    ∀ u ∈ chain, u.cause.parent? = some p → p ∈ chain.tail.map (·.id)
  | [], _, _, u, hu, _ => by cases hu
  | [a], _, hs, u, hu, hp => by
    obtain rfl := List.mem_singleton.mp hu
    obtain rfl : u = ⟨trigger, .start⟩ := by simpa using hs
    cases hp
  | a :: b :: rest, hc, hs, u, hu, hp => by
    obtain ⟨hab, hrest⟩ := List.isChain_cons_cons.mp hc
    rcases List.mem_cons.mp hu with rfl | hu
    · have hpb : p = b.id := by
        unfold Hangs at hab
        cases hcause : u.cause with
        | start => simp [hcause] at hab
        | output q => simp_all [Cause.parent?]
        | pass q i => simp_all [Cause.parent?]
        | failure q => simp_all [Cause.parent?]
      simp [hpb]
    · have hs' : (b :: rest).getLast? = some ⟨trigger, .start⟩ := by simpa using hs
      have hmem := mem_of_parent hrest hs' u hu hp
      exact List.mem_cons_of_mem _ hmem

/-- Every loop of the stack is among the visits under way. -/
theorem mem_of_frame (h : Around flow? limit chain before loops) {f : LoopFrame}
    (hf : f ∈ loops) : f.nodeId ∈ chain.tail.map (·.id) := by
  obtain ⟨trigger, hs⟩ := h.starts
  have hmem : (f.nodeId, f.iteration) ∈ chain.filterMap (·.cause.pass?) :=
    h.passes ▸ List.mem_map_of_mem hf
  obtain ⟨u, hu, hpass⟩ := List.mem_filterMap.mp hmem
  refine mem_of_parent h.hangs hs u hu ?_
  cases hcause : u.cause <;> simp_all [Cause.pass?, Cause.parent?]

theorem later (h : Around flow? limit chain before loops)
    (hlast : ∀ id ∈ chain.tail.map (·.id), lastOutput? id before' = lastOutput? id before) :
    Around flow? limit chain before' loops :=
  { h with counted := fun f hf => by rw [hlast _ (h.mem_of_frame hf)]; exact h.counted f hf }

/-- The stack at the start of a run. -/
theorem start (trigger : String) (before : List Event) :
    Around flow? limit [⟨trigger, .start⟩] before [] :=
  ⟨List.isChain_singleton _, ⟨trigger, rfl⟩, rfl, by simp, by simp, Nat.zero_le _⟩

/-- The stack for a child that is visited for a cause other than a pass. -/
theorem cons (h : Around flow? limit (v :: chain) before loops) {cause : Cause}
    (hc : Hangs flow? ⟨c, cause⟩ v) (hp : cause.pass? = none) :
    Around flow? limit (⟨c, cause⟩ :: v :: chain) before loops := by
  refine ⟨List.isChain_cons_cons.mpr ⟨hc, h.hangs⟩, ?_, ?_, h.isLoop, h.counted, h.depth⟩
  · obtain ⟨trigger, hs⟩ := h.starts
    exact ⟨trigger, by simpa using hs⟩
  · simpa [List.filterMap_cons, hp] using h.passes

/-- The stack for a child that is visited in a pass. -/
theorem pass (h : Around flow? limit (v :: chain) before loops) (hv : flow? v.id = some .loop)
    (hd : loops.length < limit) {i total : Nat} (hi : i < total)
    (hlast : (lastOutput? v.id before).map Walk.passCount = some total) :
    Around flow? limit (⟨c, .pass v.id i⟩ :: v :: chain) before
      (⟨v.id, i + 1, total⟩ :: loops) := by
  refine ⟨List.isChain_cons_cons.mpr ⟨⟨rfl, hv⟩, h.hangs⟩, ?_, ?_, ?_, ?_, hd⟩
  · obtain ⟨trigger, hs⟩ := h.starts
    exact ⟨trigger, by simpa using hs⟩
  · have hpasses := h.passes
    simpa [Cause.pass?] using hpasses
  · exact List.forall_mem_cons.mpr ⟨hv, h.isLoop⟩
  · exact List.forall_mem_cons.mpr ⟨⟨by simp, hi, hlast⟩, h.counted⟩

end Around

namespace Walk

variable {w : Walk σ τ} {s s' : RunState σ τ} {o : Except Error Unit}

/-- What is said of an event: the stack of loops fits a visit, a loop is turned away if the stack is
full, and no loop makes the stack too deep. -/
def Tallies (w : Walk σ τ) (after : List Event) (ev : Event) (before : List Event) : Prop :=
  match ev with
  | .visited id _ cause enclosing loops =>
    Around w.flow? w.settings.maxLoopDepth (⟨id, cause⟩ :: enclosing) before loops ∧
      (w.flow? id = some .loop → w.settings.maxLoopDepth ≤ loops.length →
        TurnedAway w.settings.maxLoopDepth id after)
  | .entered _ loops => loops.length ≤ w.settings.maxLoopDepth
  | _ => True

theorem lasting_tallies (w : Walk σ τ) : Lasting w.Tallies := by
  intro later after ev before h
  cases ev with
  | visited id input cause enclosing loops =>
    exact ⟨h.1, fun hf hfull => (h.2 hf hfull).later later⟩
  | _ => exact h

/-- What a task needs: the stack fits the visits that are to come. -/
def Ready (w : Walk σ τ) (task : Task) (s : RunState σ τ) : Prop :=
  match task with
  | .visit enclosing cause id _ => Around w.flow? w.settings.maxLoopDepth
      (⟨id, cause⟩ :: enclosing) s.journal s.context.loops
  | .recover v enclosing _ => Around w.flow? w.settings.maxLoopDepth
      (v :: enclosing) s.journal s.context.loops
  | .sweep chain cause _ ids => ∀ c ∈ ids, Around w.flow? w.settings.maxLoopDepth
      (⟨c, cause⟩ :: chain) s.journal s.context.loops
  | .passes v enclosing output _ => ∃ k outer,
      s.context.loops = ⟨v.id, k, passCount output⟩ :: outer ∧
      outer.length < w.settings.maxLoopDepth ∧
      Around w.flow? w.settings.maxLoopDepth (v :: enclosing) s.journal outer ∧
      w.flow? v.id = some .loop ∧ lastOutput? v.id s.journal = some output

/-! ### One step of a walk -/

/-- An event that has nothing to do with the stack. -/
def IsPlain : Event → Prop
  | .visited .. | .entered .. => False
  | _ => True

theorem tallies_of_isPlain {ev : Event} (h : IsPlain ev) (after before : List Event) :
    w.Tallies after ev before := by
  cases ev <;> first | exact h.elim | trivial

theorem tallies_plain (evs : List Event) (h : ∀ ev ∈ evs, IsPlain ev) (j : List Event) :
    Stretch w.Tallies j (evs ++ j) :=
  Stretch.of_forall evs fun ev hev => tallies_of_isPlain (h ev hev)

theorem isPlain_reports (rs : List Report) : ∀ ev ∈ rs.map Event.reported, IsPlain ev :=
  List.forall_mem_map.mpr fun _ _ => trivial

theorem tallies_told (h : Told s s') : Stretch w.Tallies s.journal s'.journal := by
  obtain ⟨rs, hrs⟩ := h.journal
  rw [hrs]
  exact tallies_plain _ (isPlain_reports rs) _

/-- The call of a handler, and what comes after it in the journal. -/
theorem tallies_invoke {node : Workflow.Node} {h : Handler σ} {input : Json}
    {outcome : Except Error Json} (hi : w.invoke node h input s = (outcome, s')) :
    Stretch w.Tallies s.journal s'.journal := by
  cases outcome with
  | error e =>
    rcases (invoke_error hi).2 with hj | hj
    · rw [hj]
      exact Stretch.refl _
    · rw [hj]
      exact tallies_plain [.invoked _] (by simp [IsPlain]) _
  | ok output =>
    obtain ⟨-, rs, hj⟩ := invoke_ok hi
    have hcall : Stretch w.Tallies s.journal
        (.completed node.id output :: .invoked (w.nodeContext node input s.context) :: s.journal) :=
      tallies_plain [.completed _ _, .invoked _] (by simp [IsPlain]) _
    rw [hj]
    exact hcall.trans (lasting_tallies w) (tallies_plain _ (isPlain_reports rs) _)

theorem tallies_skip (w : Walk σ τ) (id tag : String) (s : RunState σ τ) :
    Stretch w.Tallies s.journal (w.skip id tag s).journal :=
  (tallies_plain [.skipped id] (by simp [IsPlain]) _).trans (lasting_tallies w)
    (tallies_told (told_skip w id tag s))

theorem tallies_recordFailure (w : Walk σ τ) (id : String) (e : Error) (s : RunState σ τ) :
    Stretch w.Tallies s.journal (w.recordFailure id e s).journal := by
  have h := tallies_told (w := w) (told_recordFailure w id e s)
  exact h

/-- A visit, if what comes after its start is known. -/
theorem tallies_visit {enclosing : List ActiveVisit} {cause : Cause} {id : String} {input : Json}
    (hready : w.Ready (.visit enclosing cause id input) s)
    (h : Stretch w.Tallies (enter enclosing cause id input s).journal s'.journal)
    (hturned : w.flow? id = some .loop → w.settings.maxLoopDepth ≤ s.context.loops.length →
      ∀ after, s'.journal = after ++ (enter enclosing cause id input s).journal →
        TurnedAway w.settings.maxLoopDepth id after) :
    Stretch w.Tallies s.journal s'.journal :=
  h.first fun after heq => ⟨hready, fun hf hfull => hturned hf hfull after heq⟩

/-- The call of its handler leaves the stack of a visit as it was. -/
theorem around_invoke (hg : w.graph.Valid) {enclosing : List ActiveVisit} {cause : Cause}
    {id : String} {input : Json} {node : Workflow.Node} {h : Handler σ}
    {outcome : Except Error Json} (hw : w.graph.IsWay (id :: enclosing.map (·.id)))
    (hn : w.graph.node? id = some node)
    (hi : w.invoke node h input (enter enclosing cause id input s) = (outcome, s'))
    (hready : w.Ready (.visit enclosing cause id input) s) :
    Around w.flow? w.settings.maxLoopDepth (⟨id, cause⟩ :: enclosing) s'.journal
      s'.context.loops := by
  rw [(loops_invoke hi).trans (loops_enter ..)]
  refine Around.later hready fun n hmem => ?_
  have hcall := lastOutput?_invoke hi (ne_of_isWay hg hw hn n hmem)
  exact hcall

/-- The failure of a call turns a loop away. -/
theorem turnedAway_of_failed {node : Workflow.Node} {h : Handler σ} {input : Json} {e : Error}
    {id : String} {s₁ : RunState σ τ} (hi : w.invoke node h input s = (.error e, s₁))
    (hrest : Stretch w.Tallies (.failed id e :: s₁.journal) s'.journal) (limit : Nat)
    (after : List Event) (heq : s'.journal = after ++ s.journal) : TurnedAway limit id after := by
  obtain ⟨evs, hevs, -⟩ := hrest
  right
  rcases (invoke_error hi).2 with hj | hj
  · refine ⟨evs, e, [], ?_, Or.inl rfl⟩
    rw [hj, heq] at hevs
    exact List.append_cancel_right (by simpa using hevs)
  · refine ⟨evs, e, [.invoked (w.nodeContext node input s.context)], ?_, Or.inr ⟨_, rfl⟩⟩
    rw [hj, heq] at hevs
    exact List.append_cancel_right (by simpa using hevs)

theorem turnedAway_of_tooDeep {node : Workflow.Node} {h : Handler σ} {input output : Json}
    {limit : Nat} {s₁ : RunState σ τ} (hi : w.invoke node h input s = (.ok output, s₁))
    (hrest : Stretch w.Tallies
      (.tooDeep node.id (.loopDepthExceeded node.id limit) :: s₁.journal) s'.journal)
    (after : List Event) (heq : s'.journal = after ++ s.journal) :
    TurnedAway limit node.id after := by
  obtain ⟨evs, hevs, -⟩ := hrest
  obtain ⟨-, rs, hj⟩ := invoke_ok hi
  left
  refine ⟨evs, rs, output, w.nodeContext node input s.context, ?_⟩
  rw [hj, heq] at hevs
  exact List.append_cancel_right (by simpa using hevs)

/-! ### A whole walk -/

/-- **Every course tallies**: the stack fits each of its visits, and no loop goes deeper than the
settings allow. -/
theorem Course.tallies (hg : w.graph.Valid) {task : Task} (h : w.Course task s o s') :
    w.Ready task s → Stretch w.Tallies s.journal s'.journal := by
  have hP := lasting_tallies w
  induction h with
  | skipped hw hn hr =>
    intro hready
    refine tallies_visit hready (tallies_skip ..) fun hf => ?_
    rw [flow?_of_resolve?_none hn hr] at hf
    cases hf
  | @failed enclosing cause id input s node h e s₁ o s' hw hn hr hi hc ih =>
    intro hready
    have haround := around_invoke hg hw hn hi hready
    have hrest := ih (haround.later fun _ _ => rfl)
    have hfailed : Stretch w.Tallies s₁.journal (.failed id e :: s₁.journal) :=
      tallies_plain [.failed id e] (by simp [IsPlain]) _
    exact tallies_visit hready ((tallies_invoke hi).trans hP (hfailed.trans hP hrest))
      fun _ _ => turnedAway_of_failed hi hrest _
  | @dispatched enclosing cause id input s node h output s₁ o s' hw hn hr hi hf hc ih =>
    intro hready
    have hflow := flow?_of_resolve? hn hr
    have haround := around_invoke hg hw hn hi hready
    have hrest := ih fun c _ => haround.cons ⟨rfl, _, hf, hflow⟩ rfl
    refine tallies_visit hready ((tallies_invoke hi).trans hP hrest) fun hloop => ?_
    rw [hflow] at hloop
    exact absurd (Option.some.inj hloop) hf
  | @tooDeep enclosing cause id input s node h output s₁ o s' hw hn hr hi hf hd hc ih =>
    intro hready
    have haround := around_invoke hg hw hn hi hready
    have hrest := ih (haround.later fun _ _ => rfl)
    have htooDeep : Stretch w.Tallies s₁.journal
        (.tooDeep id (.loopDepthExceeded id w.settings.maxLoopDepth) :: s₁.journal) :=
      tallies_plain [.tooDeep id _] (by simp [IsPlain]) _
    refine tallies_visit hready ((tallies_invoke hi).trans hP (htooDeep.trans hP hrest)) ?_
    intro _ _
    obtain rfl := Graph.id_of_node? hn
    exact turnedAway_of_tooDeep hi hrest
  | @looped enclosing cause id input s node h output s₁ o s' hw hn hr hi hf hd hc ih =>
    intro hready
    have hflow : w.flow? id = some .loop := hf ▸ flow?_of_resolve? hn hr
    have haround := around_invoke hg hw hn hi hready
    have hlast : lastOutput? id s₁.journal = some output :=
      Graph.id_of_node? hn ▸ lastOutput?_invoke_ok hi
    have hrest := ih ⟨0, s₁.context.loops, rfl, hd, haround.later fun _ _ => rfl, hflow, hlast⟩
    have hentered : Stretch w.Tallies s₁.journal (enterLoop id (passCount output) s₁).journal :=
      Stretch.of_forall [.entered id _] fun ev hev _ _ => by
        obtain rfl := List.mem_singleton.mp hev
        exact hd
    refine tallies_visit hready ((tallies_invoke hi).trans hP (hentered.trans hP hrest)) ?_
    intro _ hfull
    have hdepth : s₁.context.loopDepth = s.context.loops.length :=
      congrArg List.length ((loops_invoke hi).trans (loops_enter ..))
    omega
  | @recovered v enclosing e s handler o s' hr hc ih =>
    intro hready
    have haround : Around w.flow? w.settings.maxLoopDepth (v :: enclosing)
        (w.recordFailure v.id e s).journal (w.recordFailure v.id e s).context.loops := by
      rw [loops_recordFailure]
      exact Around.later hready fun n _ => (told_recordFailure w v.id e s).lastOutput_eq n
    exact (tallies_recordFailure ..).trans hP (ih (haround.cons rfl rfl))
  | unrecovered hr => exact fun _ => tallies_recordFailure ..
  | sweepNil => exact fun _ => Stretch.refl _
  | sweepStop hc ih => exact fun hready => ih (hready _ (by simp))
  | @sweepNext chain cause input id rest s s₁ o s' hc hn ih ihn =>
    intro hready
    refine (ih (hready _ (by simp))).trans hP (ihn fun c hmem => ?_)
    have hloops : s₁.context.loops = s.context.loops := hc.keeps
    rw [hloops]
    exact Around.later (hready c (by simp [hmem])) (hc.lastOutput_eq hg)
  | passesNil => exact fun _ => Stretch.refl _
  | @passesStop v enclosing output left s e s' i hleft hc ih =>
    rintro ⟨k, outer, hloops, hd, haround, hflow, hlast⟩
    refine ih fun c _ => ?_
    rw [RunState.onContext_context, RunContext.loops_setIteration_cons _ _ hloops]
    exact haround.pass hflow hd (show i < passCount output by omega) (by simp [hlast])
  | @passesNext v enclosing output left s s₁ o s' i hleft hc hn ih ihn =>
    rintro ⟨k, outer, hloops, hd, haround, hflow, hlast⟩
    have hset := RunContext.loops_setIteration_cons s.context (i + 1) hloops
    have hsweep : Stretch w.Tallies s.journal s₁.journal := ih fun c _ => by
      rw [RunState.onContext_context, hset]
      exact haround.pass hflow hd (show i < passCount output by omega) (by simp [hlast])
    have hkept : s₁.context.loops = ⟨v.id, i + 1, passCount output⟩ :: outer := hc.keeps.trans hset
    have hsame := hc.lastOutput_eq hg
    refine hsweep.trans hP (ihn ⟨_, outer, hkept, hd, ?_, hflow, ?_⟩)
    · exact haround.later fun n hmem => hsame n (List.mem_cons_of_mem _ hmem)
    · exact (hsame v.id (List.mem_cons_self)).trans hlast

end Walk

namespace Engine

variable {e : Engine σ τ} {workflow : Workflow} {input : Json} {session : Session σ} {store : τ}

/-- The whole journal of a run tallies. -/
theorem Walked.tallies {r : RunReport σ τ} {w : Walk σ τ} {trigger : String}
    {s₀ s₁ : RunState σ τ} {o : Except Error Unit}
    (hw : Walked e workflow input r w trigger s₀ s₁ o) : Stretch w.Tallies [] r.journal := by
  obtain ⟨id, hctx⟩ := hw.start_context
  have hready : w.Ready (.visit [] .start trigger input) s₀ := by
    rw [Walk.Ready, hctx]
    exact Around.start trigger s₀.journal
  exact hw.stretch (Walk.lasting_tallies w) (fun _ _ _ => trivial)
    (hw.course.tallies hw.valid hready)

/-- A failure in the journal is among the failures of the run. -/
theorem Walked.exists_error_of_failure? {r : RunReport σ τ} {w : Walk σ τ} {trigger : String}
    {s₀ s₁ : RunState σ τ} {o : Except Error Unit}
    (hw : Walked e workflow input r w trigger s₀ s₁ o) {ev : Event} (hev : ev ∈ r.journal)
    {id message : String} (h : ev.failure? = some (id, message)) :
    ∃ x ∈ r.engine.context.errors, x.nodeId = id ∧ x.message = message := by
  obtain ⟨evs, rs₀, rs₁, hjournal, hf, -⟩ := hw.settled
  have hnew : ev ∈ evs := by
    rw [hjournal, List.mem_append, List.mem_append] at hev
    rcases hev with hev | hev | hev
    · exact absurd (Walk.quiet_reports rs₁ ev hev) (by simp [h])
    · exact hev
    · exact absurd (Walk.quiet_reports rs₀ ev hev) (by simp [h])
  have hmem : (id, message) ∈ evs.reverse.filterMap Event.failure? :=
    List.mem_filterMap.mpr ⟨ev, List.mem_reverse.mpr hnew, h⟩
  rw [hf] at hmem
  obtain ⟨x, hx, heq⟩ := List.mem_map.mp hmem
  exact ⟨x, hx, congrArg Prod.fst heq, congrArg Prod.snd heq⟩

/-- **The stack of loops in a run.** It is empty after the run, every visit gives it back, and it
never holds more loops than the settings allow. At the start of a visit it fits the visits under
way. A loop that finds it full makes no pass: it is turned away as soon as it has its output, or it
failed before it had one, and either is among the failures of the run. -/
theorem runWith_loops (h : e.Accepts workflow input session store) (nested : NestedRun σ) :
    let r := e.runWith nested workflow input session store
    let flow? := e.flow? workflow.graph
    let limit := e.settings.maxLoopDepth
    r.engine.context.loops = [] ∧
    (∀ (w : Walk σ τ) fuel enclosing cause id input s,
      (w.visit fuel enclosing cause id input s).2.context.loops = s.context.loops) ∧
    (∀ id loops, .entered id loops ∈ r.journal → loops.length ≤ limit) ∧
    (∀ ev ∈ r.journal, ∀ id message, ev.failure? = some (id, message) →
      ∃ x ∈ r.engine.context.errors, x.nodeId = id ∧ x.message = message) ∧
    ∀ after id input cause enclosing loops before,
      r.journal = after ++ .visited id input cause enclosing loops :: before →
      Around flow? limit (⟨id, cause⟩ :: enclosing) before loops ∧
      (flow? id = some .loop → limit ≤ loops.length → TurnedAway limit id after ∧
        ∀ child passInput index stack, .visited child passInput (.pass id index)
          (⟨id, cause⟩ :: enclosing) stack ∉ r.journal) := by
  intro r flow? limit
  obtain ⟨w, trigger, s₀, s₁, o, hw⟩ := h.walked nested
  have htallies : Stretch w.Tallies [] r.journal := hw.tallies
  have hlimit : w.settings.maxLoopDepth = limit := by rw [Walk.settings, hw.engine]
  have hflow : w.flow? = flow? := hw.flow_eq
  have hvisited : ∀ {after before id input cause enclosing loops},
      r.journal = after ++ .visited id input cause enclosing loops :: before →
      Around flow? limit (⟨id, cause⟩ :: enclosing) before loops ∧
        (flow? id = some .loop → limit ≤ loops.length → TurnedAway limit id after) := by
    intro after before id input cause enclosing loops heq
    have hev := htallies.get heq
    rwa [Walk.Tallies, hlimit, hflow] at hev
  refine ⟨?_, Walk.loops_visit, ?_, fun _ hev _ _ => hw.exists_error_of_failure? hev, ?_⟩
  · obtain ⟨id, hctx⟩ := hw.start_context
    have hkeeps : s₁.context.loops = s₀.context.loops := hw.course.keeps
    rw [show r.engine.context = _ from hw.end_context, hkeeps, hctx]
  · intro id loops hmem
    obtain ⟨after, before, heq⟩ := List.append_of_mem hmem
    exact hlimit ▸ htallies.get heq
  · intro after id input cause enclosing loops before heq
    obtain ⟨haround, hturned⟩ := hvisited heq
    refine ⟨haround, fun hloop hfull => ⟨hturned hloop hfull, ?_⟩⟩
    intro child passInput index stack hmem
    obtain ⟨after', before', heq'⟩ := List.append_of_mem hmem
    obtain ⟨hchild, -⟩ := hvisited heq'
    -- a pass of the loop would have one frame more around it than the loop itself
    have hpasses := congrArg List.length hchild.passes
    have hlength := congrArg List.length haround.passes
    have hdepth := hchild.depth
    simp only [List.length_map] at hpasses hlength
    rw [List.filterMap_cons_some (by rfl), List.length_cons] at hpasses
    omega

/-- A loop inside a loop, with room for one of them. -/
def crowded : Engine Unit Unit := { small with settings := { maxLoopDepth := 1 } }

/-- The inner loop of these finds the stack full. -/
def loopInLoop : Workflow where
  nodes := [{ id := "start", tag := "trigger" },
    { id := "outer", tag := "loop", config := .obj [("iterations", .ofNat 2)] },
    { id := "inner", tag := "loop", config := .obj [("iterations", .ofNat 3)] },
    { id := "rescue", tag := "error_handler" }, { id := "never", tag := "step" }]
  edges := [⟨"start", "outer"⟩, ⟨"outer", "inner"⟩, ⟨"inner", "rescue"⟩, ⟨"inner", "never"⟩]

theorem runWith_loops_loopInLoop :
    crowded.Accepts loopInLoop .null .dawn () ∧
    let r := crowded.runWith unnested loopInLoop .null .dawn ()
    r.engine.context.loops = [] ∧
      r.engine.context.errors.map (fun x => (x.nodeId, x.message)) =
        .replicate 2 ("inner", (Error.loopDepthExceeded "inner" 1).message) := by
  have haccepts : crowded.Accepts loopInLoop .null .dawn () :=
    ⟨⟨_, rfl⟩, fun _ h => by cases h⟩
  exact ⟨haccepts, (runWith_loops haccepts unnested).1, rfl⟩

/-- An engine that has no room for a loop. -/
def flat : Engine Unit Unit where
  registry := ⟨[("loop", Loop.handler Unit), ("trigger", Trigger.handler Unit "trigger" "")]⟩
  settings := { maxLoopDepth := 0 }

/-- A loop that says neither how many passes it makes nor over what. -/
def countless : Workflow where
  nodes := [{ id := "start", tag := "trigger" }, { id := "l", tag := "loop", config := .obj [] }]
  edges := [⟨"start", "l"⟩]

/-- A loop that finds the stack full need not be turned away for that: this one fails before it has
an output, and only that is among the failures of the run. -/
theorem not_loopDepthExceeded_of_full :
    flat.Accepts countless .null .dawn () ∧
    let r := flat.runWith unnested countless .null .dawn ()
    ¬ ∀ after id input cause enclosing loops before,
      r.journal = after ++ .visited id input cause enclosing loops :: before →
      flat.flow? countless.graph id = some .loop → flat.settings.maxLoopDepth ≤ loops.length →
      ∃ x ∈ r.engine.context.errors, x.nodeId = id ∧
        x.message = (Error.loopDepthExceeded id flat.settings.maxLoopDepth).message := by
  refine ⟨⟨⟨_, rfl⟩, fun _ h => by cases h⟩, ?_⟩
  intro r h
  have hjournal : r.journal = r.journal.take 2 ++
      .visited "l" .null (.output "start") [⟨"start", .start⟩] [] :: r.journal.drop 3 := rfl
  obtain ⟨x, hx, -, hmessage⟩ := h _ _ _ _ _ _ _ hjournal rfl (Nat.le_refl _)
  have herrors : r.engine.context.errors.map (·.message) =
      ["Node error: Loop requires either 'iterations' or 'items'"] := rfl
  have hmem := List.mem_map_of_mem (f := (·.message)) hx
  rw [herrors, List.mem_singleton, hmessage] at hmem
  exact absurd hmem (by decide)

end Engine

end FlowGraph
