import FlowGraph.Proofs.Graph.Search
import FlowGraph.Proofs.Walk.Effect

/-! # The course of a walk

`Walk.visit` calls itself through `sweep`, `passes`, `recover` and `dispatch`, with fuel. Its course
is the same without fuel: a `Task` is what is to be done next, and `Course w task s o s'` says that
doing it from `s` ends with the outcome `o` in `s'`. There is one rule for every way a visit can go,
so a law of all walks is one induction with a case for each of them.

On a valid graph a visit follows its course (`visit_course`): the fuel never runs out, because the
visits under way lie on a way along the edges. -/

namespace FlowGraph

variable {σ τ : Type}

/-- How a node of a graph goes on, if it has a handler. -/
def Engine.flow? (e : Engine σ τ) (g : Graph) (id : String) : Option ControlFlow :=
  ((g.node? id).bind fun n => e.registry.resolve? n.tag).map (·.controlFlow)

/-- What is to be done in a walk. The visits under way come innermost first. -/
inductive Task where
  | visit (enclosing : List ActiveVisit) (cause : Cause) (id : String) (input : Json)
  /-- Deal with a failure of a visit. -/
  | recover (v : ActiveVisit) (enclosing : List ActiveVisit) (e : Error)
  /-- Visit nodes in order. -/
  | sweep (chain : List ActiveVisit) (cause : Cause) (input : Json) (ids : List String)
  /-- Make the last `left` passes of a visit. -/
  | passes (v : ActiveVisit) (enclosing : List ActiveVisit) (output : Json) (left : Nat)

namespace Walk

/-- The state after a failure is noted and logged. -/
def recordFailure (w : Walk σ τ) (id : String) (e : Error) (s : RunState σ τ) : RunState σ τ :=
  w.log (some id) .error e.message (some (.ofFields [("code", .str e.code)]))
    (s.onContext (·.recordError id e.message s.now))

/-- The state after a node without a handler is passed over. -/
def skip (w : Walk σ τ) (id tag : String) (s : RunState σ τ) : RunState σ τ :=
  w.log (some id) .warn (unknownTypeText tag) none (s.note (.skipped id))

/-- **The course of a walk**, rule by rule. A visit lies on a way along the edges. -/
inductive Course (w : Walk σ τ) :
    Task → RunState σ τ → Except Error Unit → RunState σ τ → Prop where
  | skipped {enclosing cause id input s node}
    (hw : w.graph.IsWay (id :: enclosing.map (·.id))) (hn : w.graph.node? id = some node)
    (hr : w.engine.registry.resolve? node.tag = none) :
    Course w (.visit enclosing cause id input) s (.ok ())
      (w.skip id node.tag (enter enclosing cause id input s))
  | failed {enclosing cause id input s node h e s₁ o s'}
    (hw : w.graph.IsWay (id :: enclosing.map (·.id))) (hn : w.graph.node? id = some node)
    (hr : w.engine.registry.resolve? node.tag = some h)
    (hi : w.invoke node h input (enter enclosing cause id input s) = (.error e, s₁))
    (hc : Course w (.recover ⟨id, cause⟩ enclosing e) (s₁.note (.failed id e)) o s') :
    Course w (.visit enclosing cause id input) s o s'
  | dispatched {enclosing cause id input s node h output s₁ o s'}
    (hw : w.graph.IsWay (id :: enclosing.map (·.id))) (hn : w.graph.node? id = some node)
    (hr : w.engine.registry.resolve? node.tag = some h)
    (hi : w.invoke node h input (enter enclosing cause id input s) = (.ok output, s₁))
    (hf : h.controlFlow ≠ .loop)
    (hc : Course w (.sweep (⟨id, cause⟩ :: enclosing) (.output id) output
      (w.selected h.controlFlow id output)) s₁ o s') :
    Course w (.visit enclosing cause id input) s o s'
  | tooDeep {enclosing cause id input s node h output s₁ o s'}
    (hw : w.graph.IsWay (id :: enclosing.map (·.id))) (hn : w.graph.node? id = some node)
    (hr : w.engine.registry.resolve? node.tag = some h)
    (hi : w.invoke node h input (enter enclosing cause id input s) = (.ok output, s₁))
    (hf : h.controlFlow = .loop) (hd : w.settings.maxLoopDepth ≤ s₁.context.loopDepth)
    (hc : Course w (.recover ⟨id, cause⟩ enclosing
      (.loopDepthExceeded id w.settings.maxLoopDepth))
      (s₁.note (.tooDeep id (.loopDepthExceeded id w.settings.maxLoopDepth))) o s') :
    Course w (.visit enclosing cause id input) s o s'
  | looped {enclosing cause id input s node h output s₁ o s'}
    (hw : w.graph.IsWay (id :: enclosing.map (·.id))) (hn : w.graph.node? id = some node)
    (hr : w.engine.registry.resolve? node.tag = some h)
    (hi : w.invoke node h input (enter enclosing cause id input s) = (.ok output, s₁))
    (hf : h.controlFlow = .loop) (hd : s₁.context.loopDepth < w.settings.maxLoopDepth)
    (hc : Course w (.passes ⟨id, cause⟩ enclosing output (passCount output))
      (enterLoop id (passCount output) s₁) o s') :
    Course w (.visit enclosing cause id input) s o (s'.onContext (·.popLoop))
  | recovered {v enclosing e s handler o s'} (hr : w.recovery? v.id = some handler)
    (hc : Course w (.visit (v :: enclosing) (.failure v.id) handler (failureInput v.id e))
      (w.recordFailure v.id e s) o s') :
    Course w (.recover v enclosing e) s o s'
  | unrecovered {v enclosing e s} (hr : w.recovery? v.id = none) :
    Course w (.recover v enclosing e) s (.error e) (w.recordFailure v.id e s)
  | sweepNil {chain cause input s} : Course w (.sweep chain cause input []) s (.ok ()) s
  | sweepStop {chain cause input id rest s e s'}
    (hc : Course w (.visit chain cause id input) s (.error e) s') :
    Course w (.sweep chain cause input (id :: rest)) s (.error e) s'
  | sweepNext {chain cause input id rest s s₁ o s'}
    (hc : Course w (.visit chain cause id input) s (.ok ()) s₁)
    (hn : Course w (.sweep chain cause input rest) s₁ o s') :
    Course w (.sweep chain cause input (id :: rest)) s o s'
  | passesNil {v enclosing output s} : Course w (.passes v enclosing output 0) s (.ok ()) s
  | passesStop {v enclosing output left s e s'} (i : Nat)
    (hleft : i + (left + 1) = passCount output)
    (hc : Course w (.sweep (v :: enclosing) (.pass v.id i)
      (passInput output i (passCount output) (passItem? output i)) (w.flowChildren v.id))
      (s.onContext (·.setIteration (i + 1))) (.error e) s') :
    Course w (.passes v enclosing output (left + 1)) s (.error e) s'
  | passesNext {v enclosing output left s s₁ o s'} (i : Nat)
    (hleft : i + (left + 1) = passCount output)
    (hc : Course w (.sweep (v :: enclosing) (.pass v.id i)
      (passInput output i (passCount output) (passItem? output i)) (w.flowChildren v.id))
      (s.onContext (·.setIteration (i + 1))) (.ok ()) s₁)
    (hn : Course w (.passes v enclosing output left) s₁ o s') :
    Course w (.passes v enclosing output (left + 1)) s o s'

variable {w : Walk σ τ}

/-! ### How a node goes on -/

/-- How a node goes on in a walk, if it has a handler. -/
def flow? (w : Walk σ τ) (id : String) : Option ControlFlow := w.engine.flow? w.graph id

theorem flow?_of_resolve? {id : String} {node : Workflow.Node} {h : Handler σ}
    (hn : w.graph.node? id = some node) (hr : w.engine.registry.resolve? node.tag = some h) :
    w.flow? id = some h.controlFlow := by
  simp [flow?, Engine.flow?, hn, hr]

theorem flow?_of_resolve?_none {id : String} {node : Workflow.Node}
    (hn : w.graph.node? id = some node) (hr : w.engine.registry.resolve? node.tag = none) :
    w.flow? id = none := by
  simp [flow?, Engine.flow?, hn, hr]

/-! ### Failures and nodes without a handler -/

theorem told_recordFailure (w : Walk σ τ) (id : String) (e : Error) (s : RunState σ τ) :
    Told (s.onContext (·.recordError id e.message s.now)) (w.recordFailure id e s) :=
  told_log w _ _ _ _ _

theorem told_skip (w : Walk σ τ) (id tag : String) (s : RunState σ τ) :
    Told (s.note (.skipped id)) (w.skip id tag s) :=
  told_log w _ _ _ _ _

/-! ### The children that a walk goes on to -/

theorem recovery?_mem {id handler : String} (h : w.recovery? id = some handler) :
    handler ∈ w.graph.children id := List.mem_of_find?_eq_some h

theorem flowChildren_subset (w : Walk σ τ) (id : String) :
    w.flowChildren id ⊆ w.graph.children id := Graph.flowChildren_subset _ _

theorem select?_mem {id child : String} {p : Workflow.Node → Bool}
    (h : w.select? id p = some child) : child ∈ w.flowChildren id :=
  List.mem_of_find?_eq_some h

theorem selected_subset_flowChildren (w : Walk σ τ) (flow : ControlFlow) (id : String)
    (output : Json) : w.selected flow id output ⊆ w.flowChildren id := by
  intro child hc
  cases flow with
  | sequential => exact hc
  | branch =>
    simp only [selected, Option.mem_toList] at hc
    exact select?_mem hc
  | switch =>
    simp only [selected, Option.mem_toList, Option.bind_eq_some_iff] at hc
    obtain ⟨tag, -, hs⟩ := hc
    exact select?_mem hs
  | loop => simp [selected] at hc

/-! ### A visit follows its course -/

theorem sweep_course {go : String → Step σ τ} {chain : List ActiveVisit} {cause : Cause}
    {input : Json} : ∀ {ids : List String}, (∀ id ∈ ids, ∀ s,
      Course w (.visit chain cause id input) s (go id s).1 (go id s).2) →
      ∀ s, Course w (.sweep chain cause input ids) s (sweep go ids s).1 (sweep go ids s).2
  | [], _, _ => .sweepNil
  | id :: rest, hgo, s => by
    have hid := hgo id (by simp) s
    unfold sweep
    rcases hv : go id s with ⟨_ | _, s₁⟩
    · rw [hv] at hid
      exact .sweepStop hid
    · rw [hv] at hid
      exact .sweepNext hid (sweep_course (fun d hd => hgo d (by simp [hd])) s₁)

theorem passes_course {go : Nat → String → Step σ τ} {v : ActiveVisit}
    {enclosing : List ActiveVisit} {output : Json} (hgo : ∀ i, ∀ c ∈ w.flowChildren v.id, ∀ s,
      Course w (.visit (v :: enclosing) (.pass v.id i) c
        (passInput output i (passCount output) (passItem? output i))) s (go i c s).1 (go i c s).2) :
    ∀ (left : Nat) (s : RunState σ τ), left ≤ passCount output →
      Course w (.passes v enclosing output left) s
        (passes go (w.flowChildren v.id) (passCount output) left s).1
        (passes go (w.flowChildren v.id) (passCount output) left s).2
  | 0, _, _ => .passesNil
  | left + 1, s, hle => by
    obtain ⟨i, hi⟩ : ∃ i, i + (left + 1) = passCount output := ⟨_, Nat.sub_add_cancel hle⟩
    have hindex : passCount output - (left + 1) = i := by omega
    have hsweep := sweep_course (hgo i) (s.onContext (·.setIteration (i + 1)))
    unfold passes
    simp only [hindex]
    rcases hv : sweep (go i) (w.flowChildren v.id) (s.onContext (·.setIteration (i + 1))) with
      ⟨_ | _, s₁⟩
    · rw [hv] at hsweep
      exact .passesStop i hi hsweep
    · rw [hv] at hsweep
      exact .passesNext i hi hsweep (passes_course hgo left s₁ (by omega))

theorem recover_course {go : Onward σ τ} {v : ActiveVisit} {enclosing : List ActiveVisit}
    {e : Error} (hgo : ∀ cause input s, ∀ c ∈ w.graph.children v.id,
      Course w (.visit (v :: enclosing) cause c input) s (go cause c input s).1
        (go cause c input s).2) (s : RunState σ τ) :
    Course w (.recover v enclosing e) s (w.recover go v.id e s).1 (w.recover go v.id e s).2 := by
  unfold recover
  cases hr : w.recovery? v.id with
  | none => exact .unrecovered hr
  | some handler => exact .recovered hr (hgo _ _ _ handler (recovery?_mem hr))

/-- **A visit follows its course** on a valid graph, if the visits under way lie on a way and the
fuel makes up for what the way lacks to all nodes. -/
theorem visit_course (hg : w.graph.Valid) :
    ∀ {fuel : Nat} {enclosing : List ActiveVisit} {cause : Cause} {id : String} {input : Json}
      (s : RunState σ τ), w.graph.IsWay (id :: enclosing.map (·.id)) →
      w.graph.nodes.length ≤ fuel + enclosing.length →
      Course w (.visit enclosing cause id input) s (w.visit fuel enclosing cause id input s).1
        (w.visit fuel enclosing cause id input s).2
  | 0, enclosing, cause, id, input, s, hway, hfuel => by
    have hlen := hg.length_le_of_isWay hway
    simp only [List.length_cons, List.length_map] at hlen
    omega
  | fuel + 1, enclosing, cause, id, input, s, hway, hfuel => by
    have hgo : ∀ cause' input s, ∀ c ∈ w.graph.children id,
        Course w (.visit (⟨id, cause⟩ :: enclosing) cause' c input) s
          (w.visit fuel (⟨id, cause⟩ :: enclosing) cause' c input s).1
          (w.visit fuel (⟨id, cause⟩ :: enclosing) cause' c input s).2 := by
      intro cause' input s c hc
      refine visit_course hg s (hg.isWay_cons hc hway) ?_
      simp only [List.length_cons]
      omega
    obtain ⟨node, hn⟩ := Option.isSome_iff_exists.mp
      (Graph.node?_isSome_iff.mpr (hway.declared (List.mem_cons_self)))
    have hid := Graph.id_of_node? hn
    unfold visit
    simp only [hn]
    cases hr : w.engine.registry.resolve? node.tag with
    | none => exact .skipped hway hn hr
    | some h =>
      simp only
      unfold visitWith
      rcases hi : w.invoke node h input (enter enclosing cause id input s) with ⟨e | output, s₁⟩
      · simp only [hid]
        exact .failed hway hn hr hi (recover_course (v := ⟨id, cause⟩) hgo _)
      · simp only [hid]
        unfold dispatch
        split_ifs with hf hd
        · exact .tooDeep hway hn hr hi hf hd (recover_course (v := ⟨id, cause⟩) hgo _)
        · refine .looped hway hn hr hi hf (by omega)
            (passes_course (v := ⟨id, cause⟩) ?_ _ _ (Nat.le_refl _))
          exact fun i c hc s => hgo _ _ s c (w.flowChildren_subset id hc)
        · refine .dispatched hway hn hr hi hf (sweep_course ?_ _)
          exact fun c hc s =>
            hgo _ _ s c (w.flowChildren_subset id (w.selected_subset_flowChildren _ _ _ hc))

end Walk

end FlowGraph
