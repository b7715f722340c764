import FlowGraph.Engine.Nested
import FlowGraph.Proofs.Walk.Course

/-! # The recursions behind a run

Two recursions of a run have no bound of their own: a visit visits children, and the workflow of a
node is run by an engine like the one around it. `Walk.visit` bounds the first by fuel and
`nestedRun` the second by levels. Here neither bound plays a part: the bounded functions solve the
equations of the recursions without a bound, and nothing else does. A recursion that went on forever
would leave its value open.

* `Walk.visitVia` is one visit, with any way to go on; `Walk.Follows` says that a function solves
  the equation of visits wherever the visits under way lie on a way along the edges.
  `follows_visit` and `Follows.eq_visit`: there is a solution, and it gives what `Walk.visit` does.
  `Course.eq_perform` is the converse of `visit_course`, so that a task has one course.
* `eq_unboundedRun_iff`: the equation of nested runs has exactly one solution, which is `nestedRun`
  with the levels that the settings leave. -/

namespace FlowGraph

variable {σ τ : Type}

namespace Walk

variable (w : Walk σ τ)

/-! ### One visit -/

/-- Visits a node, with a given way to go on. -/
def visitVia (go : List ActiveVisit → Onward σ τ) (enclosing : List ActiveVisit) : Onward σ τ :=
  fun cause id input s =>
    match w.graph.node? id with
    | none => (.ok (), s)
    | some node =>
      let s := enter enclosing cause id input s
      match w.engine.registry.resolve? node.tag with
      | none =>
        (.ok (), w.log (some id) .warn (unknownTypeText node.tag) none (s.note (.skipped id)))
      | some h => w.visitWith (go (⟨id, cause⟩ :: enclosing)) node h input s

theorem visit_succ (fuel : Nat) : w.visit (fuel + 1) = w.visitVia (w.visit fuel) := rfl

/-- **The equation of visits**, for those that lie on a way with the visits under way around them.
It says nothing of other visits, so they may be anything. -/
def Follows (go : List ActiveVisit → Onward σ τ) : Prop :=
  ∀ enclosing cause id input s, w.graph.IsWay (id :: enclosing.map (·.id)) →
    go enclosing cause id input s = w.visitVia go enclosing cause id input s

/-! ### What a visit goes on to -/

theorem sweep_congr {go go' : String → Step σ τ} : ∀ {ids : List String},
    (∀ id ∈ ids, ∀ s, go id s = go' id s) → ∀ s, sweep go ids s = sweep go' ids s
  | [], _, _ => rfl
  | id :: rest, hgo, s => by
    unfold sweep
    rw [hgo id List.mem_cons_self s]
    rcases go' id s with ⟨_ | _, s₁⟩
    · rfl
    · exact sweep_congr (fun c hc => hgo c (List.mem_cons_of_mem _ hc)) s₁

theorem passes_congr {go go' : Nat → String → Step σ τ} {children : List String}
    (hgo : ∀ i, ∀ c ∈ children, ∀ s, go i c s = go' i c s) (total : Nat) :
    ∀ left s, passes go children total left s = passes go' children total left s
  | 0, _ => rfl
  | left + 1, s => by
    unfold passes
    simp only [sweep_congr (hgo (total - (left + 1)))]
    rcases sweep (go' (total - (left + 1))) children
      (s.onContext (·.setIteration (total - (left + 1) + 1))) with ⟨_ | _, s₁⟩
    · rfl
    · exact passes_congr hgo total left s₁

section

variable {w} {go go' : Onward σ τ} {node : Workflow.Node}
  (hgo : ∀ cause input s, ∀ c ∈ w.graph.children node.id, go cause c input s = go' cause c input s)
include hgo

theorem recover_congr (e : Error) (s : RunState σ τ) :
    w.recover go node.id e s = w.recover go' node.id e s := by
  unfold recover
  cases hr : w.recovery? node.id with
  | none => rfl
  | some handler => exact hgo _ _ _ handler (recovery?_mem hr)

theorem repeatChildren_congr (output : Json) (s : RunState σ τ) :
    w.repeatChildren go node.id output s = w.repeatChildren go' node.id output s := by
  unfold repeatChildren
  simp only
  rw [passes_congr fun i c hc s => hgo (.pass node.id i) _ s c (w.flowChildren_subset _ hc)]

theorem dispatch_congr (flow : ControlFlow) (output : Json) (s : RunState σ τ) :
    w.dispatch go flow node.id output s = w.dispatch go' flow node.id output s := by
  unfold dispatch
  split_ifs
  · exact recover_congr hgo _ _
  · exact repeatChildren_congr hgo _ _
  · refine sweep_congr (fun c hc s => hgo _ _ s c ?_) s
    exact w.flowChildren_subset _ (w.selected_subset_flowChildren _ _ _ hc)

/-- A visit goes on to children of its node only. -/
theorem visitWith_congr (h : Handler σ) (input : Json) (s : RunState σ τ) :
    w.visitWith go node h input s = w.visitWith go' node h input s := by
  unfold visitWith
  rcases w.invoke node h input s with ⟨e | output, s₁⟩
  · exact recover_congr hgo _ _
  · exact dispatch_congr hgo _ _ _

end

/-- A visit on a way goes on along the way. -/
theorem visitVia_congr {w : Walk σ τ} (hg : w.graph.Valid)
    {go go' : List ActiveVisit → Onward σ τ} {enclosing : List ActiveVisit} {cause : Cause}
    {id : String} (hway : w.graph.IsWay (id :: enclosing.map (·.id)))
    (hgo : ∀ cause' c input s, w.graph.IsWay (c :: id :: enclosing.map (·.id)) →
      go (⟨id, cause⟩ :: enclosing) cause' c input s =
        go' (⟨id, cause⟩ :: enclosing) cause' c input s) (input : Json) (s : RunState σ τ) :
    w.visitVia go enclosing cause id input s = w.visitVia go' enclosing cause id input s := by
  unfold visitVia
  cases hn : w.graph.node? id with
  | none => rfl
  | some node =>
    obtain rfl := Graph.id_of_node? hn
    simp only
    cases w.engine.registry.resolve? node.tag with
    | none => rfl
    | some h =>
      refine visitWith_congr (fun cause' input s c hc => ?_) h input _
      exact hgo cause' c input s (hg.isWay_cons hc hway)

/-! ### The fuel of visits -/

/-- As much fuel as the way lacks to all nodes is a solution of the equation of visits. -/
theorem follows_visit {w : Walk σ τ} (hg : w.graph.Valid) :
    w.Follows fun enclosing => w.visit (w.graph.nodes.length - enclosing.length) enclosing := by
  intro enclosing cause id input s hway
  have hlen := hg.length_le_of_isWay hway
  simp only [List.length_cons, List.length_map] at hlen
  obtain ⟨fuel, hfuel⟩ : ∃ fuel, w.graph.nodes.length = fuel + 1 + enclosing.length :=
    ⟨w.graph.nodes.length - (enclosing.length + 1), by omega⟩
  have hrest : w.graph.nodes.length - enclosing.length = fuel + 1 := by omega
  have honward : w.graph.nodes.length - (enclosing.length + 1) = fuel := by omega
  simp only [hrest, visit_succ]
  refine visitVia_congr hg hway (fun cause' c input s _ => ?_) input s
  simp only [List.length_cons, honward]

/-- **Every solution of the equation of visits gives what a visit gives**, with any fuel that makes
up for what the way lacks to all nodes. -/
theorem Follows.eq_visit {w : Walk σ τ} (hg : w.graph.Valid)
    {go : List ActiveVisit → Onward σ τ} (hgo : w.Follows go) :
    ∀ {fuel : Nat} {enclosing : List ActiveVisit} {cause : Cause} {id : String} (input : Json)
      (s : RunState σ τ), w.graph.IsWay (id :: enclosing.map (·.id)) →
      w.graph.nodes.length ≤ fuel + enclosing.length →
      go enclosing cause id input s = w.visit fuel enclosing cause id input s
  | 0, enclosing, cause, id, input, s, hway, hfuel => by
    have hlen := hg.length_le_of_isWay hway
    simp only [List.length_cons, List.length_map] at hlen
    omega
  | fuel + 1, enclosing, cause, id, input, s, hway, hfuel => by
    rw [hgo enclosing cause id input s hway, visit_succ]
    refine visitVia_congr hg hway (fun cause' c input s hc => ?_) input s
    refine eq_visit hg hgo input s hc ?_
    simp only [List.length_cons]
    omega

/-! ### Tasks -/

/-- Does a task, with a given way to visit. -/
def perform (w : Walk σ τ) (go : List ActiveVisit → Onward σ τ) : Task → Step σ τ
  | .visit enclosing cause id input => go enclosing cause id input
  | .recover v enclosing e => w.recover (go (v :: enclosing)) v.id e
  | .sweep chain cause input ids => sweep (fun id => go chain cause id input) ids
  | .passes v enclosing output left =>
    passes (fun i id => go (v :: enclosing) (.pass v.id i) id
      (passInput output i (passCount output) (passItem? output i)))
      (w.flowChildren v.id) (passCount output) left

/-- **A course ends as the task does**, with any solution of the equation of visits. -/
theorem Course.eq_perform {w : Walk σ τ} {go : List ActiveVisit → Onward σ τ} (hgo : w.Follows go)
    {task : Task} {s s' : RunState σ τ} {o : Except Error Unit} (h : w.Course task s o s') :
    w.perform go task s = (o, s') := by
  induction h with
  | skipped hw hn hr =>
    simp only [perform, hgo _ _ _ _ _ hw, visitVia, hn, hr]
    rfl
  | failed hw hn hr hi hc ih =>
    obtain rfl := Graph.id_of_node? hn
    simp only [perform, hgo _ _ _ _ _ hw, visitVia, hn, hr, visitWith, hi]
    exact ih
  | dispatched hw hn hr hi hf hc ih =>
    obtain rfl := Graph.id_of_node? hn
    simp only [perform, hgo _ _ _ _ _ hw, visitVia, hn, hr, visitWith, hi, dispatch, if_neg hf]
    exact ih
  | tooDeep hw hn hr hi hf hd hc ih =>
    obtain rfl := Graph.id_of_node? hn
    simp only [perform, hgo _ _ _ _ _ hw, visitVia, hn, hr, visitWith, hi, dispatch, if_pos hf,
      if_pos hd]
    exact ih
  | looped hw hn hr hi hf hd hc ih =>
    obtain rfl := Graph.id_of_node? hn
    simp only [perform] at ih
    simp only [perform, hgo _ _ _ _ _ hw, visitVia, hn, hr, visitWith, hi, dispatch, if_pos hf,
      if_neg (Nat.not_le.mpr hd), repeatChildren, ih]
  | recovered hr hc ih =>
    simp only [perform, recover, hr]
    exact ih
  | unrecovered hr =>
    simp only [perform, recover, hr]
    rfl
  | sweepNil => rfl
  | sweepStop hc ih =>
    simp only [perform] at ih
    simp only [perform, sweep, ih]
  | sweepNext hc hn ih ihn =>
    simp only [perform] at ih
    simp only [perform, sweep, ih]
    exact ihn
  | passesNil => rfl
  | passesStop i hleft hc ih =>
    obtain rfl := Nat.eq_sub_of_add_eq hleft
    simp only [perform] at ih
    simp only [perform, passes, ih]
  | passesNext i hleft hc hn ih ihn =>
    obtain rfl := Nat.eq_sub_of_add_eq hleft
    simp only [perform] at ih
    simp only [perform, passes, ih]
    exact ihn

/-- **A task has one course** on a valid graph. -/
theorem Course.unique {w : Walk σ τ} (hg : w.graph.Valid) {task : Task} {s s₁ s₂ : RunState σ τ}
    {o₁ o₂ : Except Error Unit} (h₁ : w.Course task s o₁ s₁) (h₂ : w.Course task s o₂ s₂) :
    o₁ = o₂ ∧ s₁ = s₂ := by
  have heq := h₁.eq_perform (follows_visit hg)
  rw [h₂.eq_perform (follows_visit hg)] at heq
  exact ⟨congrArg Prod.fst heq.symm, congrArg Prod.snd heq.symm⟩

/-! ### Other ways to run the workflows of nodes -/

/-- The walk with another way to run the workflows of nodes. -/
def withNested (nested : NestedRun σ) : Walk σ τ := { w with nested }

section

variable {w} {nested : NestedRun σ} (hnested : ∀ config (ctx : NodeContext) s,
  ctx.settings = w.settings → ctx.depth = w.engine.depth →
    nested config ctx s = w.nested config ctx s)
include hnested

theorem call_withNested (node : Workflow.Node) (h : Handler σ) (input : Json) (c : RunContext) :
    (w.withNested nested).call node h (w.nodeContext node input c) =
      w.call node h (w.nodeContext node input c) := by
  funext s
  have hinvoke : h.invoke nested node.config (w.nodeContext node input c) s.session =
      h.invoke w.nested node.config (w.nodeContext node input c) s.session := by
    unfold Handler.invoke
    split
    · rfl
    · exact hnested _ _ _ rfl rfl
  unfold call
  rw [show (w.withNested nested).nested = nested from rfl, hinvoke]

theorem invoke_withNested (node : Workflow.Node) (h : Handler σ) (input : Json)
    (s : RunState σ τ) :
    (w.withNested nested).invoke node h input s = w.invoke node h input s := by
  have hguarded : (w.withNested nested).callGuarded node h (w.nodeContext node input s.context) s =
      w.callGuarded node h (w.nodeContext node input s.context) s := by
    unfold callGuarded
    rw [call_withNested hnested]
  have hctx : (w.withNested nested).nodeContext node input s.context =
      w.nodeContext node input s.context := rfl
  unfold invoke
  rw [hctx, hguarded]
  rfl

/-- A walk runs the workflows of nodes with its own settings and at its own depth only. -/
theorem visit_withNested : ∀ fuel, (w.withNested nested).visit fuel = w.visit fuel
  | 0 => rfl
  | fuel + 1 => by
    funext enclosing cause id input s
    rw [visit_succ, visit_succ, visit_withNested fuel]
    unfold visitVia visitWith
    simp only [invoke_withNested hnested]
    rfl

end

end Walk

namespace Engine

variable {e : Engine σ τ} {nested nested' : NestedRun σ}

/-- An engine runs the workflows of nodes with its own settings and at its own depth only. -/
theorem runWith_congr_nested (h : ∀ config (ctx : NodeContext) s, ctx.settings = e.settings →
      ctx.depth = e.depth → nested config ctx s = nested' config ctx s)
    (workflow : Workflow) (input : Json) (session : Session σ) (store : τ) :
    e.runWith nested workflow input session store =
      e.runWith nested' workflow input session store := by
  have hrecorded : ∀ runId s, e.runRecorded nested workflow input runId s =
      e.runRecorded nested' workflow input runId s := by
    intro runId s
    unfold runRecorded
    cases e.prepare workflow with
    | error fault => rfl
    | ok prepared =>
      obtain ⟨graph, triggers⟩ := prepared
      have hvisit := Walk.visit_withNested (w := ⟨graph, workflow.name, e, runId, nested'⟩) h
      simp only [Walk.withNested] at hvisit
      cases triggers with
      | nil => rfl
      | cons trigger rest =>
        simp only [walkFrom, hvisit]
        rfl
  unfold runWith
  simp only [hrecorded]
  rfl

end Engine

/-! ### The levels of nested runs -/

namespace SubWorkflow

variable {registry : Option (Registry σ)}

/-- The workflow of a node runs the workflows inside it with the same settings and one level
deeper, and it runs none if there are too many levels around it. -/
theorem runWith_congr {inner inner' : NestedRun σ} {ctx : NodeContext}
    (h : ctx.depth < ctx.settings.maxSubworkflowDepth → ∀ config (ctx' : NodeContext) s,
      ctx'.settings = ctx.settings → ctx'.depth = ctx.depth + 1 →
        inner config ctx' s = inner' config ctx' s) (config : Json) (session : Session σ) :
    runWith registry inner config ctx session = runWith registry inner' config ctx session := by
  unfold runWith
  cases Config.decode (.ofJson config) with
  | error e => rfl
  | ok c =>
    simp only
    split_ifs with hdepth
    · rfl
    · cases registry with
      | none => rfl
      | some registry =>
        have hrun := Engine.runWith_congr_nested (e := engine registry ctx)
          (h (Nat.lt_of_not_le hdepth)) (c.workflow ctx) (c.inputFor ctx) session ()
        simp only [hrun]

/-- Nested runs with the levels that the settings leave. -/
def unboundedRun (registry : Option (Registry σ)) : NestedRun σ := fun config ctx s =>
  nestedRun registry (ctx.settings.maxSubworkflowDepth - ctx.depth) config ctx s

theorem unboundedRun_eq (registry : Option (Registry σ)) :
    unboundedRun registry = runWith registry (unboundedRun registry) := by
  funext config ctx s
  unfold unboundedRun
  cases hlevels : ctx.settings.maxSubworkflowDepth - ctx.depth with
  | zero => exact runWith_congr (fun hdepth => by omega) config s
  | succ levels =>
    refine runWith_congr (fun _ config' ctx' s' hsettings hdepth => ?_) config s
    have hlevels' : ctx'.settings.maxSubworkflowDepth - ctx'.depth = levels := by
      rw [hsettings, hdepth]
      omega
    simp only [hlevels']

theorem eq_nestedRun {nested : NestedRun σ} (h : nested = runWith registry nested) :
    ∀ (levels : Nat) (config : Json) (ctx : NodeContext) (s : Session σ),
      ctx.settings.maxSubworkflowDepth - ctx.depth = levels →
      nested config ctx s = nestedRun registry levels config ctx s
  | 0, config, ctx, s, hlevels => by
    rw [h]
    exact runWith_congr (fun hdepth => by omega) config s
  | levels + 1, config, ctx, s, hlevels => by
    rw [h]
    refine runWith_congr (fun _ config' ctx' s' hsettings hdepth => ?_) config s
    refine eq_nestedRun h levels config' ctx' s' ?_
    rw [hsettings, hdepth]
    omega

/-- **The equation of nested runs has exactly one solution.** -/
theorem eq_unboundedRun_iff {nested : NestedRun σ} :
    nested = runWith registry nested ↔ nested = unboundedRun registry := by
  constructor
  · intro h
    funext config ctx s
    exact eq_nestedRun h _ config ctx s rfl
  · rintro rfl
    exact unboundedRun_eq registry

end SubWorkflow

/-- A run gives the workflows of its nodes as many levels as the settings leave. -/
theorem Engine.run_eq_runWith (e : Engine σ τ) (workflow : Workflow) (input : Json)
    (session : Session σ) (store : τ) : e.run workflow input session store =
      e.runWith (SubWorkflow.unboundedRun (some e.registry)) workflow input session store := by
  refine runWith_congr_nested (fun config ctx s hsettings hdepth => ?_) workflow input session store
  rw [SubWorkflow.unboundedRun, hsettings, hdepth]

end FlowGraph
