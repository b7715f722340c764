import FlowGraph.Proofs.Fields
import FlowGraph.Proofs.Run.Failure
import FlowGraph.Proofs.Run.Isolation
import FlowGraph.Proofs.Walk.Moments
import FlowGraph.Proofs.Walk.Span

/-! # Nodes that steer a run

The handler of a condition, of a case list or of a loop only gives an output. The walk reads in it
how to go on: which child is selected, or how many passes are made and with which items. So both
have to agree on what the fields of the output mean. Here is what comes of it, from what the
configuration of a node resolves to on to the children that are visited.

* `Engine.Visits.called`: a handler that works by itself is called right after the visit began, and
  its result decides how the walk goes on.
* `Switch.selects_iff`, `Graph.selects_iff`: which tag a value selects, and which child a tag does.
* `Engine.run_routing` is the law of conditions and cases, `Engine.run_items` that of loops over
  items. -/

namespace FlowGraph

variable {σ τ : Type}

/-! ### Visits and the calls in them -/

/-- **A visit of a run** to a node whose tag has the handler `h` and whose configuration has the
fields that `h` needs. `after` is all that came after the visit began. -/
structure Engine.Visits (e : Engine σ τ) (workflow : Workflow) (journal : List Event)
    (node : Workflow.Node) (h : Handler σ) (received : Json) (enclosing : List ActiveVisit)
    (loops : List LoopFrame) (after : List Event) : Prop where
  noted : ∃ cause before,
    journal = after ++ .visited node.id received cause enclosing loops :: before
  declared : workflow.graph.node? node.id = some node
  handler : e.registry.resolve? node.tag = some h
  fields : missingField? node.config h.requiredFields = none

/-- A handler that does not touch the world and names no resource. -/
structure Handler.IsPlain (h : Handler σ) (run : Json → NodeContext → Except Error NodeResult) :
    Prop where
  behaviour : h.behaviour = .fallible run
  unnamed : ∀ config ctx, h.resource? config ctx = none

namespace Walk

variable {w : Walk σ τ} {s s' s₁ : RunState σ τ} {o : Except Error Unit}
  {enclosing : List ActiveVisit} {cause : Cause} {id : String} {input output : Json}
  {after before own evs : List Event} {node : Workflow.Node} {h : Handler σ}
  {run : Json → NodeContext → Except Error NodeResult}

/-- A node whose handler works by itself gives the result of the handler. -/
theorem invoke_of_plain (hplain : h.IsPlain run)
    (hfields : missingField? node.config h.requiredFields = none) (input : Json)
    (s : RunState σ τ) :
    (w.invoke node h input s).1 =
      (run node.config (w.nodeContext node input s.context)).map (·.data) := by
  rw [(invoke_of_unnamed (hplain.unnamed node.config) input s).1]
  unfold answer Handler.invoke
  rw [hfields, hplain.behaviour]
  rfl

/-- What comes first in a visit is the call of the handler, if nothing keeps it from being made. -/
theorem Visiting.called (hv : w.Visiting enclosing cause id input after before own s o s')
    (hn : w.graph.node? id = some node) (hr : w.engine.registry.resolve? node.tag = some h)
    (hunnamed : ∀ config ctx, h.resource? config ctx = none)
    (hfields : missingField? node.config h.requiredFields = none) :
    ∃ later,
      after = later ++ [.invoked (w.nodeContext node input (s.context.checkpoint id s.now))] := by
  let entered := enter enclosing cause id input s
  let ctx := w.nodeContext node input entered.context
  have hcall : w.callGuarded node h ctx entered = w.call node h ctx entered := by
    unfold callGuarded
    rw [hunnamed]
  obtain ⟨evs, hevs⟩ := (suffix_invoke_of_callGuarded hfields hcall rfl).trans
    (suffix_visit_of_invoke hn hr rfl hv.course)
  obtain rfl : evs ++ [.invoked ctx] = own := by
    refine hv.eq_own ?_
    rw [← hevs, ← hv.start_journal, List.append_assoc]
    rfl
  obtain ⟨later, rfl, -⟩ := hv.after_eq
  exact ⟨later ++ evs, by rw [List.append_assoc]; rfl⟩

/-- What comes of a call, right after a visit began, visits nothing. -/
theorem adds_invoke_quiet {outcome : Except Error Json}
    (hi : w.invoke node h input (enter enclosing cause id input s) = (outcome, s₁)) :
    Adds (fun ev => ev.depth? = none)
      (.visited id input cause enclosing s.context.loops :: s.journal) s₁.journal :=
  adds_of_invoke hi (fun _ => rfl) rfl fun _ => rfl

/-- A visit does not fail if all nodes that fail in its span have an error handler. -/
theorem Visiting.ok_of_handled
    (hv : w.Visiting enclosing cause id input after before own s o s')
    (h : ∀ ev ∈ span enclosing.length after, ∀ failed message,
      ev.failure? = some (failed, message) → w.Handles failed) : o = .ok () := by
  obtain ⟨new, evs, -, hevs, -, hagrees⟩ := hv.course.settled
  obtain rfl : evs = own ++ [.visited id input cause enclosing s.context.loops] := by
    refine List.append_cancel_right (hevs.symm.trans (hv.end_journal.trans ?_))
    rw [hv.start_journal]
    simp
  cases o with
  | ok _ => rfl
  | error e =>
    obtain ⟨front, last, -, -, hunhandled, -, rs, mark, earlier, hsplit, hmark⟩ := hagrees
    have hmem : mark ∈ own ++ [.visited id input cause enclosing s.context.loops] := by
      rw [hsplit]
      simp
    rcases List.mem_append.mp hmem with hown | hvisit
    · exact absurd (h mark (hv.mem_span hown) _ _ hmark.failure?) hunhandled
    · cases List.mem_singleton.mp hvisit
      cases hmark.failure?

end Walk

/-- **A handler that works by itself is called** right after the visit began, and what it gives is
what the node gives. -/
theorem Engine.Visits.called {e : Engine σ τ} {nested : NestedRun σ} {workflow : Workflow}
    {input : Json} {session : Session σ} {store : τ} {node : Workflow.Node} {h : Handler σ}
    {received : Json} {enclosing : List ActiveVisit} {loops : List LoopFrame} {after : List Event}
    {run : Json → NodeContext → Except Error NodeResult}
    (hv : e.Visits workflow (e.runWith nested workflow input session store).journal node h received
      enclosing loops after) (hplain : h.IsPlain run) :
    ∃ (w : Walk σ τ) (cause : Cause) (before own : List Event) (s : RunState σ τ)
      (o : Except Error Unit) (s' : RunState σ τ),
      w.graph = workflow.graph ∧ w.engine = e ∧ s.context.loops = loops ∧
      w.Visiting enclosing cause node.id received after before own s o s' ∧
      let ctx := w.nodeContext node received (s.context.checkpoint node.id s.now)
      (∃ later, after = later ++ [.invoked ctx]) ∧
        (w.invoke node h received (Walk.enter enclosing cause node.id received s)).1 =
          (run node.config ctx).map (·.data) := by
  obtain ⟨cause, before, hjournal⟩ := hv.noted
  obtain ⟨w, own, s, o, s', hgraph, rfl, -, -, hloops, hvisit⟩ := runWith_visit hjournal
  exact ⟨w, cause, before, own, s, o, s', hgraph, rfl, hloops, hvisit,
    hvisit.called (hgraph ▸ hv.declared) hv.handler hplain.unnamed hv.fields,
    Walk.invoke_of_plain hplain hv.fields _ _⟩

/-! ### The tag that a value selects -/

namespace Switch

/-- The tag of a case. A bare value is its own. -/
def Case.tag : Case → String
  | .tagged _ tag _ => tag
  | .bare v => v.text

/-- Whether a case matches a value: its operator holds, which is equality unless it gives one. -/
def Case.Matches (value : Json) : Case → Prop
  | .tagged v _ operator => evaluate value operator v
  | .bare v => evaluate value "equals" v

theorem Case.matches?_eq_some {x : Case} {value : Json} {tag : String} :
    x.matches? value = some tag ↔ x.Matches value ∧ tag = x.tag := by
  cases x <;> simp [matches?, Matches, Case.tag, @eq_comm _ tag]

theorem Case.matches?_eq_none {x : Case} {value : Json} :
    x.matches? value = none ↔ ¬ x.Matches value := by
  cases x <;> simp [matches?, Matches]

/-- **The tag that a value selects.** -/
inductive Selects (c : Config) (value : Json) : Option String → Prop where
  /-- The first case that matches gives its tag. -/
  | first {earlier x later} (hcases : c.cases = earlier ++ x :: later) (hx : x.Matches value)
    (hearlier : ∀ y ∈ earlier, ¬ y.Matches value) : Selects c value (some x.tag)
  | unmatched (hcases : c.cases ≠ []) (h : ∀ x ∈ c.cases, ¬ x.Matches value) :
    Selects c value c.defaultCase
  /-- Without cases a value is its own tag. -/
  | own (hcases : c.cases = []) (hvalue : value ≠ .null) : Selects c value (some value.text)
  | null (hcases : c.cases = []) (hvalue : value = .null) : Selects c value c.defaultCase

theorem matched?_eq_own {value : Json} (h : value ≠ .null) :
    matched? [] value = some value.text := by
  cases value with
  | null => exact absurd rfl h
  | _ => rfl

theorem matched?_of_ne_nil {cases : List Case} (h : cases ≠ []) (value : Json) :
    matched? cases value = cases.findSome? (·.matches? value) :=
  if_neg (by simpa using h)

/-- The selected tag is what the cases say. -/
theorem selects_iff {c : Config} {value : Json} {tag? : Option String} :
    Selects c value tag? ↔ tag? = selected? c value := by
  constructor
  · rintro (⟨hcases, hx, hearlier⟩ | ⟨hcases, h⟩ | ⟨hcases, hvalue⟩ | ⟨hcases, rfl⟩)
    · rw [selected?, matched?_of_ne_nil (by simp [hcases]), List.findSome?_eq_some_iff.mpr
        ⟨_, _, _, hcases, Case.matches?_eq_some.mpr ⟨hx, rfl⟩,
          fun y hy => Case.matches?_eq_none.mpr (hearlier y hy)⟩]
      rfl
    · rw [selected?, matched?_of_ne_nil hcases, List.findSome?_eq_none_iff.mpr
        fun x hx => Case.matches?_eq_none.mpr (h x hx)]
      rfl
    · rw [selected?, hcases, matched?_eq_own hvalue]
      rfl
    · rw [selected?, hcases]
      rfl
  · rintro rfl
    by_cases hcases : c.cases = []
    · by_cases hvalue : value = .null
      · simpa [selected?, hcases, hvalue, matched?, Json.isNull] using
          Selects.null (c := c) hcases hvalue
      · rw [selected?, hcases, matched?_eq_own hvalue]
        exact .own hcases hvalue
    · rw [selected?, matched?_of_ne_nil hcases]
      cases hfound : c.cases.findSome? (·.matches? value) with
      | none =>
        refine .unmatched hcases fun x hx => Case.matches?_eq_none.mp ?_
        exact List.findSome?_eq_none_iff.mp hfound x hx
      | some tag =>
        obtain ⟨earlier, x, later, hsplit, hx, hearlier⟩ := List.findSome?_eq_some_iff.mp hfound
        obtain ⟨hmatches, rfl⟩ := Case.matches?_eq_some.mp hx
        exact .first hsplit hmatches fun y hy => Case.matches?_eq_none.mp (hearlier y hy)

end Switch

/-! ### The child that a tag selects -/

namespace Graph

variable {g : Graph} {settings : EngineSettings} {id : String}
  {tagOf : Workflow.Node → Option String} {tag? child? : Option String}

/-- Whether a name is that of a node with a tag. -/
def HasTag (g : Graph) (tagOf : Workflow.Node → Option String) (tag id : String) : Prop :=
  ∃ n, g.node? id = some n ∧ tagOf n = some tag

/-- **The child that a tag selects**: the first one with the tag, in the order of the edges, of
those that take part in normal dispatch. -/
inductive Selects (g : Graph) (settings : EngineSettings) (id : String)
    (tagOf : Workflow.Node → Option String) : Option String → Option String → Prop where
  | untagged : Selects g settings id tagOf none none
  | absent {tag} (h : ∀ c ∈ g.flowChildren settings id, ¬ g.HasTag tagOf tag c) :
    Selects g settings id tagOf (some tag) none
  | first {tag earlier child later}
    (hchildren : g.flowChildren settings id = earlier ++ child :: later)
    (hchild : g.HasTag tagOf tag child) (hearlier : ∀ c ∈ earlier, ¬ g.HasTag tagOf tag c) :
    Selects g settings id tagOf (some tag) (some child)

/-- The first of the children that has a tag. -/
def firstWith? (g : Graph) (settings : EngineSettings) (id : String)
    (tagOf : Workflow.Node → Option String) (tag : String) : Option String :=
  (g.flowChildren settings id).find? fun c => (g.node? c).any fun n => tagOf n == some tag

theorem hasTag_iff {tag : String} :
    g.HasTag tagOf tag id ↔ ((g.node? id).any fun n => tagOf n == some tag) = true := by
  simp [HasTag, Option.any_eq_true]

theorem selects_iff :
    g.Selects settings id tagOf tag? child? ↔
      child? = tag?.bind (g.firstWith? settings id tagOf) := by
  constructor
  · intro h
    cases h with
    | untagged => rfl
    | @absent tag h =>
      have hnone : g.firstWith? settings id tagOf tag = none :=
        List.find?_eq_none.mpr fun c hc => by rw [← hasTag_iff]; exact h c hc
      exact hnone.symm
    | @first tag earlier child later hchildren hchild hearlier =>
      have hfound : g.firstWith? settings id tagOf tag = some child :=
        List.find?_eq_some_iff_append.mpr ⟨hasTag_iff.mp hchild, earlier, later, hchildren,
          fun c hc => by simpa [hasTag_iff] using hearlier c hc⟩
      exact hfound.symm
  · rintro rfl
    cases tag? with
    | none => exact .untagged
    | some tag =>
      cases hfound : g.firstWith? settings id tagOf tag with
      | none =>
        simp only [Option.bind_some, hfound]
        exact .absent fun c hc => by rw [hasTag_iff]; exact List.find?_eq_none.mp hfound c hc
      | some child =>
        simp only [Option.bind_some, hfound]
        obtain ⟨hchild, earlier, later, hchildren, hearlier⟩ :=
          List.find?_eq_some_iff_append.mp hfound
        exact .first hchildren (hasTag_iff.mpr hchild) fun c hc => by
          rw [hasTag_iff]
          simpa using hearlier c hc

end Graph

/-! ### Branches and cases -/

theorem IfElse.handler_isPlain : (IfElse.handler σ).IsPlain IfElse.run := ⟨rfl, fun _ _ => rfl⟩

theorem Switch.handler_isPlain : (Switch.handler σ).IsPlain Switch.run := ⟨rfl, fun _ _ => rfl⟩

theorem IfElse.run_eq_result {config : Json} {c : Config}
    (hconfig : Config.decode (.ofJson config) = .ok c) (ctx : NodeContext) :
    run config ctx = .ok (result c ctx) := by
  unfold run
  rw [hconfig]

theorem Switch.run_eq_result {config : Json} {c : Config}
    (hconfig : Config.decode (.ofJson config) = .ok c) (ctx : NodeContext) :
    run config ctx = .ok (result c ctx) := by
  unfold run
  rw [hconfig]

/-- The branch that a condition says. -/
theorem IfElse.branchOf_result (c : Config) (ctx : NodeContext) :
    Walk.branchOf (result c ctx).data = if holds c ctx then "true" else "false" := by
  simp [Walk.branchOf, result, Json.ofFields, Json.get?, Fields.get?_ofPairs, Json.asBool?]

/-- The case that a case list says. -/
theorem Switch.caseOf?_result (c : Config) (ctx : NodeContext) :
    Walk.caseOf? (result c ctx).data = selected? c (ctx.resolve c.value) := by
  cases h : selected? c (ctx.resolve c.value) <;>
    simp [Walk.caseOf?, result, Json.ofFields, Json.get?, Fields.get?_ofPairs, Json.asBool?, h,
      Json.ofText?, Json.asText?]

namespace Walk

variable {w : Walk σ τ}

theorem selected_branch (w : Walk σ τ) (id : String) (c : IfElse.Config) (ctx : NodeContext) :
    w.selected .branch id (IfElse.result c ctx).data =
      ((some (if IfElse.holds c ctx then "true" else "false")).bind
        (w.graph.firstWith? w.settings id (·.branchTag))).toList := by
  rw [← IfElse.branchOf_result]
  rfl

theorem selected_switch (w : Walk σ τ) (id : String) (c : Switch.Config) (ctx : NodeContext) :
    w.selected .switch id (Switch.result c ctx).data =
      ((Switch.selected? c (ctx.resolve c.value)).bind
        (w.graph.firstWith? w.settings id (·.caseTag))).toList := by
  rw [← Switch.caseOf?_result]
  rfl

/-- A sweep of one node at most visits it, whatever comes of it. -/
theorem Course.level_sweep_toList {chain : List ActiveVisit} {cause : Cause} {input : Json}
    {child? : Option String} {s s' : RunState σ τ} {o : Except Error Unit} {evs : List Event}
    (h : w.Course (.sweep chain cause input child?.toList) s o s')
    (hevs : s'.journal = evs ++ s.journal) :
    level chain.length evs = child?.toList.map fun c => (c, input) := by
  cases child? with
  | none => exact List.prefix_nil.mp (h.onAgenda evs hevs).isPrefix
  | some child =>
    cases h with
    | sweepStop hc => exact level_visit hc hevs
    | sweepNext hc hn =>
      cases hn
      exact level_visit hc hevs

end Walk

namespace Engine

variable {e : Engine σ τ} {nested : NestedRun σ} {workflow : Workflow} {input : Json}
  {session : Session σ} {store : τ} {node : Workflow.Node} {received : Json}
  {enclosing : List ActiveVisit} {loops : List LoopFrame} {after : List Event}

/-- **A node that selects a child by a tag** goes on to this child and to no other. -/
theorem Visits.selects {h : Handler σ} {run : Json → NodeContext → Except Error NodeResult}
    (result : NodeContext → NodeResult) (tagOf : Workflow.Node → Option String)
    (tag? : NodeContext → Option String)
    (hv : e.Visits workflow (e.runWith nested workflow input session store).journal node h received
      enclosing loops after) (hplain : h.IsPlain run) (hflow : h.controlFlow ≠ .loop)
    (hrun : ∀ ctx, run node.config ctx = .ok (result ctx))
    (hselected : ∀ (w : Walk σ τ) ctx, w.selected h.controlFlow node.id (result ctx).data =
      ((tag? ctx).bind (w.graph.firstWith? w.settings node.id tagOf)).toList) :
    ∃ later ctx child?, after = later ++ [.invoked ctx] ∧ ctx.nodeId = node.id ∧
      ctx.input = received ∧
      workflow.graph.Selects e.settings node.id tagOf (tag? ctx) child? ∧
      handedOn enclosing.length after = child?.toList.map fun c => (c, (result ctx).data) := by
  obtain ⟨w, cause, before, own, s, o, s', hgraph, rfl, -, hvisit, ⟨later, hcalled⟩, houtput⟩ :=
    hv.called hplain
  let ctx := w.nodeContext node received (s.context.checkpoint node.id s.now)
  rw [hrun] at houtput
  have hi : w.invoke node h received (Walk.enter enclosing cause node.id received s) =
      (.ok (result ctx).data, _) := Prod.ext houtput rfl
  obtain ⟨t, hsweep, ht⟩ := (Walk.Includes.dispatched (hgraph ▸ hv.declared) hv.handler hi
    hflow).ends_visit hvisit.course
  rw [hselected w ctx] at hsweep
  obtain ⟨evs, hevs⟩ := hsweep.suffix
  refine ⟨later, ctx, _, hcalled, rfl, rfl, Graph.selects_iff.mpr rfl, ?_⟩
  have hquiet := Walk.adds_invoke_quiet hi
  rw [hvisit.start_journal] at hquiet
  rw [hvisit.handedOn_eq hquiet (hevs.trans ht).symm, ← hgraph]
  exact hsweep.level_sweep_toList hevs.symm

/-- **Branches and cases.** A visit of a condition goes on to the first child, in the order of the
edges and without the error handlers, whose branch tag says how the comparison of the resolved
operands came out. A visit of a case list goes on to the first child whose case tag is the one that
the resolved value selects. Nothing else is visited, and nothing at all without such a child. -/
theorem run_routing (e : Engine σ τ) (nested : NestedRun σ) (workflow : Workflow) (input : Json)
    (session : Session σ) (store : τ) :
    let journal := (e.runWith nested workflow input session store).journal
    (∀ node received enclosing loops after c,
      e.Visits workflow journal node (IfElse.handler σ) received enclosing loops after →
      IfElse.Config.decode (.ofJson node.config) = .ok c →
      ∃ later ctx child?, after = later ++ [.invoked ctx] ∧ ctx.nodeId = node.id ∧
        ctx.input = received ∧
        workflow.graph.Selects e.settings node.id (·.branchTag)
          (some (if evaluate (ctx.resolve c.value1) c.operator (ctx.resolve c.value2) then "true"
            else "false")) child? ∧
        handedOn enclosing.length after =
          child?.toList.map fun child => (child, (IfElse.result c ctx).data)) ∧
    ∀ node received enclosing loops after c,
      e.Visits workflow journal node (Switch.handler σ) received enclosing loops after →
      Switch.Config.decode (.ofJson node.config) = .ok c →
      ∃ later ctx tag? child?, after = later ++ [.invoked ctx] ∧ ctx.nodeId = node.id ∧
        ctx.input = received ∧ Switch.Selects c (ctx.resolve c.value) tag? ∧
        workflow.graph.Selects e.settings node.id (·.caseTag) tag? child? ∧
        handedOn enclosing.length after =
          child?.toList.map fun child => (child, (Switch.result c ctx).data) := by
  refine ⟨fun node received enclosing loops after c hv hconfig => ?_,
    fun node received enclosing loops after c hv hconfig => ?_⟩
  · exact Visits.selects _ _ _ hv IfElse.handler_isPlain (by decide : ControlFlow.branch ≠ .loop)
      (IfElse.run_eq_result hconfig) fun w ctx => w.selected_branch node.id c ctx
  · obtain ⟨later, ctx, child?, hafter, hid, hinput, hselects, hhanded⟩ :=
      Visits.selects _ _ _ hv Switch.handler_isPlain (by decide : ControlFlow.switch ≠ .loop)
        (Switch.run_eq_result hconfig) fun w ctx => w.selected_switch node.id c ctx
    exact ⟨later, ctx, _, child?, hafter, hid, hinput, Switch.selects_iff.mpr rfl, hselects,
      hhanded⟩

/-- An engine with the nodes that steer a run. -/
def steerer : Engine Unit Unit where
  registry := ⟨[("error_handler", ErrorHandler.handler Unit), ("if_else", IfElse.handler Unit),
    ("loop", Loop.handler Unit), ("refuse", refusing), ("step", constant "step" .sequential),
    ("switch", Switch.handler Unit), ("trigger", constant "trigger" .sequential)]⟩

/-- A value that is one reference. -/
def reference (name : String) : Json :=
  .str (String.ofList (Template.opening ++ name.toList ++ Template.closing))

/-- A comparison of an amount. -/
def check : Workflow.Node where
  id := "check"
  tag := "if_else"
  config := .obj [("operator", .str "greater_than"), ("value1", reference "input.amount"),
    ("value2", .int 3)]

/-- A choice by the color. -/
def paint : Workflow.Node where
  id := "paint"
  tag := "switch"
  branchTag := some "true"
  config := .obj [
    ("cases", .arr [.str "blue", .obj [("case", .str "warm"), ("operator", .str "starts_with"),
      ("value", .str "r")], .str "red"]),
    ("value", reference "input.data.color")]

/-- Orders are sorted by their amount, and the large ones by their color. An error handler is not
selected, nor is a node whose tag another one has before it. -/
def sorted : Workflow where
  nodes := [
    { id := "start", tag := "trigger"
      config := .obj [("amount", .int 5), ("color", .str "red")] }, check,
    { id := "rescue", tag := "error_handler", branchTag := some "true" },
    { id := "small", tag := "step", branchTag := some "false" }, paint,
    { id := "large", tag := "step", branchTag := some "true" },
    { id := "blue", tag := "step", caseTag := some "blue" },
    { id := "red", tag := "step", caseTag := some "red" },
    { id := "warm", tag := "step", caseTag := some "warm" }]
  edges := [⟨"start", "check"⟩, ⟨"check", "rescue"⟩, ⟨"check", "small"⟩, ⟨"check", "paint"⟩,
    ⟨"check", "large"⟩, ⟨"paint", "blue"⟩, ⟨"paint", "red"⟩, ⟨"paint", "warm"⟩]

theorem run_routing_sorted :
    let journal := (steerer.runWith unnested sorted .null .dawn ()).journal
    let order : Json := .obj [("amount", .int 5), ("color", .str "red")]
    let checked : Json := .obj [("branch", .str "true"), ("conditionMet", .bool true),
      ("data", order), ("success", .bool true)]
    steerer.Visits sorted journal check (IfElse.handler Unit) order [⟨"start", .start⟩] []
      (journal.take 8) ∧
    steerer.Visits sorted journal paint (Switch.handler Unit) checked
      [⟨"check", .output "start"⟩, ⟨"start", .start⟩] [] (journal.take 5) ∧
    (handedOn 1 (journal.take 8)).map (·.1) = ["paint"] ∧
    (handedOn 2 (journal.take 5)).map (·.1) = ["warm"] := by
  intro journal order checked
  have hcheck : steerer.Visits sorted journal check (IfElse.handler Unit) order
      [⟨"start", .start⟩] [] (journal.take 8) := ⟨⟨_, journal.drop 9, rfl⟩, rfl, rfl, rfl⟩
  have hpaint : steerer.Visits sorted journal paint (Switch.handler Unit) checked
      [⟨"check", .output "start"⟩, ⟨"start", .start⟩] [] (journal.take 5) :=
    ⟨⟨_, journal.drop 6, rfl⟩, rfl, rfl, rfl⟩
  obtain ⟨hbranch, hcase⟩ := run_routing steerer unnested sorted .null .dawn ()
  obtain ⟨-, ctx, child?, -, -, hinput, hselects, hhanded⟩ :=
    hbranch _ _ _ _ _ ⟨reference "input.amount", "greater_than", .int 3⟩ hcheck rfl
  obtain ⟨-, ctx', tag?, child?', -, -, hinput', htag, hselects', hhanded'⟩ :=
    hcase _ _ _ _ _ ⟨reference "input.data.color",
      [.bare (.str "blue"), .tagged (.str "r") "warm" "starts_with", .bare (.str "red")], none⟩
      hpaint rfl
  have hmet : evaluate (ctx.resolve (reference "input.amount")) "greater_than"
      (ctx.resolve (.int 3)) := by
    obtain ⟨⟨input, vars, outputs⟩⟩ := ctx
    obtain rfl : input = order := hinput
    rfl
  have hcolor : ctx'.resolve (reference "input.data.color") = .str "red" := by
    obtain ⟨⟨input, vars, outputs⟩⟩ := ctx'
    obtain rfl : input = checked := hinput'
    rfl
  rw [if_pos hmet, Graph.selects_iff] at hselects
  obtain rfl : child? = some "paint" := hselects
  rw [hcolor, Switch.selects_iff] at htag
  obtain rfl : tag? = some "warm" := htag
  obtain rfl : child?' = some "warm" := Graph.selects_iff.mp hselects'
  exact ⟨hcheck, hpaint, congrArg (List.map (·.1)) hhanded, congrArg (List.map (·.1)) hhanded'⟩

end Engine

/-! ### Loops over items -/

namespace Loop

theorem handler_isPlain : (handler σ).IsPlain run := ⟨rfl, fun _ _ => rfl⟩

/-- The output of a loop over items that makes `m` passes. -/
def output (xs : List Json) (m : Nat) (input : Json) : Json :=
  .ofFields [("success", .bool true), ("iterations", .ofNat m), ("data", input),
    ("items", .arr (xs.take m))]

/-- A loop over items makes a pass for each of them, up to the limit of the engine. -/
theorem run_of_items {config raw : Json} {c : Config} {ctx : NodeContext} {xs : List Json}
    (hconfig : Config.decode (.ofJson config) = .ok c) (hraw : c.items = some raw)
    (hxs : ctx.resolve raw = .arr xs) : (run config ctx).map (·.data) =
      .ok (output xs (min xs.length ctx.settings.maxLoopIterations) ctx.input) := by
  unfold run
  rw [hconfig]
  simp only [result, items?, hraw, hxs]
  rfl

/-- **What the children of a loop over the items `xs` receive** in pass `i` of `m`. -/
structure IsPassInput (xs : List Json) (m i : Nat) (j : Json) : Prop where
  item : j.get? "item" = xs[i]?
  currentIteration : j.get? "currentIteration" = some (.ofNat (i + 1))
  isLastIteration : j.get? "isLastIteration" = some (.bool (i + 1 = m))
  iterations : j.get? "iterations" = some (.ofNat m)
  items : j.get? "items" = some (.arr (xs.take m))

theorem passCount_output (xs : List Json) (m : Nat) (input : Json) :
    Walk.passCount (output xs m input) = m := by
  simp [Walk.passCount, output, Json.ofFields, Json.get?, Fields.get?_ofPairs, Json.ofNat,
    Json.asNat?]

theorem passItem?_output {xs : List Json} {m i : Nat} (hi : i < m) (input : Json) :
    Walk.passItem? (output xs m input) i = xs[i]? := by
  simp [Walk.passItem?, output, Json.ofFields, Json.get?, Fields.get?_ofPairs, Json.asItems?, hi]

theorem isPassInput {xs : List Json} {m i : Nat} (hi : i < m) (hm : m ≤ xs.length)
    (input : Json) :
    IsPassInput xs m i (Walk.passInput (output xs m input) i m xs[i]?) := by
  rw [List.getElem?_eq_getElem (hi.trans_le hm)]
  constructor <;>
    simp [Walk.passInput, output, Json.ofFields, Json.get?, Fields.get?_ofPairs,
      Fields.get?_insert_of_ne, List.getElem?_eq_getElem (hi.trans_le hm), beq_eq_decide]

end Loop

namespace Walk

variable {w : Walk σ τ} {enclosing : List ActiveVisit} {cause : Cause} {id : String}
  {input output : Json} {after before own : List Event} {node : Workflow.Node} {h : Handler σ}
  {s s' s₁ : RunState σ τ} {o : Except Error Unit}

/-- Before its first pass a loop is entered. -/
theorem adds_enterLoop_quiet (id : String) (total : Nat) (s : RunState σ τ) :
    Adds (fun ev => ev.depth? = none) s.journal (enterLoop id total s).journal :=
  ⟨[.entered id _], rfl, by simp [Event.depth?]⟩

/-- A loop goes through its passes. -/
theorem Visiting.onAgenda_passes
    (hv : w.Visiting enclosing cause id input after before own s o s')
    (hn : w.graph.node? id = some node) (hr : w.engine.registry.resolve? node.tag = some h)
    (hi : w.invoke node h input (enter enclosing cause id input s) = (.ok output, s₁))
    (hflow : h.controlFlow = .loop) (hdepth : s.context.loops.length < w.settings.maxLoopDepth) :
    w.OnAgenda (.passes ⟨id, cause⟩ enclosing output (passCount output)) o
      (handedOn enclosing.length after) := by
  have hloops : s₁.context.loopDepth = s.context.loops.length := by
    rw [(invoke_ok hi).1]
    rfl
  obtain ⟨t, hpasses, ht⟩ := (Includes.looped hn hr hi hflow (hloops ▸ hdepth)).ends_visit hv.course
  obtain ⟨evs, hevs⟩ := hpasses.suffix
  have hquiet := (adds_invoke_quiet hi).trans (adds_enterLoop_quiet id (passCount output) s₁)
  rw [hv.start_journal] at hquiet
  rw [hv.handedOn_eq hquiet (hevs.trans ht).symm]
  exact hpasses.onAgenda evs hevs.symm

/-- What a loop over items has to do. -/
theorem agenda_items (w : Walk σ τ) (v : ActiveVisit) (enclosing : List ActiveVisit)
    (xs : List Json) (m : Nat) (input : Json) :
    w.agenda (.passes v enclosing (Loop.output xs m input) m) =
      (List.range m).flatMap fun i => (w.flowChildren v.id).map fun child =>
        (child, passInput (Loop.output xs m input) i m xs[i]?) := by
  simp only [agenda, Loop.passCount_output, Nat.sub_self, ← List.range_eq_range']
  refine List.flatMap_congr fun i hi => ?_
  rw [Loop.passItem?_output (List.mem_range.mp hi)]

end Walk

namespace Engine

variable {node : Workflow.Node} {received : Json} {enclosing : List ActiveVisit}
  {loops : List LoopFrame} {after : List Event}

/-- **Loops over items.** Let the items of a loop resolve to `xs` when it is called, and let there
be room for one more loop. The visit goes through the children without the error handlers, in the
order of the edges, once for each of the first `m` items; each child receives the item, where the
loop stands and the first `m` items. Something is left out only at the end, and only if a node of
the body fails that has no error handler. -/
theorem run_items (e : Engine σ τ) (nested : NestedRun σ) (workflow : Workflow) (input : Json)
    (session : Session σ) (store : τ) {c : Loop.Config} {raw : Json}
    (hv : e.Visits workflow (e.runWith nested workflow input session store).journal node
      (Loop.handler σ) received enclosing loops after)
    (hconfig : Loop.Config.decode (.ofJson node.config) = .ok c) (hraw : c.items = some raw) :
    ∃ later ctx, after = later ++ [.invoked ctx] ∧ ctx.nodeId = node.id ∧ ctx.input = received ∧
      ∀ xs, ctx.resolve raw = .arr xs → loops.length < e.settings.maxLoopDepth →
        let m := min xs.length e.settings.maxLoopIterations
        ∃ passInput : Nat → Json, (∀ i < m, Loop.IsPassInput xs m i (passInput i)) ∧
          let all := (List.range m).flatMap fun i =>
            (workflow.graph.flowChildren e.settings node.id).map fun child => (child, passInput i)
          handedOn enclosing.length after <+: all ∧
            ((∀ ev ∈ span enclosing.length after, ∀ failed message,
                ev.failure? = some (failed, message) →
                workflow.graph.HasErrorHandler e.settings failed) →
              handedOn enclosing.length after = all) := by
  obtain ⟨w, cause, before, own, s, o, s', hgraph, rfl, rfl, hvisit, ⟨later, hcalled⟩, houtput⟩ :=
    hv.called Loop.handler_isPlain
  refine ⟨later, w.nodeContext node received (s.context.checkpoint node.id s.now), hcalled, rfl,
    rfl, ?_⟩
  intro xs hxs hdepth m
  rw [Loop.run_of_items hconfig hraw hxs] at houtput
  have hi : w.invoke node (Loop.handler σ) received
      (Walk.enter enclosing cause node.id received s) = (.ok (Loop.output xs m received), _) :=
    Prod.ext houtput rfl
  obtain ⟨hpart, hcomplete⟩ :=
    hvisit.onAgenda_passes (hgraph ▸ hv.declared) hv.handler hi rfl hdepth
  rw [Loop.passCount_output, Walk.agenda_items] at hpart hcomplete
  refine ⟨fun i => Walk.passInput (Loop.output xs m received) i m xs[i]?,
    fun i hi => Loop.isPassInput hi (Nat.min_le_left _ _) _, ?_⟩
  rw [← hgraph]
  exact ⟨hpart, fun hhandled => hcomplete (hvisit.ok_of_handled hhandled)⟩

/-- A loop over rows. -/
def each : Workflow.Node where
  id := "each"
  tag := "loop"
  config := .obj [("items", reference "input.rows")]

/-- Two passes are made through two nodes, one of which fails and has an error handler. -/
def rounds : Workflow where
  nodes := [
    { id := "start", tag := "trigger"
      config := .obj [("rows", .arr [.str "a", .str "b", .str "c"])] }, each,
    { id := "spill", tag := "error_handler" }, { id := "left", tag := "refuse" },
    { id := "rescue", tag := "error_handler" }, { id := "right", tag := "step" }]
  edges := [⟨"start", "each"⟩, ⟨"each", "spill"⟩, ⟨"each", "left"⟩, ⟨"left", "rescue"⟩,
    ⟨"each", "right"⟩]

/-- The same engine, with at most two passes. -/
def capped : Engine Unit Unit := { steerer with settings := { maxLoopIterations := 2 } }

theorem run_items_rounds :
    let journal := (capped.runWith unnested rounds .null .dawn ()).journal
    let rows : List Json := [.str "a", .str "b", .str "c"]
    capped.Visits rounds journal each (Loop.handler Unit) (.obj [("rows", .arr rows)])
      [⟨"start", .start⟩] [] (journal.take 21) ∧
    ∃ passInput : Nat → Json, Loop.IsPassInput rows 2 0 (passInput 0) ∧
      Loop.IsPassInput rows 2 1 (passInput 1) ∧
      handedOn 1 (journal.take 21) = [("left", passInput 0), ("right", passInput 0),
        ("left", passInput 1), ("right", passInput 1)] := by
  intro journal rows
  have hvisit : capped.Visits rounds journal each (Loop.handler Unit) (.obj [("rows", .arr rows)])
      [⟨"start", .start⟩] [] (journal.take 21) := ⟨⟨_, journal.drop 22, rfl⟩, rfl, rfl, rfl⟩
  obtain ⟨-, ctx, -, -, hinput, hitems⟩ := run_items capped unnested rounds .null .dawn () hvisit
    (c := ⟨none, some (reference "input.rows")⟩) rfl rfl
  have hrows : ctx.resolve (reference "input.rows") = .arr rows := by
    obtain ⟨⟨input, vars, outputs⟩⟩ := ctx
    obtain rfl : input = .obj [("rows", .arr rows)] := hinput
    rfl
  obtain ⟨passInput, hpass, -, hall⟩ := hitems rows hrows (by decide)
  have hfailures : (span 1 (journal.take 21)).filterMap Event.failure? =
    [("left", "Node error: refused"), ("left", "Node error: refused")] := rfl
  refine ⟨hvisit, passInput, hpass 0 (by decide), hpass 1 (by decide), hall ?_⟩
  intro ev hev failed message hfailed
  have hmem : (failed, message) ∈ (span 1 (journal.take 21)).filterMap Event.failure? :=
    List.mem_filterMap.mpr ⟨ev, hev, hfailed⟩
  rw [hfailures] at hmem
  obtain ⟨rfl, -⟩ : failed = "left" ∧ message = "Node error: refused" := by simpa using hmem
  exact ⟨"rescue", by decide, rfl⟩

end Engine

end FlowGraph
