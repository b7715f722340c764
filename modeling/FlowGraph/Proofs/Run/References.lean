import FlowGraph.Proofs.Run.Provenance
import FlowGraph.Proofs.Run.Steering
import FlowGraph.Proofs.Template.Layout

/-! # References to results

A result of a node can be referred to by the name of the node, and in a child that it was handed to
also as the input. Both references lead to the same, with one exception: after the name of a node
the word `output` stands for the whole result, so a field of this name in the result is reached only
with the word said twice.

* `Scope.resolve_inputPath`, `Scope.resolve_nodePath`: what the two references resolve to;
  `Scope.Reaches` says how the second leads to a result and to what is in it.
* `Handing` is what a task needs for an input to be a last output, and what it passes on to the
  tasks inside. So every course hands on last outputs (`Course.hands`).
* `Engine.run_references` is the law of runs. -/

namespace FlowGraph

variable {σ τ : Type} {id p : String}

/-- A text without braces and blanks. -/
def IsSolid (s : String) : Prop :=
  ∀ c ∈ s.toList, (c ≠ '{' ∧ c ≠ '}') ∧ Text.isBlank c = false

instance : DecidablePred IsSolid := fun s => List.decidableBAll _ s.toList

/-- **A name that a node can be referred to by**: it has no braces, no blanks and no dots. -/
structure IsPlainName (id : String) : Prop where
  solid : IsSolid id
  undotted : '.' ∉ id.toList

/-- **A path that a reference can end in**: it has no braces, and no blanks at its ends. -/
structure IsPlainPath (p : String) : Prop where
  braceless : '{' ∉ p.toList ∧ '}' ∉ p.toList
  trimmed : Text.trimChars p.toList = p.toList

/-- Whether the first word of a path is `output`. -/
def BeginsWithOutput (p : String) : Prop := p = "output" ∨ "output.".toList <+: p.toList

instance : DecidablePred BeginsWithOutput := fun p => inferInstanceAs (Decidable (p = _ ∨ _))

/-- A reference into the input. -/
def inputReference (p : String) : Json := Engine.reference ("input." ++ p)

/-- A reference into the result of a node. -/
def nodeReference (id p : String) : Json := Engine.reference ("nodes." ++ id ++ "." ++ p)

/-- What a path leads to, or null. -/
def Json.found (j : Json) (p : String) : Json := (j.atPath? p).getD .null

theorem IsSolid.append {s t : String} (hs : IsSolid s) (ht : IsSolid t) : IsSolid (s ++ t) := by
  unfold IsSolid
  rw [String.toList_append]
  exact List.forall_mem_append.mpr ⟨hs, ht⟩

theorem IsPlainPath.append {front : String} (hp : IsPlainPath p) (hne : front.toList ≠ [])
    (hfront : IsSolid front) : IsPlainPath (front ++ p) where
  braceless := by
    simp only [String.toList_append, List.mem_append, not_or]
    exact ⟨⟨fun h => (hfront _ h).1.1 rfl, hp.braceless.1⟩,
      fun h => (hfront _ h).1.2 rfl, hp.braceless.2⟩
  trimmed := by
    rw [String.toList_append]
    exact Text.trimChars_append hne (fun c hc => (hfront c hc).2) hp.trimmed

theorem IsPlainPath.output (hp : IsPlainPath p) : IsPlainPath ("output." ++ p) :=
  hp.append (by decide) (by decide)

/-! ### What references resolve to -/

namespace Scope

variable {scope : Scope} {o : Json}

/-- A text between the marks is a reference. -/
theorem resolve_reference (scope : Scope) {name : String}
    (h : '{' ∉ name.toList ∧ '}' ∉ name.toList) :
    scope.resolve (Engine.reference name) = (scope.lookup name.toList).getD .null := by
  have hsingle : Template.single? (Template.opening ++ name.toList ++ Template.closing) =
      some name.toList := by
    refine Template.single?_eq_some.mpr ⟨Text.trimChars_eq_self ?_ ?_, fun hin => ?_, fun hin => ?_⟩
    · rintro c ⟨⟩
      rfl
    · intro c hc
      rw [List.getLast?_append] at hc
      cases hc
      rfl
    · exact h.1 (hin.subset (by simp [Template.opening]))
    · exact h.2 (hin.subset (by simp [Template.closing]))
  unfold Engine.reference resolve
  simp only [String.toList_ofList, hsingle]

theorem resolve_inputPath (scope : Scope) (hp : IsPlainPath p) :
    scope.resolve (inputReference p) = scope.input.found p := by
  have hplain : IsPlainPath ("input." ++ p) := hp.append (by decide) (by decide)
  rw [inputReference, resolve_reference scope hplain.braceless,
    lookup_inputPath (hplain.trimmed.trans String.toList_append), String.ofList_toList]
  rfl

/-- A reference to the result of a node, whose path may begin with a word that is passed over. -/
theorem resolve_nodePath (hid : IsPlainName id) (hp : IsPlainPath p)
    (ho : Fields.get? scope.outputs id = some o) :
    scope.resolve (nodeReference id p) = o.found (outputPath p) := by
  have hfront : IsSolid ("nodes." ++ id ++ ".") :=
    .append (.append (by decide) hid.solid) (by decide)
  have hplain : IsPlainPath ("nodes." ++ id ++ "." ++ p) := hp.append (by simp) hfront
  have htext : ("nodes." ++ id ++ "." ++ p).toList =
      "nodes.".toList ++ (id.toList ++ '.' :: p.toList) := by simp
  rw [nodeReference, resolve_reference scope hplain.braceless,
    lookup_nodePath hid.undotted (hplain.trimmed.trans htext)]
  simp only [String.ofList_toList, ho]
  rfl

/-- **A result that is reached** by the name of its node. After the name the word `output` stands for
the whole of it. -/
structure Reaches (scope : Scope) (id : String) (o : Json) : Prop where
  whole : scope.resolve (nodeReference id "output") = o
  behind : ∀ p, IsPlainPath p → scope.resolve (nodeReference id ("output." ++ p)) = o.found p
  direct : ∀ p, IsPlainPath p → ¬ BeginsWithOutput p →
    scope.resolve (nodeReference id p) = o.found p

theorem reaches (hid : IsPlainName id) (ho : Fields.get? scope.outputs id = some o) :
    scope.Reaches id o where
  whole := resolve_nodePath hid ⟨by decide, by decide⟩ ho
  behind := by
    intro p hp
    have hpath : outputPath (String.ofList ("output.".toList ++ p.toList)) = p :=
      (outputPath_append p.toList).trans String.ofList_toList
    rw [String.ofList_append, String.ofList_toList, String.ofList_toList] at hpath
    rw [resolve_nodePath hid hp.output ho, hpath]
  direct := by
    intro p hp hbegins
    obtain ⟨hword, hprefix⟩ := not_or.mp hbegins
    have hne : p.toList ≠ "output".toList := fun heq => hword (String.toList_inj.mp heq)
    have hpath : outputPath p = p := by simpa using outputPath_of_ne hne hprefix
    rw [resolve_nodePath hid hp ho, hpath]

end Scope

/-! ### Inputs that are last outputs -/

/-- A visit that was handed an output receives the last output of the node that gave it. -/
def Hands (_ : List Event) (ev : Event) (before : List Event) : Prop :=
  match ev with
  | .visited _ input (.output parent) _ _ => lastOutput? parent before = some input
  | _ => True

namespace Walk

variable {w : Walk σ τ} {s s' : RunState σ τ} {task task' : Task} {o : Except Error Unit}

/-- What a task needs: an output that is handed on is the last one of a visit under way. -/
def Handing (task : Task) (s : RunState σ τ) : Prop :=
  match task with
  | .visit _ (.output parent) _ input => lastOutput? parent s.journal = some input
  | .sweep chain (.output parent) input _ =>
    parent ∈ chain.map (·.id) ∧ lastOutput? parent s.journal = some input
  | _ => True

theorem ofVisits_hands : OfVisits Hands where
  lasting _ _ _ _ h := h
  quiet after ev before hev := by
    cases ev with
    | visited _ _ _ _ _ => cases hev
    | _ => trivial

/-- What is needed is passed on to the tasks inside. -/
theorem Includes.handing (hg : w.graph.Valid) (h : w.Includes task s task' s')
    (hready : Handing task s) : Handing task' s' := by
  cases h with
  | @dispatched enclosing cause id input s node h output s' hn hr hi hf =>
    have hlast : lastOutput? id s'.journal = some output :=
      Graph.id_of_node? hn ▸ lastOutput?_invoke_ok hi
    exact ⟨List.mem_cons_self, hlast⟩
  | @sweepFirst chain cause input id rest s =>
    cases cause with
    | output parent => exact hready.2
    | _ => trivial
  | @sweepRest chain cause input id rest s s₁ hc =>
    cases cause with
    | output parent =>
      -- the first child completes no node around it
      exact ⟨hready.1, (hc.lastOutput_eq hg parent hready.1).trans hready.2⟩
    | _ => trivial
  | _ => trivial

/-- **Every course hands on last outputs.** -/
theorem Course.hands (hg : w.graph.Valid) (h : w.Course task s o s') :
    Handing task s → Stretch Hands s.journal s'.journal := by
  refine ofVisits_hands.course (fun enclosing cause id input s hready => ?_)
    (fun hinside hready => hinside.handing hg hready) h
  cases cause with
  | output parent => exact hready
  | _ => trivial

end Walk

namespace Engine

/-- **References to results.** A handler of a run sees the last output of every node that has
completed, and the name of the node reaches it. A child that a node handed its output to reaches it
also as its input, and the two references agree on every path behind the word `output`, and without
it on every path that does not begin with this word. -/
theorem run_references (e : Engine σ τ) (nested : NestedRun σ) (workflow : Workflow) (input : Json)
    (session : Session σ) (store : τ) :
    let journal := (e.runWith nested workflow input session store).journal
    ∀ after ctx before, journal = after ++ .invoked ctx :: before →
      (∀ id o, IsPlainName id → lastOutput? id before = some o →
        Fields.get? ctx.outputs id = some o ∧ ctx.Reaches id o) ∧
      ∀ parent enclosing loops earlier,
        before = .visited ctx.nodeId ctx.input (.output parent) enclosing loops :: earlier →
        lastOutput? parent before = some ctx.input ∧
        ∀ p, IsPlainPath p → ctx.resolve (inputReference p) = ctx.input.found p ∧
          (IsPlainName parent →
            ctx.resolve (nodeReference parent ("output." ++ p)) = ctx.resolve (inputReference p) ∧
            (¬ BeginsWithOutput p →
              ctx.resolve (nodeReference parent p) = ctx.resolve (inputReference p))) := by
  intro journal after ctx before hjournal
  by_cases h : e.Accepts workflow input session store
  · obtain ⟨w, trigger, s₀, s₁, o, -, hw⟩ := h.walked_nested nested
    have hcall : Explained w.engine w.graph w.nested workflow.vars input after ctx before :=
      hw.traces.get hjournal
    have hreaches : ∀ id o, IsPlainName id → lastOutput? id before = some o →
        Fields.get? ctx.outputs id = some o ∧ ctx.Reaches id o := by
      intro id o hid ho
      have hsees := (hcall.outputs.last id).trans ho
      exact ⟨hsees, Scope.reaches hid hsees⟩
    refine ⟨hreaches, ?_⟩
    rintro parent enclosing loops earlier rfl
    have hhands : Stretch Hands [] journal :=
      hw.stretch Walk.ofVisits_hands.lasting (fun _ _ _ => trivial)
        (hw.course.hands hw.valid trivial)
    have hvisit : journal = (after ++ [.invoked ctx]) ++
        .visited ctx.nodeId ctx.input (.output parent) enclosing loops :: earlier := by
      simpa using hjournal
    have hlast : lastOutput? parent earlier = some ctx.input := hhands.get hvisit
    refine ⟨hlast, fun p hp => ⟨Scope.resolve_inputPath _ hp, fun hparent => ?_⟩⟩
    obtain ⟨-, hreached⟩ := hreaches parent ctx.input hparent hlast
    have hinput := Scope.resolve_inputPath ctx.toScope hp
    exact ⟨(hreached.behind p hp).trans hinput.symm,
      fun hbegins => (hreached.direct p hp hbegins).trans hinput.symm⟩
  · obtain ⟨rs, hrs⟩ := journal_of_not_accepts h nested
    have hmem : Event.invoked ctx ∈ rs.map Event.reported := by
      rw [← show journal = _ from hrs, hjournal]
      simp
    simp at hmem

/-- An engine with nested workflows and assignments. -/
def keeper : Engine Unit Unit where
  registry := ⟨[("set", SetFields.handler Unit), ("sub_workflow", subWorkflowHandler Unit),
    ("trigger", constant "trigger" .sequential)]⟩

/-- A node that holds a workflow. Its result has the last output inside in a field `output`. -/
def tally : Workflow.Node where
  id := "tally"
  tag := "sub_workflow"
  config := .obj [("nodes", .arr [.obj [("config", .obj [("total", .int 3)]), ("id", .str "sum"),
    ("type", .str "trigger")]])]

/-- A workflow that keeps what is found in the result of that node. -/
def ledger : Workflow where
  nodes := [{ id := "start", tag := "trigger" }, tally,
    { id := "keep", tag := "set"
      config := .obj [("values", .obj [("named", nodeReference "tally" "output.total"),
        ("received", inputReference "output.total")])] }]
  edges := [⟨"start", "tally"⟩, ⟨"tally", "keep"⟩]

theorem run_references_ledger :
    let journal := (keeper.run ledger .null .dawn ()).journal
    ∃ after ctx before, journal = after ++ .invoked ctx :: before ∧ ctx.nodeId = "keep" ∧
      IsPlainName "tally" ∧ ¬ BeginsWithOutput "nodesExecuted" ∧
      lastOutput? "tally" before = some ctx.input ∧
      ctx.resolve (inputReference "output.total") = .int 3 ∧
      ctx.resolve (nodeReference "tally" "output.output.total") = .int 3 ∧
      ctx.resolve (nodeReference "tally" "nodesExecuted") =
        ctx.resolve (inputReference "nodesExecuted") := by
  intro journal
  have hname : IsPlainName "tally" := ⟨by decide, by decide⟩
  have hword : ¬ BeginsWithOutput "nodesExecuted" := by decide
  have hlaw := run_references keeper (nestedRun (some keeper.registry) 5) ledger .null .dawn ()
  obtain ⟨-, hchild⟩ := hlaw (journal.take 1) _ (journal.drop 2) rfl
  obtain ⟨hlast, hagree⟩ := hchild "tally" _ _ _ rfl
  obtain ⟨htotal, hbehind⟩ := hagree "output.total" ⟨by decide, by decide⟩
  obtain ⟨-, hdirect⟩ := hagree "nodesExecuted" ⟨by decide, by decide⟩
  obtain ⟨htwice, -⟩ := hbehind hname
  exact ⟨journal.take 1, _, journal.drop 2, rfl, rfl, hname, hword, hlast, htotal.trans rfl,
    (htwice.trans htotal).trans rfl, (hdirect hname).2 hword⟩

/-- The total inside is in the result of that node, but the reference to it leads to nothing. -/
theorem not_resolve_nodeReference_output :
    ¬ ∀ (e : Engine Unit Unit) (workflow : Workflow) (input : Json) (after : List Event)
      (ctx : NodeContext) (before : List Event) (id : String) (o : Json) (p : String) (v : Json),
      (e.run workflow input .dawn ()).journal = after ++ .invoked ctx :: before →
      id ≠ "" → IsPlainName id → lastOutput? id before = some o → IsPlainPath p →
      o.atPath? p = some v → ctx.resolve (nodeReference id p) = v := by
  intro h
  let journal := (keeper.run ledger .null .dawn ()).journal
  have hfound := h keeper ledger .null (journal.take 1) _ (journal.drop 2) "tally" _ "output.total"
    (.int 3) rfl (by decide) ⟨by decide, by decide⟩ rfl ⟨by decide, by decide⟩ rfl
  cases hfound

end Engine

end FlowGraph
