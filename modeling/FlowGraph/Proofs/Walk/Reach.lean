import FlowGraph.Proofs.Graph.Part
import FlowGraph.Proofs.Walk.Recursion
import FlowGraph.Proofs.Walk.Within
import Mathlib.Data.List.Find

/-! # How far a walk reaches

A visit looks up its node and the children of its node, and goes on to children only. So it never
gets beyond what the edges lead to, and it does the same on any graph that looks the same that far.

* `visit_withGraph` changes the graph under a walk, with the same fuel; `visit_of_length_le` says
  that more fuel than nodes makes no difference.
* `Course.reaches`: every event of a course is about a node that the course reaches. -/

namespace FlowGraph

variable {σ τ : Type}

/-- The node that an event is about. -/
def Event.node? : Event → Option String
  | visited id _ _ _ _ => some id
  | skipped id => some id
  | invoked ctx => some ctx.nodeId
  | completed id _ => some id
  | failed id _ => some id
  | entered id _ => some id
  | tooDeep id _ => some id
  | reported _ => none
  | exhausted id => some id

/-- The nodes that a task begins with. -/
def Task.nodes : Task → List String
  | .visit _ _ id _ => [id]
  | .recover v _ _ => [v.id]
  | .sweep _ _ _ ids => ids
  | .passes v _ _ _ => [v.id]

namespace Walk

/-- The walk on another graph. -/
def withGraph (w : Walk σ τ) (g : Graph) : Walk σ τ := { w with graph := g }

/-! ### The same on other graphs -/

section

variable {w : Walk σ τ} {g : Graph} {start : String} (h : g.Agrees w.graph start)
include h

theorem recovery?_withGraph {id : String} (hid : w.graph.Reaches start id) :
    (w.withGraph g).recovery? id = w.recovery? id := by
  change (g.children id).find? (g.isErrorHandler w.settings) = w.recovery? id
  rw [h.children id hid]
  exact List.find?_congr fun c hc => h.isErrorHandler (hid.child hc) w.settings

theorem select?_withGraph {id : String} (hid : w.graph.Reaches start id)
    (p : Workflow.Node → Bool) : (w.withGraph g).select? id p = w.select? id p := by
  change (g.flowChildren w.settings id).find? _ = w.select? id p
  rw [h.flowChildren hid w.settings]
  refine List.find?_congr fun c hc => ?_
  rw [show (w.withGraph g).graph = g from rfl,
    h.node? c (hid.child (w.flowChildren_subset id hc))]

theorem selected_withGraph {id : String} (hid : w.graph.Reaches start id) (flow : ControlFlow)
    (output : Json) : (w.withGraph g).selected flow id output = w.selected flow id output := by
  cases flow with
  | sequential => exact h.flowChildren hid w.settings
  | branch => simp only [selected, select?_withGraph h hid]
  | switch => simp only [selected, select?_withGraph h hid]
  | loop => rfl

theorem recover_withGraph {id : String} (hid : w.graph.Reaches start id) (go : Onward σ τ)
    (e : Error) (s : RunState σ τ) : (w.withGraph g).recover go id e s = w.recover go id e s := by
  unfold recover
  rw [recovery?_withGraph h hid]
  rfl

theorem repeatChildren_withGraph {id : String} (hid : w.graph.Reaches start id) (go : Onward σ τ)
    (output : Json) (s : RunState σ τ) :
    (w.withGraph g).repeatChildren go id output s = w.repeatChildren go id output s := by
  unfold repeatChildren
  rw [show (w.withGraph g).flowChildren id = w.flowChildren id from h.flowChildren hid w.settings]

theorem visitWith_withGraph {node : Workflow.Node} (hid : w.graph.Reaches start node.id)
    (go : Onward σ τ) (handler : Handler σ) (input : Json) (s : RunState σ τ) :
    (w.withGraph g).visitWith go node handler input s = w.visitWith go node handler input s := by
  have hinvoke : (w.withGraph g).invoke node handler input s = w.invoke node handler input s := rfl
  unfold visitWith dispatch
  simp only [hinvoke, recover_withGraph h hid, repeatChildren_withGraph h hid,
    selected_withGraph h hid]
  rfl

/-- **A visit does the same on any graph** that agrees with its own from a node on, if that node
reaches it. -/
theorem visit_withGraph : ∀ {fuel : Nat} {enclosing : List ActiveVisit} {cause : Cause}
    {id : String} (input : Json) (s : RunState σ τ), w.graph.Reaches start id →
      (w.withGraph g).visit fuel enclosing cause id input s =
        w.visit fuel enclosing cause id input s
  | 0, _, _, _, _, _, _ => rfl
  | fuel + 1, enclosing, cause, id, input, s, hid => by
    have hnode : (w.withGraph g).graph.node? id = w.graph.node? id := h.node? id hid
    have hregistry : (w.withGraph g).engine.registry = w.engine.registry := rfl
    rw [visit_succ, visit_succ]
    unfold visitVia
    rw [hnode, hregistry]
    cases hn : w.graph.node? id with
    | none => rfl
    | some node =>
      obtain rfl := Graph.id_of_node? hn
      simp only
      cases w.engine.registry.resolve? node.tag with
      | none => rfl
      | some handler =>
        simp only
        rw [visitWith_withGraph h hid]
        refine visitWith_congr (fun cause' input s c hc => ?_) handler input _
        exact visit_withGraph input s (hid.child hc)

end

/-- More fuel than there are nodes makes no difference to the first visit. -/
theorem visit_of_length_le {w : Walk σ τ} (hg : w.graph.Valid) {id : String}
    (hid : id ∈ w.graph.order) {fuel : Nat} (hfuel : w.graph.nodes.length ≤ fuel) (cause : Cause)
    (input : Json) (s : RunState σ τ) :
    w.visit fuel [] cause id input s = w.visit w.graph.nodes.length [] cause id input s :=
  ((follows_visit hg).eq_visit hg input s (Graph.isWay_singleton hid) hfuel).symm

/-! ### Events -/

/-- **An event within reach**: the node it is about is reached. -/
def IsReached (w : Walk σ τ) (start : String) (ev : Event) : Prop :=
  ∀ id ∈ ev.node?, w.graph.Reaches start id

section

variable {w : Walk σ τ} {start : String} {s s' : RunState σ τ} {o : Except Error Unit}

theorem isReached_of_eq {ev : Event} {id : String} (hev : ev.node? = some id)
    (hid : w.graph.Reaches start id) : w.IsReached start ev := by
  rintro id' hid'
  rw [hev] at hid'
  cases hid'
  exact hid

theorem isReached_reported (report : Report) : w.IsReached start (.reported report) := by
  simp [IsReached, Event.node?]

theorem adds_told_reached (h : Told s s') : Adds (w.IsReached start) s.journal s'.journal :=
  h.adds isReached_reported

theorem adds_recordFailure_reached (w : Walk σ τ) (start id : String) (e : Error)
    (s : RunState σ τ) : Adds (w.IsReached start) s.journal (w.recordFailure id e s).journal :=
  adds_told_reached (s := s.onContext _) (told_recordFailure w id e s)

theorem adds_invoke_reached {node : Workflow.Node} {h : Handler σ} {input : Json}
    {outcome : Except Error Json} (hid : w.graph.Reaches start node.id)
    (hi : w.invoke node h input s = (outcome, s')) :
    Adds (w.IsReached start) s.journal s'.journal :=
  adds_of_invoke hi isReached_reported (isReached_of_eq rfl hid) fun _ => isReached_of_eq rfl hid

/-- A visit, up to the outcome of its node. -/
theorem adds_visit_reached {enclosing : List ActiveVisit} {cause : Cause} {id : String}
    {input : Json} {node : Workflow.Node} {h : Handler σ} {outcome : Except Error Json}
    (hid : w.graph.Reaches start id) (hn : w.graph.node? id = some node)
    (hi : w.invoke node h input (enter enclosing cause id input s) = (outcome, s')) :
    Adds (w.IsReached start) s.journal s'.journal := by
  obtain rfl := Graph.id_of_node? hn
  have henter : Adds (w.IsReached start) s.journal
      (enter enclosing cause node.id input s).journal := .cons (isReached_of_eq rfl hid) _
  exact henter.trans (adds_invoke_reached hid hi)

/-- **A course never gets beyond what it reaches.** -/
theorem Course.reaches {task : Task} (h : w.Course task s o s')
    (ht : ∀ id ∈ task.nodes, w.graph.Reaches start id) :
    Adds (w.IsReached start) s.journal s'.journal := by
  induction h with
  | @skipped enclosing cause id input s node hw hn hr =>
    have hid := ht id List.mem_cons_self
    have hevents : Adds (w.IsReached start) s.journal
        ((enter enclosing cause id input s).note (.skipped id)).journal :=
      (Adds.cons (isReached_of_eq rfl hid) _).trans (.cons (isReached_of_eq rfl hid) _)
    exact hevents.trans (adds_told_reached (told_skip w _ _ _))
  | failed hw hn hr hi hc ih =>
    have hid := ht _ List.mem_cons_self
    have hcall := adds_visit_reached hid hn hi
    exact hcall.trans ((Adds.cons (isReached_of_eq rfl hid) _).trans (ih ht))
  | dispatched hw hn hr hi hf hc ih =>
    have hid := ht _ List.mem_cons_self
    refine (adds_visit_reached hid hn hi).trans (ih fun c hc => hid.child ?_)
    exact w.flowChildren_subset _ (w.selected_subset_flowChildren _ _ _ hc)
  | tooDeep hw hn hr hi hf hd hc ih =>
    have hid := ht _ List.mem_cons_self
    have hcall := adds_visit_reached hid hn hi
    exact hcall.trans ((Adds.cons (isReached_of_eq rfl hid) _).trans (ih ht))
  | looped hw hn hr hi hf hd hc ih =>
    have hid := ht _ List.mem_cons_self
    have hcall := adds_visit_reached hid hn hi
    exact hcall.trans ((Adds.cons (isReached_of_eq rfl hid) _).trans (ih ht))
  | @recovered v _ _ _ _ _ _ hr hc ih =>
    have hid := ht v.id List.mem_cons_self
    refine (adds_recordFailure_reached w start v.id _ _).trans (ih fun c hc => ?_)
    obtain rfl := List.mem_singleton.mp hc
    exact hid.child (recovery?_mem hr)
  | unrecovered hr => exact adds_recordFailure_reached w start _ _ _
  | sweepNil => exact .refl _
  | sweepStop hc ih =>
    refine ih fun id hid => ht id ?_
    exact List.mem_singleton.mp hid ▸ List.mem_cons_self
  | sweepNext hc hn ih ihn =>
    have hfirst := ih fun id hid => ht id (List.mem_singleton.mp hid ▸ List.mem_cons_self)
    exact hfirst.trans (ihn fun id hid => ht id (List.mem_cons_of_mem _ hid))
  | passesNil => exact .refl _
  | @passesStop v _ _ _ _ _ _ i hleft hc ih =>
    have hid := ht v.id List.mem_cons_self
    exact ih fun c hc => hid.child (w.flowChildren_subset _ hc)
  | @passesNext v _ _ _ _ _ _ _ i hleft hc hn ih ihn =>
    have hid := ht v.id List.mem_cons_self
    exact (ih fun c hc => hid.child (w.flowChildren_subset _ hc)).trans (ihn ht)

end

end Walk

end FlowGraph
