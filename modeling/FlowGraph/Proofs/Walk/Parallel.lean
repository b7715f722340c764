import FlowGraph.Engine.Run
import FlowGraph.Proofs.Breaker.History

/-! # Walks side by side

Two walks through one graph are compared state by state, along any relation that says what may
differ. If they see the same in related states, and if everything a walk does to a state keeps the
two related, the handlers included, then whole visits and whole runs end alike.

* `Carries` says that two steps end alike and lead from related states to related ones.
* `Walk.Parallel` holds what two walks owe to the relation; `Parallel.visit` is the law for their
  visits, with one lemma for each part of a visit before it.
* `Engine.runRecorded_parallel` is the law for runs. -/

namespace FlowGraph

variable {σ τ τ' : Type}

/-- Two steps end alike and lead from related states to related states. -/
def Carries {S S' α : Type} (R : S → S' → Prop) (f : S → α × S) (f' : S' → α × S') : Prop :=
  ∀ ⦃s s'⦄, R s s' → (f' s').1 = (f s).1 ∧ R (f s).2 (f' s').2

/-- The end of both steps, taken apart. -/
theorem Carries.ends {S S' α : Type} {R : S → S' → Prop} {f : S → α × S} {f' : S' → α × S'}
    (hf : Carries R f f') {s : S} {s' : S'} (h : R s s') :
    ∃ a t t', f s = (a, t) ∧ f' s' = (a, t') ∧ R t t' :=
  ⟨(f s).1, (f s).2, (f' s').2, rfl, Prod.ext (hf h).1 rfl, (hf h).2⟩

/-! ### Calls under a breaker -/

section

variable {S S' α : Type} [Monitor S] [Monitor S'] {R : S → S' → Prop} {s : S} {s' : S'}
  (hchanged : ∀ {s s'}, R s s' → ∀ next, R (Monitor.changed next s) (Monitor.changed next s'))
include hchanged

theorem Monitor.noteChange_rel (b b' : Breaker) (h : R s s') :
    R (Monitor.noteChange b b' s) (Monitor.noteChange b b' s') := by
  unfold Monitor.noteChange
  split_ifs
  · exact h
  · exact hchanged h b'.state

/-- A relation that keeps the time and the changes keeps calls under a breaker. -/
theorem Breakers.execute_rel (hnow : ∀ {s s'}, R s s' → Monitor.now s' = Monitor.now s)
    {operation : S → Except Error α × S} {operation' : S' → Except Error α × S'}
    (hop : Carries R operation operation') (bs : Breakers) (key : String) (h : R s s') :
    let r := bs.execute key operation s
    let r' := bs.execute key operation' s'
    r'.1 = r.1 ∧ r'.2.1 = r.2.1 ∧ R r.2.2 r'.2.2 := by
  cases hb : (bs.breaker key).admit? bs.rule (Monitor.now s) with
  | none =>
    rw [execute_of_none hb, execute_of_none (s := s') (by rw [hnow h, hb])]
    exact ⟨rfl, rfl, h⟩
  | some b =>
    rw [execute_of_some hb, execute_of_some (s := s') (by rw [hnow h, hb])]
    obtain ⟨hsame, hran⟩ := hop (Monitor.noteChange_rel hchanged (bs.breaker key) b h)
    simp only [hsame, hnow hran]
    exact ⟨trivial, trivial, Monitor.noteChange_rel hchanged b _ hran⟩

end

namespace Walk

/-! ### Two walks -/

/-- **What two walks owe to a relation of their states**: they have the same graph, settings and
handlers and see the same in related states; what they write into both states keeps these related;
and so does a handler that both call. -/
structure Parallel (w : Walk σ τ) (w' : Walk σ τ') (R : RunState σ τ → RunState σ τ' → Prop) :
    Prop where
  graph : w'.graph = w.graph
  settings : w'.settings = w.settings
  registry : w'.engine.registry = w.engine.registry
  context : ∀ {s s'}, R s s' → s'.context = s.context
  breakers : ∀ {s s'}, R s s' → s'.breakers = s.breakers
  clock : ∀ {s s'}, R s s' → s'.session.world.clock = s.session.world.clock
  note : ∀ {s s'}, R s s' → ∀ ev, R (s.note ev) (s'.note ev)
  onContext : ∀ {s s'}, R s s' → ∀ f, R (s.onContext f) (s'.onContext f)
  settle : ∀ {s s'}, R s s' → ∀ breakers, R { s with breakers } { s' with breakers }
  count : ∀ {s s'}, R s s' → ∀ c, R (s.count c) (s'.count c)
  report : ∀ {s s'}, R s s' → ∀ r, R (w.report r s) (w'.report r s')
  resource : ∀ {tag h}, w.engine.registry.resolve? tag = some h → ∀ node input c,
    h.resource? node.config (w'.nodeContext node input c) =
      h.resource? node.config (w.nodeContext node input c)
  call : ∀ {tag h}, w.engine.registry.resolve? tag = some h → ∀ node input c,
    Carries R (w.call node h (w.nodeContext node input c))
      (w'.call node h (w'.nodeContext node input c))

/-- Going through nodes in order carries what going to each of them carries. -/
theorem sweep_carries {R : RunState σ τ → RunState σ τ' → Prop} {go : String → Step σ τ}
    {go' : String → Step σ τ'} (hgo : ∀ id, Carries R (go id) (go' id)) :
    ∀ ids, Carries R (sweep go ids) (sweep go' ids)
  | [], _, _, h => ⟨rfl, h⟩
  | id :: rest, s, s', h => by
    obtain ⟨o, s₁, s₁', hran, hran', hnext⟩ := (hgo id).ends h
    unfold sweep
    rw [hran, hran']
    cases o with
    | error e => exact ⟨rfl, hnext⟩
    | ok _ => exact sweep_carries hgo rest hnext

namespace Parallel

variable {w : Walk σ τ} {w' : Walk σ τ'} {R : RunState σ τ → RunState σ τ' → Prop}
  {s : RunState σ τ} {s' : RunState σ τ'}

section

variable (hp : Parallel w w' R)
include hp

theorem now (h : R s s') : s'.now = s.now := congrArg Clock.wall (hp.clock h)

theorem flowChildren (id : String) : w'.flowChildren id = w.flowChildren id := by
  unfold Walk.flowChildren
  rw [hp.graph, hp.settings]

theorem recovery? (id : String) : w'.recovery? id = w.recovery? id := by
  unfold Walk.recovery?
  rw [hp.graph, hp.settings]

theorem selected (flow : ControlFlow) (id : String) (output : Json) :
    w'.selected flow id output = w.selected flow id output := by
  simp only [Walk.selected, Walk.select?, hp.flowChildren, hp.graph]

/-! ### One node -/

theorem log (nodeId : Option String) (level : LogLevel) (message : String) (data : Option Json)
    (h : R s s') : R (w.log nodeId level message data s) (w'.log nodeId level message data s') :=
  hp.report h _

theorem complete (id : String) (output : Json) (h : R s s') :
    R (w.complete id output s) (w'.complete id output s') := by
  have hkept := hp.onContext (hp.note h (.completed id output)) (·.complete id output)
  unfold Walk.complete
  simp only [hp.context hkept]
  exact hp.log _ _ _ _ (hp.report hkept _)

theorem enter (enclosing : List ActiveVisit) (cause : Cause) (id : String) (input : Json)
    (h : R s s') : R (enter enclosing cause id input s) (enter enclosing cause id input s') := by
  unfold Walk.enter
  rw [hp.context h, hp.now h]
  exact hp.onContext (hp.note h _) _

theorem enterLoop (id : String) (total : Nat) (h : R s s') :
    R (enterLoop id total s) (enterLoop id total s') := by
  have hpushed := hp.onContext h (·.pushLoop id total)
  unfold Walk.enterLoop
  simp only [hp.context hpushed]
  exact hp.note hpushed _

variable {tag : String} {handler : Handler σ}
  (hr : w.engine.registry.resolve? tag = some handler)
include hr

theorem callGuarded (node : Workflow.Node) (input : Json) (c : RunContext) :
    Carries R (w.callGuarded node handler (w.nodeContext node input c))
      (w'.callGuarded node handler (w'.nodeContext node input c)) := by
  intro s s' h
  have hcall := hp.call hr node input c
  unfold Walk.callGuarded
  rw [hp.resource hr]
  cases handler.resource? node.config (w.nodeContext node input c) with
  | none => exact hcall h
  | some key =>
    obtain ⟨hsame, hbreakers, hnext⟩ := Breakers.execute_rel
      (fun h next => hp.count h (.transition next.text))
      (fun h => congrArg Clock.elapsed (hp.clock h)) hcall s.breakers key h
    simp only [hp.breakers h, hsame, hbreakers]
    exact ⟨trivial, hp.settle hnext _⟩

theorem invoke (node : Workflow.Node) (input : Json) :
    Carries R (w.invoke node handler input) (w'.invoke node handler input) := by
  intro s s' h
  unfold Walk.invoke
  cases missingField? node.config handler.requiredFields with
  | some field => exact ⟨rfl, h⟩
  | none =>
    obtain ⟨o, s₁, s₁', hran, hran', hnext⟩ := (hp.callGuarded hr node input s.context).ends h
    simp only [hp.context h, hran, hran']
    cases o with
    | error e => exact ⟨rfl, hp.count hnext _⟩
    | ok result => exact ⟨rfl, hp.complete _ _ (hp.count hnext _)⟩

end

/-! ### Going on to other nodes -/

section

variable (hp : Parallel w w' R)
include hp

theorem passes {go : Nat → String → Step σ τ} {go' : Nat → String → Step σ τ'}
    (hgo : ∀ i id, Carries R (go i id) (go' i id)) (children : List String) (total : Nat) :
    ∀ left, Carries R (passes go children total left) (passes go' children total left)
  | 0, _, _, h => ⟨rfl, h⟩
  | left + 1, s, s', h => by
    have hsweep := sweep_carries (hgo (total - (left + 1))) children
    obtain ⟨o, s₁, s₁', hran, hran', hnext⟩ :=
      hsweep.ends (hp.onContext h (·.setIteration (total - (left + 1) + 1)))
    unfold Walk.passes
    simp only [hran, hran']
    cases o with
    | error e => exact ⟨rfl, hnext⟩
    | ok _ => exact passes hgo children total left hnext

variable {go : Onward σ τ} {go' : Onward σ τ'}
  (hgo : ∀ cause id input, Carries R (go cause id input) (go' cause id input))
include hgo

theorem recover (id : String) (e : Error) :
    Carries R (w.recover go id e) (w'.recover go' id e) := by
  intro s s' h
  have hlogged := hp.log (some id) .error e.message (some (.ofFields [("code", .str e.code)]))
    (hp.onContext h (·.recordError id e.message s.now))
  unfold Walk.recover
  simp only [hp.recovery?, hp.now h]
  cases w.recovery? id with
  | none => exact ⟨rfl, hlogged⟩
  | some handler => exact hgo _ _ _ hlogged

theorem repeatChildren (id : String) (output : Json) :
    Carries R (w.repeatChildren go id output) (w'.repeatChildren go' id output) := by
  intro s s' h
  obtain ⟨hsame, hnext⟩ := hp.passes (fun index child => hgo (.pass id index) child
    (passInput output index (passCount output) (passItem? output index)))
    (w.flowChildren id) (passCount output) (passCount output) (hp.enterLoop id (passCount output) h)
  unfold Walk.repeatChildren
  simp only [hp.flowChildren]
  exact ⟨hsame, hp.onContext hnext _⟩

theorem dispatch (flow : ControlFlow) (id : String) (output : Json) :
    Carries R (w.dispatch go flow id output) (w'.dispatch go' flow id output) := by
  intro s s' h
  unfold Walk.dispatch
  simp only [hp.settings, hp.context h, hp.selected]
  split_ifs
  · exact hp.recover hgo id _ (hp.note h _)
  · exact hp.repeatChildren hgo id output h
  · exact sweep_carries (fun child => hgo _ child output) _ h

theorem visitWith {tag : String} {handler : Handler σ}
    (hr : w.engine.registry.resolve? tag = some handler) (node : Workflow.Node) (input : Json) :
    Carries R (w.visitWith go node handler input) (w'.visitWith go' node handler input) := by
  intro s s' h
  obtain ⟨o, s₁, s₁', hran, hran', hnext⟩ := (hp.invoke hr node input).ends h
  unfold Walk.visitWith
  rw [hran, hran']
  cases o with
  | error e => exact hp.recover hgo node.id e (hp.note hnext _)
  | ok output => exact hp.dispatch hgo handler.controlFlow node.id output hnext

end

/-- **Every visit ends alike** in two walks side by side. -/
theorem visit (hp : Parallel w w' R) :
    ∀ (fuel : Nat) (enclosing : List ActiveVisit) (cause : Cause) (id : String) (input : Json),
      Carries R (w.visit fuel enclosing cause id input) (w'.visit fuel enclosing cause id input)
  | 0, _, _, id, _, _, _, h => ⟨rfl, hp.note h (.exhausted id)⟩
  | fuel + 1, enclosing, cause, id, input, s, s', h => by
    unfold Walk.visit
    rw [hp.graph]
    cases w.graph.node? id with
    | none => exact ⟨rfl, h⟩
    | some node =>
      have hentered := hp.enter enclosing cause id input h
      simp only [hp.registry]
      cases hr : w.engine.registry.resolve? node.tag with
      | none => exact ⟨rfl, hp.log _ _ _ _ (hp.note hentered _)⟩
      | some handler => exact hp.visitWith (hp.visit fuel _) hr node input hentered

end Parallel

end Walk

/-! ### Runs -/

/-- The state that a run leaves behind. -/
def RunReport.state (r : RunReport σ τ) : RunState σ τ :=
  ⟨r.engine.context, r.engine.breakers, r.session, r.store, r.journal⟩

/-- Two runs end alike, in related states. -/
def RunReport.Agrees (R : RunState σ τ → RunState σ τ' → Prop) (r : RunReport σ τ)
    (r' : RunReport σ τ') : Prop :=
  r'.outcome = r.outcome ∧ R r.state r'.state

namespace Engine

variable {w : Walk σ τ} {w' : Walk σ τ'} {R : RunState σ τ → RunState σ τ' → Prop}
  {s : RunState σ τ} {s' : RunState σ τ'}

section

variable (hp : Walk.Parallel w w' R) (started : Nat) (h : R s s')
include hp h

theorem duration_parallel : duration started s' = duration started s :=
  congrArg (Clock.elapsed · - started) (hp.clock h)

theorem fail_parallel (error : Error) :
    (fail w started error s).Agrees R (fail w' started error s') := by
  simp only [fail, finish, hp.context h, hp.now h, duration_parallel hp started h]
  exact ⟨rfl, hp.count (hp.report h _) _⟩

theorem succeed_parallel : (succeed w started s).Agrees R (succeed w' started s') := by
  simp only [succeed, finish, hp.context h, hp.now h, duration_parallel hp started h]
  exact ⟨rfl, hp.count (hp.report h _) _⟩

end

theorem walkFrom_parallel (hp : Walk.Parallel w w' R) (triggers : List String) (input : Json) :
    Carries R (walkFrom w triggers input) (walkFrom w' triggers input) := by
  intro s s' h
  cases triggers with
  | nil => exact ⟨rfl, h⟩
  | cons trigger rest =>
    simp only [walkFrom, hp.graph]
    exact hp.visit _ _ _ _ _ h

/-- **Two runs whose walks are side by side** end alike. -/
theorem runRecorded_parallel {e : Engine σ τ} {e' : Engine σ τ'} {nested nested' : NestedRun σ}
    {workflow : Workflow} {runId : Option String}
    (hp : ∀ graph, Walk.Parallel ⟨graph, workflow.name, e, runId, nested⟩
      ⟨graph, workflow.name, e', runId, nested'⟩ R) (input : Json) (h : R s s') :
    (e.runRecorded nested workflow input runId s).Agrees R
      (e'.runRecorded nested' workflow input runId s') := by
  have hprepare : e'.prepare workflow = e.prepare workflow := by
    have hsettings : e'.settings = e.settings := (hp ⟨[], []⟩).settings
    unfold prepare
    rw [hsettings]
  have helapsed : s'.session.elapsed = s.session.elapsed :=
    congrArg Clock.elapsed ((hp ⟨[], []⟩).clock h)
  unfold runRecorded
  simp only [hprepare, helapsed]
  cases e.prepare workflow with
  | error fault => exact fail_parallel (hp _) _ h _
  | ok prepared =>
    obtain ⟨graph, triggers⟩ := prepared
    obtain ⟨o, s₁, s₁', hran, hran', hended⟩ := (walkFrom_parallel (hp graph) triggers input).ends
      ((hp graph).log none .info "Run started" none h)
    simp only [hran, hran']
    cases o with
    | error error => exact fail_parallel (hp graph) _ hended error
    | ok _ => exact succeed_parallel (hp graph) _ hended

end Engine

end FlowGraph
