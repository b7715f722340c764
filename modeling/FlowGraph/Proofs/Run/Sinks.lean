import FlowGraph.Store.Memory
import FlowGraph.Proofs.Run.Failure
import FlowGraph.Proofs.Walk.Parallel

/-! # Sinks do not steer a run

A run tells its sink what it does and never looks at the answer. So whatever a sink keeps and
whatever it refuses, the run is the one over a sink that keeps nothing and refuses nothing: taking
the store away from a state (`RunState.mute`) commutes with every visit. Two runs over different
sinks that give the run the same name are both that run, and so they are alike in everything but
what their sinks keep.

* `Walk.parallel_mute` puts a walk beside the walk over a silent sink.
* `runWith_mute` is the law for one run, `runWith_sinks_alike` the one for two. -/

namespace FlowGraph

variable {σ τ : Type}

/-! ### Without a store -/

/-- A sink that keeps nothing and refuses nothing, and gives every run the same name. -/
def Sink.silent (runId : String) : Sink Unit where
  create _ _ _ _ _ := (.ok runId, ())
  update _ _ _ := (.ok (), ())
  log _ _ _ _ _ _ _ := (.ok (), ())

namespace RunState

/-- The state without what the sink keeps. -/
def mute (s : RunState σ τ) : RunState σ Unit :=
  ⟨s.context, s.breakers, s.session, (), s.journal⟩

variable (s : RunState σ τ)

@[simp] theorem context_mute : s.mute.context = s.context := rfl
@[simp] theorem session_mute : s.mute.session = s.session := rfl
@[simp] theorem now_mute : s.mute.now = s.now := rfl

end RunState

namespace Engine

/-- The engine over a given sink. -/
def withSink {τ' : Type} (e : Engine σ τ) (k : Sink τ') : Engine σ τ' :=
  ⟨e.registry, e.settings, some k, e.credentials, e.userId, e.depth, e.breakers, e.context⟩

/-- The engine over a silent sink, if it has a sink at all. -/
def mute (runId : String) (e : Engine σ τ) : Engine σ Unit :=
  ⟨e.registry, e.settings, e.sink.map fun _ => .silent runId, e.credentials, e.userId, e.depth,
    e.breakers, e.context⟩

end Engine

/-- The report of a run without what the sink keeps. -/
def RunReport.mute (runId : String) (r : RunReport σ τ) : RunReport σ Unit :=
  ⟨r.outcome, r.engine.mute runId, r.session, (), r.journal⟩

namespace Walk

/-- The walk over a silent sink. -/
def mute (runId : String) (w : Walk σ τ) : Walk σ Unit :=
  ⟨w.graph, w.workflowName, w.engine.mute runId, w.runId, w.nested⟩

variable (w : Walk σ τ) (runId : String)

@[simp] theorem report_mute (r : Report) (s : RunState σ τ) :
    (w.mute runId).report r s.mute = (w.report r s).mute := by
  have hsink : (w.mute runId).engine.sink = w.engine.sink.map fun _ => .silent runId := rfl
  have hid : (w.mute runId).runId = w.runId := rfl
  unfold report
  rw [hsink, hid]
  cases w.engine.sink <;> cases w.runId <;> rfl

/-- **A walk and the walk over a silent sink** are side by side. -/
theorem parallel_mute : Parallel w (w.mute runId) fun s s' => s' = s.mute where
  graph := rfl
  settings := rfl
  registry := rfl
  context := by rintro s _ rfl; rfl
  breakers := by rintro s _ rfl; rfl
  clock := by rintro s _ rfl; rfl
  note := by rintro s _ rfl ev; rfl
  onContext := by rintro s _ rfl f; rfl
  settle := by rintro s _ rfl breakers; rfl
  count := by rintro s _ rfl c; rfl
  report := by rintro s _ rfl r; exact report_mute w runId r s
  resource := fun _ _ _ _ => rfl
  call := by rintro tag h - node input c s _ rfl; exact ⟨rfl, rfl⟩

@[simp] theorem log_mute (nodeId : Option String) (level : LogLevel) (message : String)
    (data : Option Json) (s : RunState σ τ) :
    (w.mute runId).log nodeId level message data s.mute =
      (w.log nodeId level message data s).mute :=
  report_mute ..

end Walk

/-! ### Runs -/

namespace Engine

variable (w : Walk σ τ) (runId : String) (started : Nat) (s : RunState σ τ)

@[simp] theorem duration_mute : duration started s.mute = duration started s := rfl

theorem fail_mute (error : Error) :
    fail (w.mute runId) started error s.mute = (fail w started error s).mute runId := by
  simp only [fail, duration_mute, RunState.context_mute, RunState.now_mute, Walk.report_mute]
  rfl

theorem succeed_mute :
    succeed (w.mute runId) started s.mute = (succeed w started s).mute runId := by
  simp only [succeed, duration_mute, RunState.context_mute, RunState.now_mute, Walk.report_mute]
  rfl

theorem walkFrom_mute (triggers : List String) (input : Json) :
    walkFrom (w.mute runId) triggers input s.mute =
      ((walkFrom w triggers input s).1, (walkFrom w triggers input s).2.mute) :=
  Prod.ext_iff.mpr (walkFrom_parallel (w.parallel_mute runId) triggers input rfl)

theorem runRecorded_mute (e : Engine σ τ) (nested : NestedRun σ) (workflow : Workflow)
    (input : Json) (recordId : Option String) :
    (e.mute runId).runRecorded nested workflow input recordId s.mute =
      (e.runRecorded nested workflow input recordId s).mute runId := by
  have hprepare : (e.mute runId).prepare workflow = e.prepare workflow := rfl
  unfold runRecorded
  simp only [hprepare, RunState.session_mute]
  cases e.prepare workflow with
  | error fault => exact fail_mute ⟨⟨[], []⟩, workflow.name, e, recordId, nested⟩ runId _ s _
  | ok prepared =>
    obtain ⟨graph, triggers⟩ := prepared
    let w : Walk σ τ := ⟨graph, workflow.name, e, recordId, nested⟩
    have hmute : (⟨graph, workflow.name, e.mute runId, recordId, nested⟩ : Walk σ Unit) =
      w.mute runId := rfl
    simp only [hmute, Walk.log_mute]
    rw [walkFrom_mute w runId]
    rcases walkFrom w triggers input (w.log none .info "Run started" none s) with ⟨err | _, s₁⟩
    · exact fail_mute w runId _ s₁ err
    · exact succeed_mute w runId _ s₁

section

variable {τ₁ τ₂ : Type} {nested : NestedRun σ} {workflow : Workflow} {input : Json}
  {session : Session σ} {k : Sink τ₁} {k' : Sink τ₂} {store : τ₁} {store' : τ₂} {runId : String}

/-- **A run over a sink is the run over a silent sink**, but for what the sink keeps. -/
theorem runWith_mute (e : Engine σ τ)
    (h : (k.create session.upcomingId session.now workflow.name input store).1 = .ok runId) :
    ((e.withSink k).runWith nested workflow input session store).mute runId =
      (e.withSink (.silent runId)).runWith nested workflow input session () := by
  unfold runWith
  rcases hc : k.create session.upcomingId session.now workflow.name input store with ⟨o, rest⟩
  obtain rfl : o = .ok runId := by rw [← h, hc]
  simp only [withSink, hc]
  rw [← runRecorded_mute]
  rfl

/-- **Sinks do not steer a run.** Let two sinks, over stores of any kind, give a run the same name.
Whatever they answer to everything after that, the two runs do the same in the same order with the
same snapshots, have the same outcome, and leave the same context, breakers and session behind. -/
theorem runWith_sinks_alike (e : Engine σ τ) (nested : NestedRun σ) (workflow : Workflow)
    (input : Json) (session : Session σ) (k : Sink τ₁) (store : τ₁) (k' : Sink τ₂) (store' : τ₂)
    (h : (k.create session.upcomingId session.now workflow.name input store).1 = .ok runId)
    (h' : (k'.create session.upcomingId session.now workflow.name input store').1 = .ok runId) :
    let r := (e.withSink k).runWith nested workflow input session store
    let r' := (e.withSink k').runWith nested workflow input session store'
    r.journal = r'.journal ∧ r.outcome = r'.outcome ∧ r.engine.context = r'.engine.context ∧
      r.engine.breakers = r'.engine.breakers ∧ r.session = r'.session := by
  intro r r'
  have hsame : r.mute runId = r'.mute runId := (runWith_mute e h).trans (runWith_mute e h').symm
  refine ⟨congrArg (·.journal) hsame, congrArg (·.outcome) hsame, ?_, ?_,
    congrArg (·.session) hsame⟩
  · exact congrArg (·.engine.context) hsame
  · exact congrArg (·.engine.breakers) hsame

end

end Engine

/-- The sink, but it counts what it is told and refuses what has one of the given numbers. -/
def Sink.refusing (k : Sink τ) (refused : Nat → Bool) : Sink (τ × Nat) where
  create unused now workflowName input p :=
    let (answer, store) := k.create unused now workflowName input p.1
    (answer, store, p.2)
  update runId patch p :=
    if refused p.2 then (.error (.storage "refused"), p.1, p.2 + 1)
    else
      let (answer, store) := k.update runId patch p.1
      (answer, store, p.2 + 1)
  log runId nodeId level message data now p :=
    if refused p.2 then (.error (.storage "refused"), p.1, p.2 + 1)
    else
      let (answer, store) := k.log runId nodeId level message data now p.1
      (answer, store, p.2 + 1)

namespace Engine

/-- One sink refuses every other report, the other one only the last, so that its record never
closes. The runs, in which one of two failures is handled, are alike all the same. -/
theorem runWith_sinks_alike_halfHandled :
    let k := MemoryStore.sink.refusing fun n => n % 2 == 0
    let k' := MemoryStore.sink.refusing fun n => n == 7
    let now := Session.dawn.now
    let runId := Session.dawn.upcomingId
    let r := (small.withSink k).runWith unnested halfHandled .null .dawn ({}, 0)
    let r' := (small.withSink k').runWith unnested halfHandled .null .dawn ({}, 0)
    (k.create runId now halfHandled.name .null ({}, 0)).1 = .ok runId ∧
      (k'.create runId now halfHandled.name .null ({}, 0)).1 = .ok runId ∧
      r.store.1.records.map (·.status) = [.failed] ∧
      r'.store.1.records.map (·.status) = [.running] ∧
      r.journal = r'.journal ∧ r.outcome = r'.outcome := by
  intro k k' now runId r r'
  have hk : (k.create runId now halfHandled.name .null ({}, 0)).1 = .ok runId := rfl
  have hk' : (k'.create runId now halfHandled.name .null ({}, 0)).1 = .ok runId := rfl
  obtain ⟨hjournal, houtcome, -⟩ :=
    runWith_sinks_alike small unnested halfHandled .null .dawn k ({}, 0) k' ({}, 0) hk hk'
  exact ⟨hk, hk', by decide, by decide, hjournal, houtcome⟩

end Engine

end FlowGraph
