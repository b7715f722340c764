import FlowGraph.Store.Memory
import FlowGraph.Proofs.Run.Start
import FlowGraph.Proofs.Walk.Filing

/-! # What a sink learns of a run

A run with a sink first asks for a record. Without one it fails at once and never calls the sink
again. With one it files every completion as it happens (`Walk.Filed`) and closes the record with
its last call, the only one that sets a status. So a sink that takes every call and keeps records
ends up with one that agrees with the context of the run and with its outcome, however the run went.

* `Sink.Keeps` says what it takes to keep records, `MemoryStore.keeps` that the store in memory does.
* `runRecorded_close`: every run whose record is made comes down to one way of closing it, whether
  the workflow passes the check or not.
* `runWith_reports` is the law of runs; `RunRecord.AgreesWith` is its last part. -/

namespace FlowGraph

variable {σ τ : Type}

/-! ### Sinks that keep records -/

/-- **A sink that keeps records**, which `record?` looks up: it makes a new record for every run, it
takes every call about a run that has one, and an update changes the record as its patch says. -/
structure Sink.Keeps (k : Sink τ) (record? : String → τ → Option RunRecord) : Prop where
  create : ∀ unused now workflowName input store runId,
    (k.create unused now workflowName input store).1 = .ok runId →
      record? runId (k.create unused now workflowName input store).2 =
        some { id := runId, workflowName, input, startedAt := now }
  update : ∀ runId patch store record, record? runId store = some record →
    (k.update runId patch store).1 = .ok () ∧
      record? runId (k.update runId patch store).2 = some (patch.apply record)
  log : ∀ runId nodeId level message data now store record, record? runId store = some record →
    (k.log runId nodeId level message data now store).1 = .ok () ∧
      record? runId (k.log runId nodeId level message data now store).2 = some record

theorem MemoryStore.hasRun_of_run? {m : MemoryStore} {runId : String} {record : RunRecord}
    (h : m.run? runId = some record) : m.hasRun runId = true := by
  have hid := List.find?_some h
  exact List.any_eq_true.mpr ⟨record, List.mem_of_find?_eq_some h, hid⟩

theorem MemoryStore.keeps : MemoryStore.sink.Keeps fun runId m => m.run? runId where
  create unused now workflowName input m runId h := by
    cases h
    simp [sink, MemoryStore.create, run?]
  update runId patch m record h := by
    have hid : ∀ r : RunRecord, (patch.apply r).id = r.id := fun _ => rfl
    simp only [sink, MemoryStore.update, hasRun_of_run? h, if_true, run?, List.find?_map,
      true_and]
    unfold run? at h
    have hfind : m.records.find? ((fun r => r.id == runId) ∘
        fun r => if r.id == runId then patch.apply r else r) =
        m.records.find? fun r => r.id == runId := by
      congr 1
      funext r
      simp only [Function.comp_apply]
      split_ifs <;> simp_all
    rw [hfind, h]
    have := List.find?_some h
    simp_all
  log runId nodeId level message data now m record h := by
    simp only [sink, MemoryStore.log, hasRun_of_run? h, if_true]
    exact ⟨trivial, h⟩

namespace Sink.Keeps

variable {k : Sink τ} {record? : String → τ → Option RunRecord} {runId : String} {store : τ}
  {record : RunRecord}

/-- Calls about a run change its record as the patches among them say, one after the other. -/
theorem replay (hk : k.Keeps record?) : ∀ (calls : List (Timestamp × Report)) {store : τ}
    {record : RunRecord}, record? runId store = some record →
      record? runId (k.replay runId calls store) =
        some (((calls.map (·.2)).filterMap Report.patch?).foldl (fun r p => p.apply r) record)
  | [], _, _, h => h
  | (_, .update patch) :: rest, _, _, h => hk.replay rest (hk.update runId patch _ _ h).2
  | (now, .log nodeId level message data) :: rest, _, _, h =>
    hk.replay rest (hk.log runId nodeId level message data now _ _ h).2

end Sink.Keeps

/-- A new record after the changes for some nodes shows how many there were, and the last of them. -/
theorem RunPatch.foldl_progresses {record : RunRecord} (hcount : record.nodesExecuted = 0)
    (hlast : record.lastCheckpoint = none) (ids : List String) :
    (progresses ids).foldl (fun r p => p.apply r) record =
      { record with nodesExecuted := ids.length, lastCheckpoint := ids.getLast? } := by
  induction ids using List.reverseRecOn with
  | nil => rw [List.length_nil, ← hcount, List.getLast?_nil, ← hlast]; rfl
  | append_singleton ids id ih =>
    rw [progresses_concat, List.foldl_append, ih]
    simp [apply, progress]

/-- What a sink has kept of a run that is under way: no error, and the last node that completed. -/
theorem Walk.Filed.record {k : Sink τ} {runId : String} {start : τ} {s : RunState σ τ}
    (hs : Filed k runId start s) {record? : String → τ → Option RunRecord} (hkeeps : k.Keeps record?)
    {now : Timestamp} {workflowName : String} {input : Json}
    (hstart : record? runId start =
      some { id := runId, workflowName, input, startedAt := now }) :
    ∃ record, record? runId s.store = some record ∧
      record.lastCheckpoint = s.context.lastCompleted ∧ record.error = none := by
  obtain ⟨calls, hcalls, hreplay⟩ := hs.store
  have hkept := hkeeps.replay calls hstart
  rw [← hreplay, hcalls, hs.patches, RunPatch.foldl_progresses rfl rfl] at hkept
  exact ⟨_, hkept, hs.lastCompleted.symm, rfl⟩

/-! ### A record and its run -/

/-- **A record agrees with what its run reports**: both count the same nodes and name the same last
one, the record is closed, and its status and its error are those of the outcome. -/
structure RunRecord.AgreesWith (record : RunRecord) (r : RunReport σ τ) : Prop where
  nodesExecuted : record.nodesExecuted = r.engine.context.nodesExecuted
  lastCheckpoint : record.lastCheckpoint = r.engine.context.lastCompleted
  finished : record.finishedAt.isSome
  completed : ∀ success, r.outcome = .ok success → record.status = .completed ∧
    record.error = none ∧ record.nodesExecuted = success.nodesExecuted
  failed : ∀ failure, r.outcome = .error failure → record.status = .failed ∧
    record.error = some failure.error.message ∧ record.nodesExecuted = failure.nodesExecuted ∧
    record.lastCheckpoint = failure.lastCheckpoint

namespace Engine

variable {e : Engine σ τ} {nested : NestedRun σ} {workflow : Workflow} {input : Json}

/-! ### How a record is closed -/

/-- The change that closes a record. -/
def closing (started : Nat) (s : RunState σ τ) : Except Error Unit → RunPatch
  | .ok _ => .completed s.context.nodesExecuted (duration started s) s.now
  | .error error => .failed error.message s.context.lastCompleted s.context.nodesExecuted
      (duration started s) s.now

section

variable (w : Walk σ τ) (started : Nat) (o : Except Error Unit) (s : RunState σ τ)

/-- The last call of the sink closes the record. -/
theorem close_report {k : Sink τ} (hk : w.engine.sink = some k) {runId : String}
    (hid : w.runId = some runId) :
    (close w started (o, s)).journal = .reported (.update (closing started s o)) :: s.journal ∧
      (close w started (o, s)).store =
        (k.report runId s.now (.update (closing started s o)) s.store).2 := by
  cases o with
  | ok _ =>
    have hreport := Walk.report_eq hk hid (.update (closing started s (.ok ()))) s
    exact ⟨congrArg (·.journal) hreport, congrArg (·.store) hreport⟩
  | error error =>
    have hreport := Walk.report_eq hk hid (.update (closing started s (.error error))) s
    exact ⟨congrArg (·.journal) hreport, congrArg (·.store) hreport⟩

theorem status_closing :
    ((∃ success, (close w started (o, s)).outcome = .ok success) ↔
      (closing started s o).status = some .completed) ∧
    ((∃ failure, (close w started (o, s)).outcome = .error failure) ↔
      (closing started s o).status = some .failed) := by
  cases o with
  | ok _ => simp [close, succeed, finish, closing, RunPatch.completed]
  | error error => simp [close, fail, finish, closing, RunPatch.failed]

/-- A record that names the last node of a state agrees, once closed, with the run that ends there. -/
theorem agreesWith_closing {record : RunRecord}
    (hlast : record.lastCheckpoint = s.context.lastCompleted) (herror : record.error = none) :
    ((closing started s o).apply record).AgreesWith (close w started (o, s)) := by
  have hcontext := close_context w started s o
  cases o with
  | ok _ =>
    constructor
    · rw [hcontext]
      rfl
    · rw [hcontext]
      exact hlast
    · rfl
    · rintro success hok
      cases hok
      exact ⟨rfl, herror, rfl⟩
    · rintro failure herr
      cases herr
  | error error =>
    have hkept : s.context.lastCompleted.or record.lastCheckpoint = s.context.lastCompleted := by
      rw [hlast, Option.or_self]
    constructor
    · rw [hcontext]
      rfl
    · rw [hcontext]
      exact hkept
    · rfl
    · rintro success hok
      cases hok
    · rintro failure herr
      cases herr
      exact ⟨rfl, rfl, rfl, hkept⟩

end

/-- **Every run whose record is made is closed once**, after the walk if the workflow passes the
check, and without a walk if not. -/
theorem runRecorded_close (e : Engine σ τ) (nested : NestedRun σ) (workflow : Workflow)
    (input : Json) (runId : Option String) (s : RunState σ τ) :
    ∃ w started o s₁, w.engine = e ∧ w.runId = runId ∧
      e.runRecorded nested workflow input runId s = close w started (o, s₁) ∧
      (s₁ = s ∨ ∃ task, w.Course task (w.log none .info "Run started" none s) o s₁) := by
  cases hd : validate workflow.nodes workflow.edges e.settings with
  | error fault =>
    refine ⟨⟨⟨[], []⟩, workflow.name, e, runId, nested⟩, s.session.elapsed,
      .error (.structural fault), s, rfl, rfl, ?_, Or.inl rfl⟩
    unfold runRecorded prepare
    rw [hd]
    rfl
  | ok d =>
    obtain ⟨trigger, -, -, hrun, hcourse⟩ := runRecorded_eq_close hd nested input runId s
    exact ⟨_, _, _, _, rfl, rfl, hrun, Or.inr ⟨_, hcourse⟩⟩

section

variable {k : Sink τ} {session : Session σ} {store : τ}

/-- A run without a record fails at once. -/
theorem runWith_of_create_error (hk : e.sink = some k) {error : Error}
    (hc : (k.create session.upcomingId session.now workflow.name input store).1 = .error error)
    (nested : NestedRun σ) :
    let r := e.runWith nested workflow input session store
    r.journal = [] ∧
      r.store = (k.create session.upcomingId session.now workflow.name input store).2 ∧
      ∃ failure, r.outcome = .error failure ∧ failure.error = error := by
  intro r
  let w : Walk σ τ := ⟨⟨[], []⟩, workflow.name, e, none, nested⟩
  have hr : r = fail w session.elapsed error (e.initialState { executionId := session.upcomingId }
      (session.startRun e.depth)
      (k.create session.upcomingId session.now workflow.name input store).2) := by
    rcases hcreate : k.create session.upcomingId session.now workflow.name input store with
      ⟨created, store'⟩
    obtain rfl : created = .error error := by rw [← hc, hcreate]
    simp only [r, runWith, hk, hcreate]
    rfl
  have hsilent : ∀ report s, w.report report s = s := fun report s => by simp [w, Walk.report]
  rw [hr]
  simp only [fail, hsilent]
  exact ⟨rfl, rfl, _, rfl, rfl⟩

/-- A run with a record is closed where all that it has done is filed. -/
theorem runWith_of_create_ok (hk : e.sink = some k) {runId : String}
    (hc : (k.create session.upcomingId session.now workflow.name input store).1 = .ok runId)
    (nested : NestedRun σ) :
    ∃ w started o s, w.engine.sink = some k ∧ w.runId = some runId ∧
      e.runWith nested workflow input session store = close w started (o, s) ∧
      Walk.Filed k runId
        (k.create session.upcomingId session.now workflow.name input store).2 s := by
  rcases hcreate : k.create session.upcomingId session.now workflow.name input store with
    ⟨created, store'⟩
  obtain rfl : created = .ok runId := by rw [← hc, hcreate]
  let s := e.initialState { executionId := runId, vars := workflow.vars }
    (session.startRun e.depth) store'
  obtain ⟨w, started, o, s₁, hw, hid, hclose, hwalk⟩ :=
    runRecorded_close e nested workflow input (some runId) s
  have hwk : w.engine.sink = some k := by rw [hw, hk]
  have hstart : Walk.Filed k runId store' s := Walk.filed_start rfl rfl rfl rfl
  refine ⟨w, started, o, s₁, hwk, hid, ?_, ?_⟩
  · rw [← hclose]
    simp only [runWith, hk, hcreate]
    rfl
  · rcases hwalk with rfl | ⟨task, hcourse⟩
    · exact hstart
    · exact hcourse.filed hwk hid (hstart.log hwk hid _ _ _ _)

end

/-! ### The law of runs -/

/-- **What a sink learns of a run.** If the sink makes no record, the run fails with the error of the
sink, visits nothing and leaves the store alone. Otherwise let `calls` be the calls of the sink that
follow, in their order: they are the reports of the journal, and nothing else has changed the store.
The last one closes the record. It is the only one that sets a status, which is that of the outcome;
all other updates tell of the nodes that completed, numbered from one, each right behind the
completion. A sink that keeps records ends up with one that agrees with the run. -/
theorem runWith_reports {k : Sink τ} (hk : e.sink = some k) (nested : NestedRun σ)
    (workflow : Workflow) (input : Json) (session : Session σ) (store : τ) :
    let created := k.create session.upcomingId session.now workflow.name input store
    let r := e.runWith nested workflow input session store
    (∀ error, created.1 = .error error → r.journal = [] ∧ r.store = created.2 ∧
      ∃ failure, r.outcome = .error failure ∧ failure.error = error) ∧
    ∀ runId, created.1 = .ok runId → ∃ (calls : List (Timestamp × Report)) (front : List Report)
        (last : RunPatch),
      reports r.journal = calls.map (·.2) ∧ r.store = k.replay runId calls created.2 ∧
      reports r.journal = front ++ [.update last] ∧
      (∀ report ∈ front, report.setsStatus = false) ∧
      ((∃ success, r.outcome = .ok success) ↔ last.status = some .completed) ∧
      ((∃ failure, r.outcome = .error failure) ↔ last.status = some .failed) ∧
      front.filterMap Report.patch? = RunPatch.progresses (completions r.journal) ∧
      Prompt r.journal ∧
      ∀ record? : String → τ → Option RunRecord, k.Keeps record? →
        ∃ record, record? runId r.store = some record ∧ record.AgreesWith r := by
  intro created r
  refine ⟨fun error herror => runWith_of_create_error hk herror nested, fun runId hrunId => ?_⟩
  obtain ⟨w, started, o, s, hwk, hid, hr, hfiled⟩ := runWith_of_create_ok hk hrunId nested
  obtain ⟨hjournal, hstore⟩ := close_report w started o s hwk hid
  obtain ⟨hok, hfailed⟩ := status_closing w started o s
  rw [← hr] at hjournal hstore hok hfailed
  obtain ⟨calls, hcalls, hreplay⟩ := hfiled.store
  let last := closing started s o
  have hlast : last.status ≠ none := by cases o <;> simp [last, closing, RunPatch.completed,
    RunPatch.failed]
  refine ⟨calls ++ [(s.now, .update last)], reports s.journal, last, ?_, ?_, ?_,
    hfiled.setsStatus, hok, hfailed, ?_, ?_, ?_⟩
  · rw [hjournal, reports_reported, ← hcalls]
    simp [last]
  · rw [hstore, Sink.replay_concat, ← hreplay]
  · rw [hjournal, reports_reported]
  · rw [hjournal, completions_reported]
    exact hfiled.patches
  · rw [hjournal]
    refine hfiled.prompt.cons fun patch hpatch hstatus => ?_
    cases hpatch
    exact absurd hstatus hlast
  · intro record? hkeeps
    obtain ⟨record, hrecord, hcheckpoint, herror⟩ :=
      hfiled.record hkeeps (hkeeps.create _ _ _ _ _ _ hrunId)
    have hagrees := agreesWith_closing w started o s hcheckpoint herror
    rw [← hr] at hagrees
    refine ⟨_, ?_, hagrees⟩
    rw [hstore]
    exact (hkeeps.update runId _ _ _ hrecord).2

/-- A handled failure in a loop, and one that nothing handles after it. -/
def relapse : Workflow where
  nodes := [{ id := "start", tag := "trigger" },
    { id := "l", tag := "loop", config := .obj [("iterations", .ofNat 2)] },
    { id := "a", tag := "refuse" }, { id := "rescue", tag := "error_handler" },
    { id := "b", tag := "refuse" }]
  edges := [⟨"start", "l"⟩, ⟨"l", "a"⟩, ⟨"a", "rescue"⟩, ⟨"start", "b"⟩]

/-- The small engine with a store in memory. -/
def recording : Engine Unit MemoryStore := { small with sink := some MemoryStore.sink }

/-- One node completes twice and counts twice, and the record closes with the failure of another. -/
theorem runWith_reports_relapse :
    let r := recording.runWith unnested relapse .null .dawn {}
    recording.sink = some MemoryStore.sink ∧
      completions r.journal = ["start", "l", "rescue", "rescue"] ∧
      ∃ record, r.store.run? Session.dawn.upcomingId = some record ∧ record.status = .failed ∧
        record.error = some "Node error: refused" ∧ record.nodesExecuted = 4 ∧
        record.lastCheckpoint = some "rescue" ∧ record.finishedAt.isSome := by
  intro r
  obtain ⟨-, hmade⟩ := runWith_reports (e := recording) rfl unnested relapse .null .dawn {}
  obtain ⟨calls, front, last, -, -, -, -, -, -, -, -, hkept⟩ := hmade _ rfl
  obtain ⟨record, hrecord, hagrees⟩ := hkept _ MemoryStore.keeps
  have hcount : r.engine.context.nodesExecuted = 4 := by decide
  have hlast : r.engine.context.lastCompleted = some "rescue" := by decide
  obtain ⟨failure, hfailure, hmessage⟩ : ∃ failure,
      (recording.runWith unnested relapse .null .dawn {}).outcome = .error failure ∧
      failure.error.message = "Node error: refused" := ⟨_, rfl, rfl⟩
  obtain ⟨hstatus, herror, -, -⟩ := hagrees.failed failure hfailure
  exact ⟨rfl, by decide, record, hrecord, hstatus, by rw [herror, hmessage],
    hagrees.nodesExecuted.trans hcount, hagrees.lastCheckpoint.trans hlast, hagrees.finished⟩

end Engine

end FlowGraph
