import FlowGraph.Proofs.Walk.Course

/-! # What a walk files with its sink

A walk tells its sink of every node that completes, right behind the completion, and of nothing else
that changes the record. So the changes that it files are one for each completion, numbered in the
order of the completions, and the context counts the same completions.

* `Filed` says so of a state of a walk; the store in it is what the reports in the journal have made
  of the store at the start (`Sink.replay`).
* `Untold` is a stretch of a walk of which the sink hears nothing. `Filed.log` and `Filed.complete`
  are the two kinds of steps that it does hear of.
* `Course.filed` is the induction over the course. -/

namespace FlowGraph

variable {σ τ : Type}

/-! ### Reports and completions in a journal -/

/-- What an event tells the sink. -/
def Event.report? : Event → Option Report
  | .reported report => some report
  | _ => none

/-- The node that an event completes. -/
def Event.completed? : Event → Option String
  | .completed id _ => some id
  | _ => none

/-- The change that a report asks for. -/
def Report.patch? : Report → Option RunPatch
  | .update patch => some patch
  | .log .. => none

/-- What the sink was told, the first report first. -/
def reports (j : List Event) : List Report := j.reverse.filterMap Event.report?

/-- The nodes that completed, the first one first. A node may complete more than once. -/
def completions (j : List Event) : List String := j.reverse.filterMap Event.completed?

/-- The changes after the nodes of a list, one after the other. -/
def RunPatch.progresses (ids : List String) : List RunPatch :=
  ids.mapIdx fun i id => .progress (i + 1) id

/-- **Every change without a status comes right behind a completion**, and tells of its node and of
how many there were. -/
def Prompt (j : List Event) : Prop :=
  ∀ after patch before, j = after ++ .reported (.update patch) :: before → patch.status = none →
    ∃ id output rest, before = .completed id output :: rest ∧
      patch = .progress (completions before).length id

section

variable (report : Report) (id : String) (output : Json) (j : List Event)

@[simp] theorem reports_reported : reports (.reported report :: j) = reports j ++ [report] := by
  simp [reports, Event.report?]

@[simp] theorem reports_completed : reports (.completed id output :: j) = reports j := by
  simp [reports, Event.report?]

@[simp] theorem completions_reported : completions (.reported report :: j) = completions j := by
  simp [completions, Event.completed?]

@[simp] theorem completions_completed :
    completions (.completed id output :: j) = completions j ++ [id] := by
  simp [completions, Event.completed?]

theorem reports_append {evs : List Event} (h : ∀ ev ∈ evs, ev.report? = none) :
    reports (evs ++ j) = reports j := by
  have hnil : evs.reverse.filterMap Event.report? = [] :=
    List.filterMap_eq_nil_iff.mpr fun ev hev => h ev (List.mem_reverse.mp hev)
  simp [reports, hnil]

theorem completions_append {evs : List Event} (h : ∀ ev ∈ evs, ev.completed? = none) :
    completions (evs ++ j) = completions j := by
  have hnil : evs.reverse.filterMap Event.completed? = [] :=
    List.filterMap_eq_nil_iff.mpr fun ev hev => h ev (List.mem_reverse.mp hev)
  simp [completions, hnil]

end

theorem RunPatch.progresses_concat (ids : List String) (id : String) :
    progresses (ids ++ [id]) = progresses ids ++ [.progress (ids.length + 1) id] := by
  simp [progresses]

theorem RunPatch.status_of_mem_progresses {ids : List String} {patch : RunPatch}
    (h : patch ∈ progresses ids) : patch.status = none := by
  obtain ⟨i, hi, rfl⟩ := List.mem_mapIdx.mp h
  rfl

namespace Prompt

variable {j : List Event}

theorem nil : Prompt [] := by
  intro after patch before h
  simp at h

/-- One more event keeps a journal prompt, unless it is a change that comes too late. -/
theorem cons {ev : Event} (h : Prompt j)
    (hev : ∀ patch, ev = .reported (.update patch) → patch.status = none →
      ∃ id output rest, j = .completed id output :: rest ∧
        patch = .progress (completions j).length id) : Prompt (ev :: j) := by
  intro after patch before heq hstatus
  cases after with
  | nil =>
    obtain ⟨rfl, rfl⟩ := List.cons.inj heq
    exact hev patch rfl hstatus
  | cons first after =>
    obtain ⟨-, rfl⟩ := List.cons.inj heq
    exact h after patch before rfl hstatus

theorem append {evs : List Event} (h : Prompt j) (hevs : ∀ ev ∈ evs, ev.report? = none) :
    Prompt (evs ++ j) := by
  induction evs with
  | nil => exact h
  | cons ev evs ih =>
    refine (ih fun e he => hevs e (List.mem_cons_of_mem _ he)).cons ?_
    rintro patch rfl
    cases hevs _ List.mem_cons_self

end Prompt

/-! ### Calls of a sink -/

/-- A store after calls about a run, each at its time. -/
def Sink.replay (k : Sink τ) (runId : String) (calls : List (Timestamp × Report)) (store : τ) : τ :=
  calls.foldl (fun store call => (k.report runId call.1 call.2 store).2) store

theorem Sink.replay_concat (k : Sink τ) (runId : String) (calls : List (Timestamp × Report))
    (now : Timestamp) (report : Report) (store : τ) :
    k.replay runId (calls ++ [(now, report)]) store =
      (k.report runId now report (k.replay runId calls store)).2 := by
  simp [replay]

namespace Walk

/-! ### Stretches without a report -/

/-- **The sink hears nothing** of what happens here, and no node completes. -/
structure Untold (s s' : RunState σ τ) : Prop where
  store : s'.store = s.store
  nodesExecuted : s'.context.nodesExecuted = s.context.nodesExecuted
  lastCompleted : s'.context.lastCompleted = s.context.lastCompleted
  journal : ∃ evs, s'.journal = evs ++ s.journal ∧
    ∀ ev ∈ evs, ev.report? = none ∧ ev.completed? = none

variable {w : Walk σ τ} {s s' s'' : RunState σ τ} {o : Except Error Unit}

theorem Untold.trans (h : Untold s s') (h' : Untold s' s'') : Untold s s'' := by
  obtain ⟨evs, hj, hevs⟩ := h.journal
  obtain ⟨evs', hj', hevs'⟩ := h'.journal
  exact ⟨h'.store.trans h.store, h'.nodesExecuted.trans h.nodesExecuted,
    h'.lastCompleted.trans h.lastCompleted, evs' ++ evs, by rw [hj', hj]; simp,
    List.forall_mem_append.mpr ⟨hevs', hevs⟩⟩

theorem untold_note {ev : Event} (hreport : ev.report? = none) (hcompleted : ev.completed? = none)
    (s : RunState σ τ) : Untold s (s.note ev) :=
  ⟨rfl, rfl, rfl, [ev], rfl, by simp [hreport, hcompleted]⟩

theorem untold_onContext (f : RunContext → RunContext) (s : RunState σ τ)
    (hcount : (f s.context).nodesExecuted = s.context.nodesExecuted)
    (hlast : (f s.context).lastCompleted = s.context.lastCompleted) : Untold s (s.onContext f) :=
  ⟨rfl, hcount, hlast, [], rfl, by simp⟩

theorem untold_setIteration (i : Nat) (s : RunState σ τ) :
    Untold s (s.onContext (·.setIteration i)) := by
  refine untold_onContext _ s (RunContext.nodesExecuted_setIteration _ i) ?_
  unfold RunContext.setIteration
  split <;> rfl

theorem untold_enter (enclosing : List ActiveVisit) (cause : Cause) (id : String) (input : Json)
    (s : RunState σ τ) : Untold s (enter enclosing cause id input s) :=
  (untold_note rfl rfl s).trans (untold_onContext (·.checkpoint id s.now) _ rfl rfl)

theorem untold_enterLoop (id : String) (total : Nat) (s : RunState σ τ) :
    Untold s (enterLoop id total s) :=
  (untold_onContext (·.pushLoop id total) s rfl rfl).trans (untold_note rfl rfl _)

/-- A call tells the sink nothing. -/
theorem untold_callGuarded {node : Workflow.Node} {h : Handler σ} {ctx : NodeContext}
    {outcome : Except Error NodeResult} (hc : w.callGuarded node h ctx s = (outcome, s')) :
    Untold s s' := by
  obtain ⟨hctx, hj⟩ := callGuarded_effect hc
  have hstore : s'.store = s.store := by
    have hnote : ∀ (b b' : Breaker) (s : RunState σ τ),
        (Monitor.noteChange b b' s).store = s.store := by
      intro b b' s
      unfold Monitor.noteChange
      split_ifs <;> rfl
    unfold callGuarded at hc
    split at hc
    · cases hc
      rfl
    · next key _ =>
      cases hb : (s.breakers.breaker key).admit? s.breakers.rule (Monitor.now s) with
      | none =>
        rw [Breakers.execute_of_none hb] at hc
        cases hc
        rfl
      | some b =>
        rw [Breakers.execute_of_some hb] at hc
        cases hc
        simp only [hnote, call, RunState.note]
  refine ⟨hstore, by rw [hctx], by rw [hctx], ?_⟩
  rcases hj with hj | ⟨hj, -⟩
  · exact ⟨[_], hj, by simp [Event.report?, Event.completed?]⟩
  · exact ⟨[], hj, by simp⟩

theorem untold_invoke_error {node : Workflow.Node} {h : Handler σ} {input : Json} {e : Error}
    (hi : w.invoke node h input s = (.error e, s')) : Untold s s' := by
  unfold invoke at hi
  split at hi
  · cases hi
    exact ⟨rfl, rfl, rfl, [], rfl, by simp⟩
  · rcases hc : w.callGuarded node h (w.nodeContext node input s.context) s with ⟨outcome, s₁⟩
    have hcall := untold_callGuarded hc
    rw [hc] at hi
    cases outcome with
    | ok result => cases hi
    | error e' =>
      cases hi
      exact ⟨hcall.store, hcall.nodesExecuted, hcall.lastCompleted, hcall.journal⟩

/-- A node that gets its output is completed with it, and before that the sink hears nothing. -/
theorem invoke_ok_complete {node : Workflow.Node} {h : Handler σ} {input output : Json}
    (hi : w.invoke node h input s = (.ok output, s')) :
    ∃ s₁, Untold s s₁ ∧ s' = w.complete node.id output s₁ := by
  unfold invoke at hi
  split at hi
  · cases hi
  · rcases hc : w.callGuarded node h (w.nodeContext node input s.context) s with ⟨outcome, s₁⟩
    have hcall := untold_callGuarded hc
    rw [hc] at hi
    cases outcome with
    | error e => cases hi
    | ok result =>
      cases hi
      exact ⟨s₁.count (.node node.tag (statusText (.ok result))),
        ⟨hcall.store, hcall.nodesExecuted, hcall.lastCompleted, hcall.journal⟩, rfl⟩

/-! ### What is filed -/

/-- **All that a walk has done is filed** with the sink `k` under the name `runId`, from a store
`start` on: the store is what the reports made of it, the changes among them tell of the nodes that
completed, each at once, and the context counts the same nodes. -/
structure Filed (k : Sink τ) (runId : String) (start : τ) (s : RunState σ τ) : Prop where
  store : ∃ calls : List (Timestamp × Report),
    calls.map (·.2) = reports s.journal ∧ s.store = k.replay runId calls start
  patches : (reports s.journal).filterMap Report.patch? = RunPatch.progresses (completions s.journal)
  prompt : Prompt s.journal
  nodesExecuted : s.context.nodesExecuted = (completions s.journal).length
  lastCompleted : s.context.lastCompleted = (completions s.journal).getLast?

variable {k : Sink τ} {runId : String} {start : τ}

theorem filed_start (hj : s.journal = []) (hstore : s.store = start)
    (hcount : s.context.nodesExecuted = 0) (hlast : s.context.lastCompleted = none) :
    Filed k runId start s where
  store := ⟨[], by simp [hj, reports], hstore⟩
  patches := by simp [hj, reports, completions, RunPatch.progresses]
  prompt := by rw [hj]; exact .nil
  nodesExecuted := by simp [hj, hcount, completions]
  lastCompleted := by simp [hj, hlast, completions]

theorem Filed.setsStatus (hs : Filed k runId start s) :
    ∀ report ∈ reports s.journal, report.setsStatus = false := by
  intro report hreport
  cases report with
  | log nodeId level message data => rfl
  | update patch =>
    have hpatch : patch ∈ RunPatch.progresses (completions s.journal) :=
      hs.patches ▸ List.mem_filterMap.mpr ⟨_, hreport, rfl⟩
    simp [Report.setsStatus, RunPatch.status_of_mem_progresses hpatch]

theorem Filed.untold (hs : Filed k runId start s) (h : Untold s s') : Filed k runId start s' := by
  obtain ⟨evs, hj, hevs⟩ := h.journal
  have hreports : reports s'.journal = reports s.journal :=
    hj ▸ reports_append _ fun ev hev => (hevs ev hev).1
  have hcompletions : completions s'.journal = completions s.journal :=
    hj ▸ completions_append _ fun ev hev => (hevs ev hev).2
  constructor
  · rw [hreports, h.store]
    exact hs.store
  · rw [hreports, hcompletions]
    exact hs.patches
  · rw [hj]
    exact hs.prompt.append fun ev hev => (hevs ev hev).1
  · rw [hcompletions, h.nodesExecuted]
    exact hs.nodesExecuted
  · rw [hcompletions, h.lastCompleted]
    exact hs.lastCompleted

section

variable (hk : w.engine.sink = some k) (hid : w.runId = some runId)
include hk hid

theorem report_eq (report : Report) (s : RunState σ τ) : w.report report s =
    { (s.note (.reported report)) with store := (k.report runId s.now report s.store).2 } := by
  unfold Walk.report
  rw [hk, hid]

theorem Filed.log (hs : Filed k runId start s) (nodeId : Option String) (level : LogLevel)
    (message : String) (data : Option Json) :
    Filed k runId start (w.log nodeId level message data s) := by
  obtain ⟨calls, hcalls, hstore⟩ := hs.store
  unfold Walk.log
  rw [report_eq hk hid]
  constructor
  · refine ⟨calls ++ [(s.now, .log nodeId level message data)], by simp [hcalls], ?_⟩
    rw [Sink.replay_concat, ← hstore]
  · simpa [List.filterMap_cons, Report.patch?] using hs.patches
  · exact hs.prompt.cons (by simp)
  · simpa using hs.nodesExecuted
  · simpa using hs.lastCompleted

/-- **A completion is filed** with the next number. -/
theorem Filed.complete (hs : Filed k runId start s) (id : String) (output : Json) :
    Filed k runId start (w.complete id output s) := by
  obtain ⟨calls, hcalls, hstore⟩ := hs.store
  unfold Walk.complete
  refine Filed.log hk hid ?_ _ _ _ _
  rw [report_eq hk hid]
  constructor
  · refine ⟨calls ++ [(s.now, .update (.progress (s.context.nodesExecuted + 1) id))],
      by simp [hcalls], ?_⟩
    rw [Sink.replay_concat, ← hstore]
    rfl
  · simp [Report.patch?, hs.patches, RunPatch.progresses_concat, hs.nodesExecuted]
  · refine (hs.prompt.cons (by simp)).cons ?_
    intro patch hpatch _
    cases hpatch
    exact ⟨id, output, s.journal, rfl, by simp [hs.nodesExecuted]⟩
  · simp [hs.nodesExecuted]
  · simp [RunContext.complete]

theorem Filed.recordFailure (hs : Filed k runId start s) (id : String) (e : Error) :
    Filed k runId start (w.recordFailure id e s) := by
  exact Filed.log hk hid (hs.untold (untold_onContext _ s rfl rfl)) _ _ _ _

theorem Filed.skip (hs : Filed k runId start s) (id tag : String) :
    Filed k runId start (w.skip id tag s) :=
  Filed.log hk hid (hs.untold (untold_note rfl rfl s)) _ _ _ _

theorem Filed.invoke_ok {node : Workflow.Node} {h : Handler σ} {input output : Json}
    (hs : Filed k runId start s) (hi : w.invoke node h input s = (.ok output, s')) :
    Filed k runId start s' := by
  obtain ⟨s₁, huntold, rfl⟩ := invoke_ok_complete hi
  exact Filed.complete hk hid (hs.untold huntold) _ _

/-- **Every course files what it does.** -/
theorem Course.filed {task : Task} (h : w.Course task s o s') :
    Filed k runId start s → Filed k runId start s' := by
  induction h with
  | skipped hw hn hr =>
    exact fun hs => Filed.skip hk hid (hs.untold (untold_enter _ _ _ _ _)) _ _
  | failed hw hn hr hi hc ih =>
    intro hs
    have hcall := (untold_enter _ _ _ _ _).trans (untold_invoke_error hi)
    exact ih (hs.untold (hcall.trans (untold_note rfl rfl _)))
  | dispatched hw hn hr hi hf hc ih =>
    exact fun hs => ih (Filed.invoke_ok hk hid (hs.untold (untold_enter _ _ _ _ _)) hi)
  | tooDeep hw hn hr hi hf hd hc ih =>
    intro hs
    have hcall := Filed.invoke_ok hk hid (hs.untold (untold_enter _ _ _ _ _)) hi
    exact ih (hcall.untold (untold_note rfl rfl _))
  | looped hw hn hr hi hf hd hc ih =>
    intro hs
    have hcall := Filed.invoke_ok hk hid (hs.untold (untold_enter _ _ _ _ _)) hi
    have hpasses := ih (hcall.untold (untold_enterLoop _ _ _))
    exact hpasses.untold (untold_onContext (·.popLoop) _ rfl rfl)
  | recovered hr hc ih => exact fun hs => ih (Filed.recordFailure hk hid hs _ _)
  | unrecovered hr => exact fun hs => Filed.recordFailure hk hid hs _ _
  | sweepNil => exact id
  | sweepStop hc ih => exact ih
  | sweepNext hc hn ih ihn => exact fun hs => ihn (ih hs)
  | passesNil => exact id
  | passesStop i hleft hc ih => exact fun hs => ih (hs.untold (untold_setIteration _ _))
  | passesNext i hleft hc hn ih ihn =>
    exact fun hs => ihn (ih (hs.untold (untold_setIteration _ _)))

end

end Walk

end FlowGraph
