import FlowGraph.Store.Memory
import FlowGraph.Store.Table
import FlowGraph.Proofs.Timestamp.Text
import Mathlib.Data.List.Forall2
import Mathlib.Data.List.Induction

/-! # Two stores, one answer

The store in memory keeps records and log entries as they are, the store in tables writes them as
texts and numbers of 64 bits and reads them back. Told the same, the two give the same answers, as
long as what they are told can be read back from what is written (`SinkCall.IsLegible`): timestamps
of the years 0 to 9999, numbers below `2 ^ 63`, and values that their text stands for.

* `RunRow.Shows` says that a row reads as a record. `RunRow.Shows.patch` is the case of an update:
  keeping a column that a patch does not give is what the patch does to the record.
* `Mirrors` says it of whole stores, row by row; `Mirrors.perform` keeps it through one call,
  `mirrors_after` through any calls.
* `stores_agree` is the law for the answers after any calls. -/

namespace FlowGraph

variable {τ : Type}

/-! ### Calls -/

/-- A call of a sink. -/
inductive SinkCall where
  | create (unused : String) (now : Timestamp) (workflowName : String) (input : Json)
  | report (runId : String) (now : Timestamp) (report : Report)

/-- The run that a call is about, if it does not make one. -/
def SinkCall.subject? : SinkCall → Option String
  | create .. => none
  | report runId _ _ => some runId

namespace Sink

/-- Makes a call. Only a new record has an identifier to answer with. -/
def perform (k : Sink τ) (call : SinkCall) (store : τ) : Except Error (Option String) × τ :=
  match call with
  | .create unused now workflowName input =>
    let (answer, store) := k.create unused now workflowName input store
    (answer.map some, store)
  | .report runId now report =>
    let (answer, store) := k.report runId now report store
    (answer.map fun _ => none, store)

/-- The store after calls, one after the other. -/
def after (k : Sink τ) (calls : List SinkCall) (store : τ) : τ :=
  calls.foldl (fun store call => (k.perform call store).2) store

end Sink

/-! ### What can be read back -/

/-- Whether a value is read back from its text. -/
def Json.IsLegible (j : Json) : Prop := Json.parse j.compact = .ok j

/-- Whether all that a patch gives is read back from its columns. -/
structure RunPatch.IsLegible (p : RunPatch) : Prop where
  finishedAt : ∀ t ∈ p.finishedAt, t.IsPlain
  durationMs : ∀ n ∈ p.durationMs, n < 2 ^ 63
  nodesExecuted : ∀ n ∈ p.nodesExecuted, n < 2 ^ 63

/-- Whether all that a call tells is read back from its columns. -/
def SinkCall.IsLegible : SinkCall → Prop
  | create _ now _ input => now.IsPlain ∧ input.IsLegible
  | report _ _ (.update patch) => patch.IsLegible
  | report _ now (.log _ _ _ data) => now.IsPlain ∧ ∀ j ∈ data, j.IsLegible

/-! ### Columns -/

namespace Column

theorem toNat_ofNat {n : Nat} (h : n < 2 ^ 63) : toNat (ofNat n) = n := by
  have hpow : Nat.pow 2 64 = 18446744073709551616 := rfl
  unfold toNat ofNat
  rw [hpow, Int.bmod_eq_of_le (by omega) (by omega)]
  exact Int.toNat_natCast n

theorem status_text (s : RunStatus) : status s.text = .ok s := by
  cases s <;> rfl

theorem level_text (l : LogLevel) : level l.text = .ok l := by
  cases l <;> rfl

theorem timestamp_offsetText {t : Timestamp} (h : t.IsPlain) : timestamp t.offsetText = .ok t := by
  unfold timestamp
  rw [Timestamp.parseStrict_offsetText h]

theorem json_compact {j : Json} (h : j.IsLegible) : json j.compact = .ok j := by
  unfold json
  rw [show Json.parse j.compact = .ok j from h]

section

variable {α β : Type} {read : β → Except Error α} {write : α → β}

theorem optional_map {o : Option α} (h : ∀ a ∈ o, read (write a) = .ok a) :
    optional read (o.map write) = .ok o := by
  cases o with
  | none => rfl
  | some a => simp [optional, h a rfl, Except.map]

/-- **A column that may be empty** after an update that may leave it alone. -/
theorem optional_or {new kept : Option α} {old : Option β}
    (hnew : ∀ a ∈ new, read (write a) = .ok a) (hold : optional read old = .ok kept) :
    optional read ((new.map write).or old) = .ok (new.or kept) := by
  cases new with
  | none => exact hold
  | some a => exact optional_map hnew

end

theorem status_getD {new : Option RunStatus} {kept : RunStatus} {old : String}
    (hold : status old = .ok kept) :
    status ((new.map RunStatus.text).getD old) = .ok (new.getD kept) := by
  cases new with
  | none => exact hold
  | some s => exact status_text s

theorem toNat_getD {new : Option Nat} {kept : Nat} {old : Int} (hnew : ∀ n ∈ new, n < 2 ^ 63)
    (hold : toNat old = kept) : toNat ((new.map ofNat).getD old) = new.getD kept := by
  cases new with
  | none => exact hold
  | some n =>
    rw [Option.map_some, Option.getD_some, Option.getD_some]
    exact toNat_ofNat (hnew n rfl)

theorem map_toNat_or {new kept : Option Nat} {old : Option Int} (hnew : ∀ n ∈ new, n < 2 ^ 63)
    (hold : old.map toNat = kept) : ((new.map ofNat).or old).map toNat = new.or kept := by
  cases new with
  | none => exact hold
  | some n =>
    rw [Option.map_some, Option.some_or, Option.some_or, Option.map_some, toNat_ofNat (hnew n rfl)]

end Column

/-! ### Rows -/

/-- **A row reads as a record**, column by column. -/
structure RunRow.Shows (row : RunRow) (record : RunRecord) : Prop where
  id : row.id = record.id
  workflowName : row.workflowName = record.workflowName
  status : Column.status row.status = .ok record.status
  input : Column.json row.input = .ok record.input
  startedAt : Column.timestamp row.startedAt = .ok record.startedAt
  finishedAt : Column.optional Column.timestamp row.finishedAt = .ok record.finishedAt
  durationMs : row.durationMs.map Column.toNat = record.durationMs
  nodesExecuted : Column.toNat row.nodesExecuted = record.nodesExecuted
  error : row.error = record.error
  lastCheckpoint : row.lastCheckpoint = record.lastCheckpoint

theorem exists_of_bind {ε α β : Type} {x : Except ε α} {f : α → Except ε β} {b : β}
    (h : x >>= f = .ok b) : ∃ a, x = .ok a ∧ f a = .ok b := by
  cases x with
  | error _ => cases h
  | ok a => exact ⟨a, rfl, h⟩

theorem mapM_of_forall₂ {ε α β : Type} {f : α → Except ε β} {as : List α} {bs : List β}
    (h : List.Forall₂ (fun a b => f a = .ok b) as bs) : as.mapM f = .ok bs := by
  induction h with
  | nil => rfl
  | cons ha _ ih => rw [List.mapM_cons, ha, ih]; rfl

namespace RunRow

variable {row : RunRow} {record : RunRecord}

theorem record_eq_ok : row.record = .ok record ↔ row.Shows record := by
  constructor
  · intro h
    obtain ⟨status, hstatus, h⟩ := exists_of_bind h
    obtain ⟨input, hinput, h⟩ := exists_of_bind h
    obtain ⟨startedAt, hstarted, h⟩ := exists_of_bind h
    obtain ⟨finishedAt, hfinished, h⟩ := exists_of_bind h
    cases h
    exact ⟨rfl, rfl, hstatus, hinput, hstarted, hfinished, rfl, rfl, rfl, rfl⟩
  · intro h
    unfold RunRow.record
    rw [h.status, h.input, h.startedAt, h.finishedAt]
    cases record
    obtain ⟨rfl, rfl, -, -, -, -, rfl, rfl, rfl, rfl⟩ := h
    rfl

/-- **An update shows in the row as in the record.** A column that the patch does not give stays. -/
theorem Shows.patch (h : row.Shows record) {p : RunPatch} (hp : p.IsLegible) :
    (row.patch p).Shows (p.apply record) where
  id := h.id
  workflowName := h.workflowName
  status := Column.status_getD h.status
  input := h.input
  startedAt := h.startedAt
  finishedAt := Column.optional_or
    (fun t ht => Column.timestamp_offsetText (hp.finishedAt t ht)) h.finishedAt
  durationMs := Column.map_toNat_or hp.durationMs h.durationMs
  nodesExecuted := Column.toNat_getD hp.nodesExecuted h.nodesExecuted
  error := congrArg (p.error.or ·) h.error
  lastCheckpoint := congrArg (p.lastCheckpoint.or ·) h.lastCheckpoint

end RunRow

theorem LogRow.runId_of_entry {row : LogRow} {entry : LogEntry} (h : row.entry = .ok entry) :
    row.runId = entry.runId := by
  obtain ⟨level, -, h⟩ := exists_of_bind h
  obtain ⟨data, -, h⟩ := exists_of_bind h
  obtain ⟨timestamp, -, h⟩ := exists_of_bind h
  cases h
  rfl

/-! ### Stores -/

/-- **The tables mirror the memory**: row by row they read as its records and entries. -/
structure Mirrors (m : MemoryStore) (t : TableStore) : Prop where
  records : List.Forall₂ (fun record row => RunRow.Shows row record) m.records t.runRows
  entries : List.Forall₂ (fun entry row => LogRow.entry row = .ok entry) m.entries t.logRows

namespace Mirrors

variable {m : MemoryStore} {t : TableStore}

theorem run? (h : Mirrors m t) (runId : String) : t.run? runId = .ok (m.run? runId) := by
  have hrecords := h.records
  unfold TableStore.run? MemoryStore.run?
  generalize m.records = records, t.runRows = rows at hrecords
  induction hrecords with
  | nil => rfl
  | @cons record row records rows hshows _ ih =>
    rw [List.find?_cons, List.find?_cons, hshows.id]
    cases record.id == runId with
    | true => simp [Column.optional, RunRow.record_eq_ok.mpr hshows, Except.map]
    | false => exact ih

theorem hasRun (h : Mirrors m t) (runId : String) : t.hasRun runId = m.hasRun runId := by
  have hrecords := h.records
  unfold TableStore.hasRun MemoryStore.hasRun
  generalize m.records = records, t.runRows = rows at hrecords
  induction hrecords with
  | nil => rfl
  | cons hshows _ ih => rw [List.any_cons, List.any_cons, hshows.id, ih]

theorem logs (h : Mirrors m t) (runId : String) : t.logs runId = .ok (m.logs runId) := by
  have hentries : List.Forall₂ (fun entry row => LogRow.entry row = .ok entry) (m.logs runId)
      (t.logRows.filter fun r => r.runId == runId).reverse := by
    refine List.rel_reverse (List.rel_filter ?_ h.entries)
    intro entry row hentry
    simp only [LogRow.runId_of_entry hentry]
  exact mapM_of_forall₂ hentries.flip

theorem create (h : Mirrors m t) {now : Timestamp} {input : Json} (hnow : now.IsPlain)
    (hinput : input.IsLegible) (unused workflowName : String) :
    Mirrors (m.create unused now workflowName input).2 (t.create unused now workflowName input).2 where
  records := .cons ⟨rfl, rfl, Column.status_text .running, Column.json_compact hinput,
    Column.timestamp_offsetText hnow, rfl, rfl, rfl, rfl, rfl⟩ h.records
  entries := h.entries

theorem update (h : Mirrors m t) {patch : RunPatch} (hp : patch.IsLegible) (runId : String) :
    Mirrors (m.update runId patch).2 (t.update runId patch).2 := by
  unfold MemoryStore.update TableStore.update
  rw [h.hasRun runId]
  split_ifs
  · refine ⟨List.rel_map ?_ h.records, h.entries⟩
    intro record row hshows
    simp only [hshows.id]
    split_ifs
    · exact hshows.patch hp
    · exact hshows
  · exact h

theorem log (h : Mirrors m t) {now : Timestamp} (hnow : now.IsPlain) {data : Option Json}
    (hdata : ∀ j ∈ data, j.IsLegible) (runId : String) (nodeId : Option String) (level : LogLevel)
    (message : String) : Mirrors (m.log runId nodeId level message data now).2
      (t.log runId nodeId level message data now).2 := by
  unfold MemoryStore.log TableStore.log
  rw [h.hasRun runId]
  split_ifs
  · refine ⟨h.records, .cons ?_ h.entries⟩
    have hread := Column.optional_map fun j hj => Column.json_compact (hdata j hj)
    simp only [LogRow.entry, Column.level_text, hread, Column.timestamp_offsetText hnow]
    rfl
  · exact h

/-- **One call** keeps the tables a mirror. -/
theorem perform (h : Mirrors m t) {call : SinkCall} (hc : call.IsLegible) :
    Mirrors (MemoryStore.sink.perform call m).2 (TableStore.sink.perform call t).2 := by
  match call with
  | .create unused now workflowName input => exact h.create hc.1 hc.2 unused workflowName
  | .report runId now (.update patch) => exact h.update hc runId
  | .report runId now (.log nodeId level message data) =>
    exact h.log hc.1 hc.2 runId nodeId level message

/-- Both sides answer the same to a call, but for the wording of a refusal. -/
theorem answer_eq (h : Mirrors m t) (call : SinkCall) :
    (TableStore.sink.perform call t).1.toOption = (MemoryStore.sink.perform call m).1.toOption := by
  have hrun := h.hasRun
  match call with
  | .create unused now workflowName input => rfl
  | .report runId now (.update patch) =>
    simp only [Sink.perform, Sink.report, TableStore.sink, MemoryStore.sink, TableStore.update,
      MemoryStore.update, hrun runId]
    split_ifs <;> rfl
  | .report runId now (.log nodeId level message data) =>
    simp only [Sink.perform, Sink.report, TableStore.sink, MemoryStore.sink, TableStore.log,
      MemoryStore.log, hrun runId]
    split_ifs <;> rfl

end Mirrors

/-! ### Refusals -/

namespace MemoryStore

variable {m : MemoryStore} {call : SinkCall} {runId : String}

theorem run?_eq_none : m.run? runId = none ↔ m.hasRun runId = false := by
  simp [run?, hasRun]

/-- A call is refused exactly if it is about a run without a record. -/
theorem perform_eq_none : (sink.perform call m).1.toOption = none ↔
    ∃ runId ∈ call.subject?, m.run? runId = none := by
  match call with
  | .create unused now workflowName input =>
    simp [SinkCall.subject?, Sink.perform, sink, create, Except.map, Except.toOption]
  | .report runId now (.update patch) =>
    simp only [Sink.perform, Sink.report, sink, update, SinkCall.subject?, Option.mem_some,
      exists_eq_left', run?_eq_none]
    cases m.hasRun runId <;> simp [Except.map, Except.toOption]
  | .report runId now (.log nodeId level message data) =>
    simp only [Sink.perform, Sink.report, sink, log, SinkCall.subject?, Option.mem_some,
      exists_eq_left', run?_eq_none]
    cases m.hasRun runId <;> simp [Except.map, Except.toOption]

theorem perform_refused (h : (sink.perform call m).1.toOption = none) :
    (sink.perform call m).2 = m := by
  obtain ⟨runId, hsubject, hnone⟩ := perform_eq_none.mp h
  rw [run?_eq_none] at hnone
  match call with
  | .report _ now (.update patch) =>
    cases hsubject
    simp [Sink.perform, Sink.report, sink, update, hnone]
  | .report _ now (.log nodeId level message data) =>
    cases hsubject
    simp [Sink.perform, Sink.report, sink, log, hnone]

/-- A log entry goes behind those before it. -/
theorem logs_log (h : m.hasRun runId) (nodeId : Option String) (level : LogLevel)
    (message : String) (data : Option Json) (now : Timestamp) :
    (m.log runId nodeId level message data now).2.logs runId =
      m.logs runId ++ [⟨runId, nodeId, level, message, data, now⟩] := by
  simp [log, h, logs]

end MemoryStore

theorem TableStore.perform_refused {t : TableStore} {call : SinkCall}
    (h : (sink.perform call t).1.toOption = none) : (sink.perform call t).2 = t := by
  match call with
  | .create unused now workflowName input => cases h
  | .report runId now (.update patch) =>
    simp only [Sink.perform, Sink.report, sink, update] at h ⊢
    split_ifs at h ⊢
    · cases h
    · rfl
  | .report runId now (.log nodeId level message data) =>
    simp only [Sink.perform, Sink.report, sink, log] at h ⊢
    split_ifs at h ⊢
    · cases h
    · rfl

/-! ### Any calls -/

/-- **Whatever both stores are told**, the tables mirror the memory. -/
theorem mirrors_after {calls : List SinkCall} (hcalls : ∀ call ∈ calls, call.IsLegible) :
    Mirrors (MemoryStore.sink.after calls {}) (TableStore.sink.after calls {}) := by
  induction calls using List.reverseRecOn with
  | nil => exact ⟨.nil, .nil⟩
  | append_singleton calls call ih =>
    unfold Sink.after at ih ⊢
    rw [List.foldl_concat, List.foldl_concat]
    exact (ih fun c hc => hcalls c (List.mem_append_left _ hc)).perform (hcalls call (by simp))

/-- **Two stores, one answer.** After any calls the two stores have the same records and the same log
entries in the same order. Of any further call it is the same on both sides whether it is refused,
which happens exactly if it is about a run without a record; a refusal changes nothing, and a new log
entry comes last. An update of columns computes the same record as the patch itself. -/
theorem stores_agree {done : List SinkCall} (hdone : ∀ call ∈ done, call.IsLegible) :
    let m := MemoryStore.sink.after done {}
    let t := TableStore.sink.after done {}
    (∀ runId, t.run? runId = .ok (m.run? runId) ∧ t.logs runId = .ok (m.logs runId)) ∧
    (∀ call,
      let onMemory := MemoryStore.sink.perform call m
      let onTable := TableStore.sink.perform call t
      onTable.1.toOption = onMemory.1.toOption ∧
        (onMemory.1.toOption = none ↔ ∃ runId ∈ call.subject?, m.run? runId = none) ∧
        (onMemory.1.toOption = none → onMemory.2 = m ∧ onTable.2 = t)) ∧
    (∀ runId nodeId level message data now, m.run? runId ≠ none →
      (SinkCall.report runId now (.log nodeId level message data)).IsLegible →
        (t.log runId nodeId level message data now).2.logs runId =
          .ok (m.logs runId ++ [⟨runId, nodeId, level, message, data, now⟩])) ∧
    ∀ (row : RunRow) record (patch : RunPatch), row.record = .ok record → patch.IsLegible →
      (row.patch patch).record = .ok (patch.apply record) := by
  intro m t
  have hmirrors : Mirrors m t := mirrors_after hdone
  refine ⟨fun runId => ⟨hmirrors.run? runId, hmirrors.logs runId⟩, fun call => ?_, ?_, ?_⟩
  · have hanswer := hmirrors.answer_eq call
    exact ⟨hanswer, MemoryStore.perform_eq_none, fun hrefused =>
      ⟨MemoryStore.perform_refused hrefused, TableStore.perform_refused (hanswer.trans hrefused)⟩⟩
  · intro runId nodeId level message data now hrun hlegible
    have hknown : m.hasRun runId := by
      rwa [ne_eq, MemoryStore.run?_eq_none, Bool.not_eq_false] at hrun
    rw [← MemoryStore.logs_log hknown]
    exact (hmirrors.log hlegible.1 hlegible.2 runId nodeId level message).logs runId
  · intro row record patch hrecord hpatch
    exact RunRow.record_eq_ok.mpr ((RunRow.record_eq_ok.mp hrecord).patch hpatch)

/-- A run that fails after one node, with a log entry, and one more entry that is about no run. -/
def brief : List SinkCall := [
  .create "r" ⟨0, 0⟩ "wf" (.obj [("a", .null)]),
  .report "r" ⟨0, 0⟩ (.update (.progress 1 "start")),
  .report "r" ⟨0, 0⟩ (.log (some "start") .info "Node completed" (some .null)),
  .report "s" ⟨0, 0⟩ (.log none .warn "lost" none),
  .report "r" ⟨0, 0⟩ (.update (.failed "refused" none 1 20 ⟨0, 0⟩))]

/-- Whether the input of that run was read. -/
def isBriefInput : Decoded Json → Bool
  | .ok (.obj [(name, .null)]) => name == "a"
  | _ => false

theorem isLegible_input : Json.IsLegible (.obj [("a", .null)]) := by
  have hread : isBriefInput (Json.parse (Json.obj [("a", .null)]).compact) := by decide +kernel
  unfold isBriefInput at hread
  unfold Json.IsLegible
  split at hread
  · next name heq => rw [heq, eq_of_beq hread]
  · cases hread

theorem isLegible_brief : ∀ call ∈ brief, call.IsLegible := by
  have hnull : Json.IsLegible .null := rfl
  have htime : Timestamp.IsPlain ⟨0, 0⟩ := ⟨⟨by decide, by decide⟩, by decide⟩
  simp only [brief, List.mem_cons, List.not_mem_nil, or_false]
  rintro call (rfl | rfl | rfl | rfl | rfl)
  · exact ⟨htime, isLegible_input⟩
  · exact ⟨by simp [RunPatch.progress], by simp [RunPatch.progress], by simp [RunPatch.progress]⟩
  · exact ⟨htime, by simpa using hnull⟩
  · exact ⟨htime, by simp⟩
  · exact ⟨by simpa [RunPatch.failed] using htime, by simp [RunPatch.failed],
      by simp [RunPatch.failed]⟩

theorem stores_agree_brief :
    (∀ call ∈ brief, call.IsLegible) ∧
    let t := TableStore.sink.after brief {}
    t.run? "r" = .ok (some {
      id := "r", workflowName := "wf", status := .failed, input := .obj [("a", .null)]
      startedAt := ⟨0, 0⟩, finishedAt := some ⟨0, 0⟩, durationMs := some 20, nodesExecuted := 1
      error := some "refused", lastCheckpoint := some "start" }) ∧
    t.logs "r" = .ok [⟨"r", some "start", .info, "Node completed", some .null, ⟨0, 0⟩⟩] ∧
    t.run? "s" = .ok none ∧ t.logs "s" = .ok [] := by
  obtain ⟨hread, -⟩ := stores_agree isLegible_brief
  exact ⟨isLegible_brief, (hread "r").1, (hread "r").2, (hread "s").1, (hread "s").2⟩

end FlowGraph
