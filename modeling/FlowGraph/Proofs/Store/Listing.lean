import FlowGraph.Proofs.Json.Excess
import FlowGraph.Proofs.Store.Agreement
import FlowGraph.Proofs.Timestamp.Order
import Mathlib.Data.List.Sort

/-! # The latest runs of a workflow

The tables list the runs of a workflow by the texts of their starts. A row keeps the texts it was
made with, whatever happens to the run later, so it is the calls that make runs (`startsOf`) that
decide what is listed, and the order of the texts is that of the times.

The input of a run is kept as text too. It is written however deep it is, but read only up to a
depth, and one row that cannot be read leaves the whole list unread.

* `RunRow.Tells` says that a row tells the start of a run. `RunRow.Tells.patch`: an update keeps it.
* `RunRow.Tells.exists_record` and `RunRow.Tells.exists_fault`: it is the depth of the input that
  decides whether the row is read.
* `TableStore.lists_after`: after any calls, the rows of a workflow tell the runs it started.
* `recent_newest`: the runs that started last are listed, the latest first, unless one of them has an
  input that is too deep. -/

namespace FlowGraph

/-! ### Starts -/

/-- What is said of a run when it starts. -/
structure RunStart where
  id : String
  workflowName : String
  startedAt : Timestamp
  input : Json

/-- **A record of a run** that was started: its input is what the text of the given one is read
as. -/
structure RunRecord.StartsAs (r : RunRecord) (s : RunStart) : Prop where
  id : r.id = s.id
  workflowName : r.workflowName = s.workflowName
  startedAt : r.startedAt = s.startedAt
  input : Json.parse s.input.compact = .ok r.input

/-- The start of the run that a call makes. -/
def SinkCall.start? : SinkCall → Option RunStart
  | create unused now workflowName input => some ⟨unused, workflowName, now, input⟩
  | report .. => none

/-- The starts of the runs that calls make, in the order of the calls. -/
def starts (calls : List SinkCall) : List RunStart := calls.filterMap SinkCall.start?

/-- The starts of the runs of a workflow. -/
def startsOf (workflowName : String) (calls : List SinkCall) : List RunStart :=
  (starts calls).filter fun s => s.workflowName == workflowName

/-- **Whether what a call tells can be listed** for a workflow: its runs start in the years 0 to
9999 with inputs that JSON can hold, and runs end in these years. -/
def SinkCall.IsListable (workflowName : String) : SinkCall → Prop
  | create _ now name input => name = workflowName → now.IsPlain ∧ input.IsValue
  | report _ _ (.update patch) => ∀ t ∈ patch.finishedAt, t.IsPlain
  | report _ _ (.log ..) => True

theorem starts_concat (calls : List SinkCall) (call : SinkCall) :
    starts (calls ++ [call]) = starts calls ++ call.start?.toList := by
  unfold starts
  rw [List.filterMap_append]
  cases h : call.start? <;> simp [h]

/-! ### Rows -/

/-- A column shows no limit below `2 ^ 63` as negative. -/
theorem Column.ofNat_nonneg {n : Nat} (h : n < 2 ^ 63) : 0 ≤ ofNat n := by
  have hpow : Nat.pow 2 64 = 18446744073709551616 := rfl
  unfold ofNat
  rw [hpow, Int.bmod_eq_of_le (by omega) (by omega)]
  omega

/-- **A row tells the start of a run** in its texts, and its other texts can be read. -/
structure RunRow.Tells (row : RunRow) (s : RunStart) : Prop where
  id : row.id = s.id
  workflowName : row.workflowName = s.workflowName
  startedAt : row.startedAt = s.startedAt.offsetText
  isPlain : s.startedAt.IsPlain
  input : row.input = s.input.compact
  isValue : s.input.IsValue
  status : ∃ status, Column.status row.status = .ok status
  finishedAt : ∃ t, Column.optional Column.timestamp row.finishedAt = .ok t

namespace RunRow.Tells

variable {row : RunRow} {s : RunStart}

/-- **An update leaves the start**, and what it writes can be read. -/
theorem patch (h : row.Tells s) {p : RunPatch} (hp : ∀ t ∈ p.finishedAt, t.IsPlain) :
    (row.patch p).Tells s := by
  obtain ⟨status, hstatus⟩ := h.status
  obtain ⟨finishedAt, hfinished⟩ := h.finishedAt
  exact { h with
    status := ⟨_, Column.status_getD hstatus⟩
    finishedAt := ⟨_, Column.optional_or (fun t ht => Column.timestamp_offsetText (hp t ht))
      hfinished⟩ }

/-- **A row is read** if its input is not too deep. -/
theorem exists_record (h : row.Tells s) (hdepth : s.input.depth ≤ Json.Reader.depthLimit) :
    ∃ record, row.record = .ok record ∧ record.StartsAs s := by
  obtain ⟨status, hstatus⟩ := h.status
  obtain ⟨finishedAt, hfinished⟩ := h.finishedAt
  obtain ⟨v, hv⟩ := h.isValue.exists_parse_compact.mpr hdepth
  have hinput : Column.json row.input = .ok v := by
    unfold Column.json
    rw [h.input, hv]
  have hstarted : Column.timestamp row.startedAt = .ok s.startedAt := by
    rw [h.startedAt]
    exact Column.timestamp_offsetText h.isPlain
  let record : RunRecord := {
    id := row.id, workflowName := row.workflowName, status, input := v
    startedAt := s.startedAt, finishedAt
    durationMs := row.durationMs.map Column.toNat
    nodesExecuted := Column.toNat row.nodesExecuted
    error := row.error, lastCheckpoint := row.lastCheckpoint }
  have hshows : row.Shows record :=
    ⟨rfl, rfl, hstatus, hinput, hstarted, hfinished, rfl, rfl, rfl, rfl⟩
  exact ⟨record, RunRow.record_eq_ok.mpr hshows, h.id, h.workflowName, rfl, hv⟩

/-- **A row is not read** if its input is too deep. -/
theorem exists_fault (h : row.Tells s) (hdepth : Json.Reader.depthLimit < s.input.depth) :
    ∃ place, row.record = .error (Column.tooDeep place) := by
  obtain ⟨status, hstatus⟩ := h.status
  obtain ⟨place, hplace⟩ := Option.isSome_iff_exists.mp (h.isValue.isSome_excess?.mpr hdepth)
  have hunread : ¬ ∃ v, Json.parse s.input.compact = .ok v := fun hread =>
    not_le_of_gt hdepth (h.isValue.exists_parse_compact.mp hread)
  have hinput : Column.json row.input = .error (Column.tooDeep place) := by
    unfold Column.json
    rw [h.input, hplace]
    cases hparse : Json.parse s.input.compact with
    | error e => rfl
    | ok v => exact absurd ⟨v, hparse⟩ hunread
  refine ⟨place, ?_⟩
  unfold RunRow.record
  rw [hstatus, hinput]
  rfl

end RunRow.Tells

/-! ### Stores -/

/-- **The rows of a workflow tell starts**, one by one. -/
def TableStore.Lists (t : TableStore) (workflowName : String) (told : List RunStart) : Prop :=
  List.Forall₂ RunRow.Tells (t.runRows.filter fun r => r.workflowName == workflowName) told

namespace TableStore

variable {t : TableStore} {workflowName : String} {told : List RunStart}

namespace Lists

theorem create (h : t.Lists workflowName told) {now : Timestamp} {name : String} {input : Json}
    (unused : String) (hlist : (SinkCall.create unused now name input).IsListable workflowName) :
    (t.create unused now name input).2.Lists workflowName
      (([⟨unused, name, now, input⟩] : List RunStart).filter
        (fun s => s.workflowName == workflowName) ++ told) := by
  unfold Lists TableStore.create
  by_cases hname : name = workflowName
  · obtain ⟨hplain, hvalue⟩ := hlist hname
    rw [List.filter_cons_of_pos (by simpa using hname),
      List.filter_cons_of_pos (by simpa using hname)]
    exact .cons ⟨rfl, rfl, rfl, hplain, rfl, hvalue, ⟨_, Column.status_text .running⟩,
      ⟨none, rfl⟩⟩ h
  · rw [List.filter_cons_of_neg (by simpa using hname),
      List.filter_cons_of_neg (by simpa using hname)]
    exact h

theorem update (h : t.Lists workflowName told) {patch : RunPatch}
    (hp : ∀ t ∈ patch.finishedAt, t.IsPlain) (runId : String) :
    (t.update runId patch).2.Lists workflowName told := by
  unfold TableStore.update
  split_ifs
  · have hname : (fun r : RunRow => r.workflowName == workflowName) ∘
        (fun r => if r.id == runId then r.patch patch else r) =
        fun r => r.workflowName == workflowName := by
      funext r
      simp only [Function.comp_apply]
      split_ifs <;> rfl
    unfold Lists
    rw [List.filter_map, hname, List.forall₂_map_left_iff]
    refine List.Forall₂.imp (fun row s hrow => ?_) h
    split_ifs
    · exact hrow.patch hp
    · exact hrow
  · exact h

/-- **One call** adds at most the run it makes. -/
theorem perform (h : t.Lists workflowName told) {call : SinkCall}
    (hc : call.IsListable workflowName) :
    (sink.perform call t).2.Lists workflowName
      ((call.start?.toList.filter fun s => s.workflowName == workflowName) ++ told) := by
  match call with
  | .create unused now name input => exact h.create unused hc
  | .report runId now (.update patch) => exact h.update hc runId
  | .report runId now (.log nodeId level message data) =>
    simp only [Sink.perform, Sink.report, sink, TableStore.log]
    split_ifs <;> exact h

end Lists

/-- **Whatever the tables are told**, the rows of a workflow tell the runs it started, the last one
first. -/
theorem lists_after {calls : List SinkCall}
    (hcalls : ∀ call ∈ calls, call.IsListable workflowName) :
    (sink.after calls {}).Lists workflowName (startsOf workflowName calls).reverse := by
  induction calls using List.reverseRecOn with
  | nil => exact .nil
  | append_singleton calls call ih =>
    have hlists := (ih fun c hc => hcalls c (List.mem_append_left _ hc)).perform
      (hcalls call (by simp))
    have hone : ∀ o : Option RunStart,
        (o.toList.filter fun s => s.workflowName == workflowName).reverse =
          o.toList.filter fun s => s.workflowName == workflowName := by
      rintro (_ | s)
      · rfl
      · cases hs : s.workflowName == workflowName <;> simp [hs]
    unfold Sink.after at hlists ⊢
    unfold startsOf at hlists ⊢
    rw [List.foldl_concat, starts_concat, List.filter_append, List.reverse_append, hone]
    exact hlists

/-- The rows have the identifiers that were given to them, the last one first. -/
theorem map_id_after (calls : List SinkCall) :
    (sink.after calls {}).runRows.map (·.id) = ((starts calls).map (·.id)).reverse := by
  induction calls using List.reverseRecOn with
  | nil => rfl
  | append_singleton calls call ih =>
    rw [starts_concat, List.map_append, List.reverse_append, ← ih]
    unfold Sink.after
    rw [List.foldl_concat]
    match call with
    | .create unused now name input => rfl
    | .report runId now (.update patch) =>
      simp only [Sink.perform, Sink.report, sink, update]
      split_ifs
      · simp only [List.map_map, SinkCall.start?]
        refine List.map_congr_left fun r _ => ?_
        simp only [Function.comp_apply]
        split_ifs <;> rfl
      · rfl
    | .report runId now (.log nodeId level message data) =>
      simp only [Sink.perform, Sink.report, sink, log]
      split_ifs <;> rfl

/-! ### Listing -/

/-- The rows are sorted by their texts, the greatest first. -/
theorem pairwise_mergeSort (rows : List RunRow) :
    (rows.mergeSort fun a b => b.startedAt ≤ a.startedAt).Pairwise
      fun a b => b.startedAt ≤ a.startedAt := by
  have hdecided : (rows.mergeSort fun a b => b.startedAt ≤ a.startedAt).Pairwise
      fun a b => decide (b.startedAt ≤ a.startedAt) := by
    refine List.pairwise_mergeSort (fun a b c hab hbc => ?_) (fun a b => ?_) rows
    · rw [decide_eq_true_eq] at hab hbc ⊢
      exact le_trans hbc hab
    · rw [Bool.or_eq_true, decide_eq_true_eq, decide_eq_true_eq]
      exact le_total _ _
  exact hdecided.imp of_decide_eq_true

theorem exists_mem_of_forall₂ {α β : Type} {R : α → β → Prop} {as : List α} {bs : List β}
    (h : List.Forall₂ R as bs) {b : β} (hb : b ∈ bs) : ∃ a ∈ as, R a b := by
  induction h with
  | nil => cases hb
  | cons hhead _ ih =>
    rcases List.mem_cons.mp hb with rfl | hb
    · exact ⟨_, List.mem_cons_self, hhead⟩
    · obtain ⟨a, ha, hab⟩ := ih hb
      exact ⟨a, List.mem_cons_of_mem _ ha, hab⟩

/-- **Rows in the order of their texts** are in the order of their times. -/
theorem pairwise_before {rows : List RunRow} (h : List.Forall₂ RunRow.Tells rows told)
    (hsorted : rows.Pairwise fun a b => b.startedAt ≤ a.startedAt)
    (hdistinct : (told.map (·.startedAt)).Nodup) :
    told.Pairwise fun a b => b.startedAt.Before a.startedAt := by
  induction h with
  | nil => exact .nil
  | @cons row s rows told hrow hrows ih =>
    rw [List.map_cons, List.nodup_cons] at hdistinct
    rw [List.pairwise_cons] at hsorted
    refine .cons (fun s' hs' => ?_) (ih hsorted.2 hdistinct.2)
    obtain ⟨row', hrow', htells⟩ := exists_mem_of_forall₂ hrows hs'
    have hle := hsorted.1 row' hrow'
    rw [hrow.startedAt, htells.startedAt] at hle
    have hnot : ¬ s.startedAt.Before s'.startedAt := by
      rw [← Timestamp.offsetText_lt_offsetText hrow.isPlain htells.isPlain]
      exact not_lt_of_ge hle
    rcases Timestamp.before_trichotomy s'.startedAt s.startedAt with hlt | heq | hlt
    · exact hlt
    · exact absurd (List.mem_map.mpr ⟨s', hs', heq⟩) hdistinct.1
    · exact absurd hlt hnot

/-- **Rows are read** one after the other, as long as no input is too deep. -/
theorem exists_records {rows : List RunRow} (h : List.Forall₂ RunRow.Tells rows told)
    (hdepth : ∀ s ∈ told, s.input.depth ≤ Json.Reader.depthLimit) :
    ∃ records, List.Forall₂ (fun row record => row.record = .ok record) rows records ∧
      List.Forall₂ RunRecord.StartsAs records told := by
  induction h with
  | nil => exact ⟨[], .nil, .nil⟩
  | cons hrow _ ih =>
    rw [List.forall_mem_cons] at hdepth
    obtain ⟨record, hrecord, hstart⟩ := hrow.exists_record hdepth.1
    obtain ⟨records, hrecords, hstarts⟩ := ih hdepth.2
    exact ⟨record :: records, .cons hrecord hrecords, .cons hstart hstarts⟩

/-- **No row is read** if one of the inputs is too deep. -/
theorem exists_mapM_fault {rows : List RunRow} (h : List.Forall₂ RunRow.Tells rows told)
    (hdepth : ∃ s ∈ told, Json.Reader.depthLimit < s.input.depth) :
    ∃ place, rows.mapM RunRow.record = .error (Column.tooDeep place) := by
  induction h with
  | nil =>
    obtain ⟨s, hs, -⟩ := hdepth
    cases hs
  | @cons row s rows told hrow _ ih =>
    rw [List.mapM_cons]
    rcases Nat.lt_or_ge Json.Reader.depthLimit s.input.depth with hdeep | hflat
    · obtain ⟨place, hfault⟩ := hrow.exists_fault hdeep
      exact ⟨place, by rw [hfault]; rfl⟩
    · obtain ⟨record, hrecord, -⟩ := hrow.exists_record hflat
      obtain ⟨s', hs', hdeep⟩ := hdepth
      have hrest : s' ∈ told := by
        rcases List.mem_cons.mp hs' with rfl | hs'
        · exact absurd hdeep (not_lt_of_ge hflat)
        · exact hs'
      obtain ⟨place, hfault⟩ := ih ⟨s', hrest, hdeep⟩
      exact ⟨place, by rw [hrecord, hfault]; rfl⟩

theorem find?_id {rows : List RunRow} (hids : (rows.map (·.id)).Nodup) {row : RunRow}
    (hrow : row ∈ rows) : rows.find? (fun r => r.id == row.id) = some row := by
  induction rows with
  | nil => cases hrow
  | cons r rows ih =>
    rw [List.map_cons, List.nodup_cons] at hids
    rcases List.mem_cons.mp hrow with rfl | hrow
    · exact List.find?_cons_of_pos (by simp)
    · have hne : r.id ≠ row.id := fun heq =>
        hids.1 (heq ▸ List.mem_map.mpr ⟨row, hrow, rfl⟩)
      rw [List.find?_cons_of_neg (by simpa using hne)]
      exact ih hids.2 hrow

/-- The record of a row is the one found by its identifier, if no other row has that. -/
theorem run?_of_mem (hids : (t.runRows.map (·.id)).Nodup) {row : RunRow} {record : RunRecord}
    (hrow : row ∈ t.runRows) (hrecord : row.record = .ok record) :
    t.run? record.id = .ok (some record) := by
  have hfind := find?_id hids hrow
  rw [(RunRow.record_eq_ok.mp hrecord).id] at hfind
  unfold run?
  rw [hfind]
  simp [Column.optional, hrecord, Except.map]

end TableStore

/-- Three runs of a workflow within one second and one of another, reported out of order: the starts
have no fraction, one of three digits and one of nine. The first run completes at last. -/
def oneSecond : List SinkCall := [
  .create "b" ⟨0, 500000000⟩ "wf" (.int 2),
  .create "c" ⟨0, 500000001⟩ "wf" .null,
  .create "d" ⟨0, 700000000⟩ "other" .null,
  .create "a" ⟨0, 0⟩ "wf" (.obj [("k", .arr [])]),
  .report "b" ⟨1, 0⟩ (.update (.completed 3 (2 ^ 63) ⟨1, 0⟩))]

theorem isListable_oneSecond : ∀ call ∈ oneSecond, call.IsListable "wf" := by
  simp only [oneSecond, List.mem_cons, List.not_mem_nil, or_false]
  rintro call (rfl | rfl | rfl | rfl | rfl)
  · exact fun _ => ⟨⟨⟨by decide, by decide⟩, by decide⟩, .int (by decide)⟩
  · exact fun _ => ⟨⟨⟨by decide, by decide⟩, by decide⟩, .null⟩
  · exact fun h => absurd h (by decide)
  · refine fun _ => ⟨⟨⟨by decide, by decide⟩, by decide⟩, .obj ?_⟩
    have hempty : Json.IsValue (.arr []) := .arr (by simp)
    simpa using hempty
  · intro t ht
    cases ht
    exact ⟨⟨by decide, by decide⟩, by decide⟩

/-- Empty arrays in arrays, with one array more around them than asked for. -/
def Json.nested : Nat → Json
  | 0 => .arr []
  | n + 1 => .arr [nested n]

theorem Json.isValue_nested (n : Nat) : (nested n).IsValue := by
  induction n with
  | zero => exact .arr (List.forall_mem_nil _)
  | succ n ih => exact .arr (List.forall_mem_singleton.mpr ih)

theorem Json.depth_nested (n : Nat) : (nested n).depth = n + 1 := by
  induction n with
  | zero => rfl
  | succ n ih => rw [nested, depth, itemsDepth, ih, itemsDepth, Nat.max_zero]

end FlowGraph
