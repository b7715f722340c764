import FlowGraph.Config.Basic
import Mathlib.Tactic.SplitIfs

/-! # Where a setting comes from

Nine settings can be given in three places: by a variable of the environment, in the file, and as
defaults. A variable goes before the file and the file before the defaults, for each setting by
itself; but a file counts as a whole or not at all, and a variable only if its text says something
that the setting can be.

* `Setting` lists the nine; `Setting.Says` is what the text of a variable says.
* `Config.IsBase` is the configuration that the variables are put on, `Config.IsOverridden` is what
  they make of it.
* `Config.override_of_said` and `Config.override_of_unsaid` are the two cases for a setting,
  `Config.load_precedence` puts them together for `Config.load`. -/

namespace FlowGraph

/-! ### Written numbers -/

/-- **A number is written** in decimal digits, with a plus sign before them or without. -/
def IsUnsigned (text : String) (n : Nat) : Prop :=
  ∃ digits : List Char, (text.toList = digits ∨ text.toList = '+' :: digits) ∧ digits ≠ [] ∧
    (∀ c ∈ digits, c.isDigit) ∧ Decimal.ofDigits digits = n

/-- A number below a limit is written. -/
def IsCount (limit : Nat) (text : String) (n : Nat) : Prop := IsUnsigned text n ∧ n < limit

theorem guard_digits_eq_some_iff {limit n : Nat} (digits : List Char) :
    (if (digits.isEmpty || !digits.all Char.isDigit) = true then none
      else if Decimal.ofDigits digits < limit then some (Decimal.ofDigits digits) else none) = some n ↔
    (digits ≠ [] ∧ (∀ c ∈ digits, c.isDigit) ∧ Decimal.ofDigits digits = n) ∧ n < limit := by
  split_ifs with hguard hlt
  · simp only [Bool.or_eq_true, List.isEmpty_iff, Bool.not_eq_true', List.all_eq_false] at hguard
    refine ⟨fun h => (nomatch h), ?_⟩
    rintro ⟨⟨hne, hall, -⟩, -⟩
    rcases hguard with hempty | ⟨c, hc, hdigit⟩
    · exact absurd hempty hne
    · exact absurd (hall c hc) hdigit
  · simp only [Bool.or_eq_true, not_or, List.isEmpty_iff, Bool.not_eq_true', Bool.not_eq_false,
      List.all_eq_true] at hguard
    rw [Option.some.injEq]
    exact ⟨fun h => ⟨⟨hguard.1, hguard.2, h⟩, h ▸ hlt⟩, fun h => h.1.2.2⟩
  · refine ⟨fun h => (nomatch h), ?_⟩
    rintro ⟨⟨-, -, rfl⟩, hn⟩
    exact absurd hn hlt

/-- Exactly the written numbers below the limit are read. -/
theorem parseUnsigned?_eq_some_iff {limit n : Nat} {text : String} :
    parseUnsigned? limit text = some n ↔ IsCount limit text n := by
  unfold parseUnsigned? IsCount IsUnsigned
  split
  next cs htext =>
    refine (guard_digits_eq_some_iff cs).trans (and_congr_left' ⟨fun h => ⟨cs, .inr htext, h⟩, ?_⟩)
    rintro ⟨digits, htoList | htoList, h⟩
    · -- a plus sign is no digit
      rw [← htoList, htext] at h
      exact absurd (h.2.1 '+' List.mem_cons_self) (by decide)
    · rw [htext, List.cons.injEq] at htoList
      exact htoList.2 ▸ h
  next hplus =>
    refine (guard_digits_eq_some_iff text.toList).trans
      (and_congr_left' ⟨fun h => ⟨_, .inl rfl, h⟩, ?_⟩)
    rintro ⟨digits, htoList | htoList, h⟩
    · exact htoList ▸ h
    · exact absurd htoList (hplus digits)

/-! ### Settings -/

/-- The settings that a variable can give. -/
inductive Setting where
  | maxLoopDepth
  | maxLoopIterations
  | maxSubworkflowDepth
  | failureThreshold
  | cooldownSeconds
  | httpTimeoutSeconds
  | databasePath
  | credentialsPath
  | logLevel
deriving DecidableEq

namespace Setting

/-- What a setting is. -/
def Value : Setting → Type
  | databasePath | credentialsPath => Option String
  | logLevel => String
  | _ => Nat

/-- The variable of a setting. -/
def variableName : Setting → String
  | maxLoopDepth => "NODEFLOW_MAX_LOOP_DEPTH"
  | maxLoopIterations => "NODEFLOW_MAX_LOOP_ITERATIONS"
  | maxSubworkflowDepth => "NODEFLOW_MAX_SUBWORKFLOW_DEPTH"
  | failureThreshold => "NODEFLOW_BREAKER_FAILURE_THRESHOLD"
  | cooldownSeconds => "NODEFLOW_BREAKER_COOLDOWN_SECONDS"
  | httpTimeoutSeconds => "NODEFLOW_HTTP_TIMEOUT_SECONDS"
  | databasePath => "NODEFLOW_DATABASE_PATH"
  | credentialsPath => "NODEFLOW_CREDENTIALS_PATH"
  | logLevel => "NODEFLOW_LOG_LEVEL"

/-- The setting in a configuration. -/
def of : (s : Setting) → Config → s.Value
  | maxLoopDepth => fun c => c.engine.maxLoopDepth
  | maxLoopIterations => fun c => c.engine.maxLoopIterations
  | maxSubworkflowDepth => fun c => c.engine.maxSubworkflowDepth
  | failureThreshold => fun c => c.breaker.failureThreshold
  | cooldownSeconds => fun c => c.breaker.cooldownSeconds
  | httpTimeoutSeconds => Config.httpTimeoutSeconds
  | databasePath => Config.databasePath
  | credentialsPath => Config.credentialsPath
  | logLevel => fun c => c.logging.level

/-- **What the text of a variable says.** Where a number is asked for, a text that is none of the
type of the setting says nothing. -/
def Says : (s : Setting) → String → s.Value → Prop
  | failureThreshold => IsCount (Nat.pow 2 32)
  | databasePath | credentialsPath => fun text path => path = some text
  | logLevel => fun text level => level = text
  | maxLoopDepth | maxLoopIterations | maxSubworkflowDepth | cooldownSeconds
  | httpTimeoutSeconds => IsCount (Nat.pow 2 64)

/-- How the text of a variable is read. -/
def read : (s : Setting) → String → Option s.Value
  | failureThreshold => Config.smallCount
  | databasePath | credentialsPath => some ∘ some
  | logLevel => some
  | maxLoopDepth | maxLoopIterations | maxSubworkflowDepth | cooldownSeconds
  | httpTimeoutSeconds => Config.count

theorem variableName_injective : Function.Injective variableName := by
  intro s s' h
  cases s <;> cases s' <;> first | rfl | exact absurd h (by decide)

theorem read_eq_some_iff (s : Setting) {text : String} {v : s.Value} :
    s.read text = some v ↔ s.Says text v := by
  cases s with
  | failureThreshold => exact parseUnsigned?_eq_some_iff
  | databasePath | credentialsPath => exact (Option.some_inj (α := Option String)).trans eq_comm
  | logLevel => exact (Option.some_inj (α := String)).trans eq_comm
  | maxLoopDepth | maxLoopIterations | maxSubworkflowDepth | cooldownSeconds
  | httpTimeoutSeconds => exact parseUnsigned?_eq_some_iff

end Setting

namespace Config

variable {file : Option String} {env : Environment} {base : Config}

/-- **What the variables are put on**: the configuration in the file, and the defaults if there is no
file or it does not decode as a whole. -/
inductive IsBase (file : Option String) : Config → Prop
  | decoded {text document c} (hfile : file = some text) (hparse : Toml.parse text = some document)
    (hdecode : decode document.tree = .ok c) : IsBase file c
  | default (hnone : ∀ text document c, file = some text → Toml.parse text = some document →
    decode document.tree ≠ .ok c) : IsBase file {}

/-- **A configuration is another one with variables put on it.** -/
structure IsOverridden (c base : Config) (env : Environment) : Prop where
  /-- A variable that says something gives its setting. -/
  said : ∀ (s : Setting) (text : String) (v : s.Value),
    Fields.get? env s.variableName = some text → s.Says text v → s.of c = v
  /-- A variable that is not set, or says nothing, changes nothing. -/
  unsaid : ∀ s : Setting, (∀ text v, Fields.get? env s.variableName = some text → ¬ s.Says text v) →
    s.of c = s.of base
  triggerPattern : c.engine.triggerPattern = base.engine.triggerPattern
  errorHandlerType : c.engine.errorHandlerType = base.engine.errorHandlerType
  json : c.logging.json = base.logging.json

/-- **The copies of the engine** are equal to what they are copies of. -/
structure IsSynced (c : Config) : Prop where
  breaker : c.engine.breaker = c.breaker
  httpTimeoutSeconds : c.engine.httpTimeoutSeconds = c.httpTimeoutSeconds

/-- The copies of the engine are none of the nine settings. -/
theorem of_synced (s : Setting) (c : Config) : s.of c.synced = s.of c := by
  cases s <;> rfl

theorem of_withEnvironment (s : Setting) (env : Environment) (c : Config) :
    s.of (c.withEnvironment env) = override env s.variableName s.read (s.of c) := by
  cases s <;> rfl

/-- The configuration of a file is its base, but for the copies of the engine. -/
theorem exists_isBase (file : Option String) :
    ∃ base, IsBase file base ∧ (ofFile file).synced = base.synced := by
  by_cases h : ∃ text document c, file = some text ∧ Toml.parse text = some document ∧
      decode document.tree = .ok c
  · obtain ⟨text, document, c, rfl, hparse, hdecode⟩ := h
    have hfile : ofFile (some text) = c.synced := by
      simp [ofFile, parse, hparse, hdecode, Except.toOption]
    exact ⟨c, .decoded rfl hparse hdecode, by rw [hfile]; rfl⟩
  · have hnone : ∀ text document c, file = some text → Toml.parse text = some document →
        decode document.tree ≠ .ok c :=
      fun text document c hfile hparse hdecode => h ⟨text, document, c, hfile, hparse, hdecode⟩
    have hfile : ofFile file = {} := by
      cases file with
      | none => rfl
      | some text =>
        unfold ofFile parse
        cases hparse : Toml.parse text with
        | none => simp [hparse, Except.toOption]
        | some document =>
          cases hdecode : decode document.tree with
          | error e => simp [hparse, hdecode, Except.toOption]
          | ok c => exact absurd hdecode (hnone text document c rfl hparse)
    exact ⟨{}, .default hnone, by rw [hfile]⟩

/-! ### The configuration of a file and an environment -/

theorem of_load (hbase : (ofFile file).synced = base.synced) (s : Setting) (env : Environment) :
    s.of (load file env) = override env s.variableName s.read (s.of base) := by
  rw [load, of_synced, of_withEnvironment, ← of_synced s (ofFile file), hbase, of_synced]

/-- A variable that says something gives its setting. -/
theorem override_of_said {s : Setting} {text : String} {v : s.Value}
    (hset : Fields.get? env s.variableName = some text) (hsaid : s.Says text v) (before : s.Value) :
    override env s.variableName s.read before = v := by
  rw [override, hset, Option.bind_some, s.read_eq_some_iff.mpr hsaid, Option.getD_some]

/-- A variable that is not set, or says nothing, leaves its setting as it was. -/
theorem override_of_unsaid {s : Setting}
    (h : ∀ text v, Fields.get? env s.variableName = some text → ¬ s.Says text v)
    (before : s.Value) : override env s.variableName s.read before = before := by
  unfold override
  cases hset : Fields.get? env s.variableName with
  | none => rfl
  | some text =>
    cases hread : s.read text with
    | none => rw [Option.bind_some, hread, Option.getD_none]
    | some v => exact absurd (s.read_eq_some_iff.mp hread) (h text v hset)

theorem isSynced_load (file : Option String) (env : Environment) : (load file env).IsSynced :=
  ⟨rfl, rfl⟩

/-- **A variable before the file, the file before the defaults**, for each of the nine settings; and
a setting depends on no variable but its own. -/
theorem load_precedence (file : Option String) :
    ∃ base, IsBase file base ∧ ∀ env, (load file env).IsOverridden base env ∧
      ∀ (s : Setting) env', Fields.get? env' s.variableName = Fields.get? env s.variableName →
        s.of (load file env') = s.of (load file env) := by
  obtain ⟨base, hisBase, hbase⟩ := exists_isBase file
  refine ⟨base, hisBase, fun env => ⟨{
    said := fun s text v hset hsaid => ?_
    unsaid := fun s hnone => ?_
    triggerPattern := congrArg (·.engine.triggerPattern) hbase
    errorHandlerType := congrArg (·.engine.errorHandlerType) hbase
    json := congrArg (·.logging.json) hbase }, fun s env' hsame => ?_⟩⟩
  · rw [of_load hbase]
    exact override_of_said hset hsaid _
  · rw [of_load hbase]
    exact override_of_unsaid hnone _
  · rw [of_load hbase, of_load hbase, override, override, hsame]

end Config

end FlowGraph
