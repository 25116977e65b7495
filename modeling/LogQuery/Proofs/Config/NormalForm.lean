import Mathlib.Data.List.Induction
import LogQuery.Config.Options
import LogQuery.Proofs.Fields.Insertion
import LogQuery.Proofs.Json.Fields
import LogQuery.Proofs.Outcome
import LogQuery.Proofs.Text.Trimmed

namespace LogQuery.Config

open Json (keysOf)

/-! ## Settings

Under a key stands the value that was given for it last. -/

/-- A value that is given for a key, after which no other is given for it. -/
def IsLastValue (settings : List Setting) (key value : String) : Prop :=
  ∃ before after, settings = before ++ ⟨key, value⟩ :: after ∧ ∀ later ∈ after, later.key ≠ key

/-- The last value for a key is the first one that is found from the end. -/
theorem isLastValue_iff_find? {settings : List Setting} {key value : String} :
    IsLastValue settings key value ↔
      settings.reverse.find? (·.key = key) = some ⟨key, value⟩ := by
  rw [List.find?_eq_some_iff_append]
  constructor
  · intro last
    rcases last with ⟨before, after, split, later⟩
    refine ⟨decide_eq_true rfl, after.reverse, before.reverse, ?_, ?_⟩
    · simp [split]
    · simpa using later
  · intro found
    rcases found with ⟨_, after, before, split, later⟩
    refine ⟨before.reverse, after.reverse, ?_, ?_⟩
    · rw [← List.reverse_reverse settings, split]
      simp
    · simpa using later

theorem lastSettings_concat (settings : List Setting) (last : Setting) :
    lastSettings (settings ++ [last]) =
      Json.insertField last.key last.value (lastSettings settings) :=
  List.foldl_concat _ [] last settings

theorem lookup_lastSettings (settings : List Setting) (key : String) :
    (lastSettings settings).lookup key =
      (settings.reverse.find? (·.key = key)).map Setting.value := by
  induction settings using List.reverseRecOn with
  | nil => rfl
  | append_singleton settings last induction =>
      rw [lastSettings_concat, Json.lookup_insertField, induction, List.reverse_concat,
        List.find?_cons]
      by_cases same : key = last.key
      · simp [same]
      · simp [same, Ne.symm same]

theorem lookup_lastSettings_eq_some_iff {settings : List Setting} {key value : String} :
    (lastSettings settings).lookup key = some value ↔ IsLastValue settings key value := by
  rw [lookup_lastSettings, isLastValue_iff_find?, Option.map_eq_some_iff]
  constructor
  · intro found
    rcases found with ⟨setting, last, same⟩
    have holds := List.find?_some last
    have named : setting.key = key := of_decide_eq_true holds
    rw [last, ← named, ← same]
  · intro last
    exact ⟨_, last, rfl⟩

theorem mem_keysOf_lastSettings {settings : List Setting} {key : String} :
    key ∈ keysOf (lastSettings settings) ↔ ∃ setting ∈ settings, setting.key = key := by
  induction settings using List.reverseRecOn with
  | nil => simp [lastSettings, keysOf]
  | append_singleton settings last induction =>
      rw [lastSettings_concat, Json.mem_keysOf_insertField, induction]
      simp [or_and_right, exists_or, or_comm, eq_comm]

theorem pairwise_lastSettings (settings : List Setting) :
    (keysOf (lastSettings settings)).Pairwise (· < ·) := by
  induction settings using List.reverseRecOn with
  | nil => exact .nil
  | append_singleton settings last induction =>
      rw [lastSettings_concat]
      exact Json.pairwise_insertField induction last.key last.value

theorem lastSettings_of_pairwise {fields : List (String × String)}
    (sorted : (keysOf fields).Pairwise (· < ·)) :
    lastSettings (fields.map fun field => ⟨field.1, field.2⟩) = fields := by
  have nothing : (keysOf ([] ++ fields)).Pairwise (· < ·) := sorted
  rw [lastSettings, List.foldl_map, Json.foldl_insertField_of_pairwise nothing, List.nil_append]

/-! ## Columns -/

/-- The names without the blanks around them, of which those that are left over count. -/
def writtenNames (names : List String) : List String :=
  (names.map Text.trim).filter (· ≠ "")

theorem mem_writtenNames {names : List String} {name : String} :
    name ∈ writtenNames names ↔ (∃ given ∈ names, Text.trim given = name) ∧ name ≠ "" := by
  rw [writtenNames, List.mem_filter, List.mem_map, decide_eq_true_eq]

theorem uniqueNames_eq (names : List String) :
    uniqueNames names = (writtenNames names).eraseDups :=
  KeySet.toList_ofList _

theorem mem_uniqueNames {names : List String} {name : String} :
    name ∈ uniqueNames names ↔ (∃ given ∈ names, Text.trim given = name) ∧ name ≠ "" := by
  rw [uniqueNames_eq, List.mem_eraseDups, mem_writtenNames]

theorem trim_of_mem_uniqueNames {names : List String} {name : String}
    (member : name ∈ uniqueNames names) : Text.trim name = name := by
  rcases (mem_uniqueNames.mp member).1 with ⟨given, _, same⟩
  rw [← same, Text.trim_trim]

theorem uniqueNames_uniqueNames (names : List String) :
    uniqueNames (uniqueNames names) = uniqueNames names := by
  have trimmed : (uniqueNames names).map Text.trim = uniqueNames names :=
    (List.map_congr_left fun _ member => trim_of_mem_uniqueNames member).trans (List.map_id' _)
  have written : writtenNames (uniqueNames names) = uniqueNames names := by
    rw [writtenNames, trimmed]
    apply List.filter_eq_self.mpr
    intro name member
    exact decide_eq_true (mem_uniqueNames.mp member).2
  rw [uniqueNames_eq, written]
  exact KeySet.eraseDups_of_nodup (KeySet.nodup _)

/-! ## Options -/

/-- Options that are accepted. -/
structure Options.IsValid (options : Options) : Prop where
  database : Query.isIdentifier (Text.trim options.database) = true
  columns : ∀ name ∈ options.materializedColumns, Text.trim name ≠ "" →
    Query.isIdentifier (Text.trim name) = true
  lifetime : ∀ lifetime ∈ options.connMaxLifetime, 0 < lifetime.nanoseconds

/-- What the store is reached with once the options were accepted. -/
def Options.normalized (options : Options) : StoreConfig where
  address := Text.trim options.address
  username := options.username
  password := options.password
  database := Text.trim options.database
  materializedColumns := uniqueNames options.materializedColumns
  dialTimeout := options.dialTimeout
  connMaxLifetime := options.connMaxLifetime
  maxIdleConns := options.maxIdleConns
  maxOpenConns := options.maxOpenConns
  settings := lastSettings options.settings

namespace Options

variable {options : Options}

theorem database?_eq_ok_iff {database : String} :
    options.database? = .ok database ↔
      Query.isIdentifier (Text.trim options.database) = true ∧
        database = Text.trim options.database := by
  unfold database?
  dsimp only
  split
  · next empty =>
      have unnamed : Query.isIdentifier "" = false := rfl
      simp [empty, unnamed]
  · split
    · next named => simp [named, eq_comm]
    · next unnamed => simp [unnamed]

theorem columns?_eq_ok_iff {columns : List String} :
    options.columns? = .ok columns ↔
      (∀ name ∈ options.materializedColumns, Text.trim name ≠ "" →
        Query.isIdentifier (Text.trim name) = true) ∧
          columns = uniqueNames options.materializedColumns := by
  have names : (∀ name ∈ options.materializedColumns, Text.trim name ≠ "" →
      Query.isIdentifier (Text.trim name) = true) ↔
        ∀ name ∈ uniqueNames options.materializedColumns, Query.isIdentifier name = true := by
    simp [mem_uniqueNames]
  rw [names]
  unfold columns?
  dsimp only
  split
  · next name found =>
      have member := List.mem_of_find?_eq_some found
      have unnamed := List.find?_some found
      constructor
      · nofun
      · intro accepted
        simp [accepted.1 name member] at unnamed
  · next none =>
      have named : ∀ name ∈ uniqueNames options.materializedColumns,
          Query.isIdentifier name = true := by
        simpa using none
      rw [and_iff_right named, Except.ok.injEq, eq_comm]

theorem any_isZero_eq_false_iff {lifetime : Option Duration} :
    lifetime.any Duration.isZero = false ↔ ∀ given ∈ lifetime, 0 < given.nanoseconds := by
  cases lifetime with
  | none => simp
  | some given => simp [Duration.isZero, Nat.pos_iff_ne_zero]

theorem storeConfig_eq_ok_iff {config : StoreConfig} :
    options.storeConfig = .ok config ↔ options.IsValid ∧ config = options.normalized := by
  simp only [storeConfig, bind_eq_ok_iff, database?_eq_ok_iff, columns?_eq_ok_iff]
  constructor
  · intro checked
    rcases checked with ⟨database, ⟨named, sameName⟩, columns, ⟨allNamed, sameColumns⟩, rest⟩
    split at rest
    · cases rest
    · next positive =>
        cases rest
        refine ⟨⟨named, allNamed, any_isZero_eq_false_iff.mp (eq_false_of_ne_true positive)⟩, ?_⟩
        rw [normalized, sameName, sameColumns]
  · intro accepted
    rcases accepted with ⟨valid, same⟩
    have positive := any_isZero_eq_false_iff.mpr valid.lifetime
    refine ⟨_, ⟨valid.database, rfl⟩, _, ⟨valid.columns, rfl⟩, ?_⟩
    rw [positive, same]
    rfl

end Options

/-! ## The normal form -/

/-- The options that a configuration would be given by, with what it does not hold. -/
def StoreConfig.toOptions (config : StoreConfig) (bind : SocketAddress) (defaultLimit : Nat) :
    Options where
  address := config.address
  username := config.username
  password := config.password
  database := config.database
  materializedColumns := config.materializedColumns
  dialTimeout := config.dialTimeout
  connMaxLifetime := config.connMaxLifetime
  maxIdleConns := config.maxIdleConns
  maxOpenConns := config.maxOpenConns
  settings := config.settings.map fun field => ⟨field.1, field.2⟩
  bind := bind
  defaultLimit := defaultLimit

structure StoreConfig.IsNormalFormOf (config : StoreConfig) (options : Options) : Prop where
  columns : config.materializedColumns = (writtenNames options.materializedColumns).eraseDups
  lastValues : ∀ key value, config.settings.lookup key = some value ↔
    IsLastValue options.settings key value
  keys : ∀ key, key ∈ keysOf config.settings ↔ ∃ setting ∈ options.settings, setting.key = key
  sorted : (keysOf config.settings).Pairwise (· < ·)
  address : config.address = Text.trim options.address
  database : config.database = Text.trim options.database
  username : config.username = options.username
  password : config.password = options.password
  dialTimeout : config.dialTimeout = options.dialTimeout
  connMaxLifetime : config.connMaxLifetime = options.connMaxLifetime
  maxIdleConns : config.maxIdleConns = options.maxIdleConns
  maxOpenConns : config.maxOpenConns = options.maxOpenConns

theorem isNormalFormOf_normalized (options : Options) :
    options.normalized.IsNormalFormOf options where
  columns := uniqueNames_eq options.materializedColumns
  lastValues _ _ := lookup_lastSettings_eq_some_iff
  keys _ := mem_keysOf_lastSettings
  sorted := pairwise_lastSettings options.settings
  address := rfl
  database := rfl
  username := rfl
  password := rfl
  dialTimeout := rfl
  connMaxLifetime := rfl
  maxIdleConns := rfl
  maxOpenConns := rfl

section

variable (options : Options) (bind : SocketAddress) (defaultLimit : Nat)

theorem normalized_toOptions :
    (options.normalized.toOptions bind defaultLimit).normalized = options.normalized := by
  unfold Options.normalized StoreConfig.toOptions
  dsimp only
  rw [Text.trim_trim, Text.trim_trim, uniqueNames_uniqueNames,
    lastSettings_of_pairwise (pairwise_lastSettings options.settings)]

theorem isValid_toOptions (valid : options.IsValid) :
    (options.normalized.toOptions bind defaultLimit).IsValid where
  database := by
    change Query.isIdentifier (Text.trim (Text.trim options.database)) = true
    rw [Text.trim_trim]
    exact valid.database
  columns := by
    intro name member _
    rcases (mem_uniqueNames.mp member) with ⟨⟨given, inOptions, same⟩, nonblank⟩
    rw [trim_of_mem_uniqueNames member, ← same]
    exact valid.columns given inOptions (same ▸ nonblank)
  lifetime := valid.lifetime

end

/-- Options are accepted exactly if every name in them is an identifier and connections may live
at all. What they come to is their normal form, and a normal form comes to itself. -/
theorem storeConfig_isNormalForm (options : Options) :
    ((∃ config, options.storeConfig = .ok config) ↔ options.IsValid) ∧
    ∀ config, options.storeConfig = .ok config →
      config.IsNormalFormOf options ∧
      ∀ bind defaultLimit, (config.toOptions bind defaultLimit).storeConfig = .ok config := by
  simp only [Options.storeConfig_eq_ok_iff]
  constructor
  · constructor
    · intro accepted
      rcases accepted with ⟨config, valid, _⟩
      exact valid
    · intro valid
      exact ⟨_, valid, rfl⟩
  · intro config accepted
    rcases accepted with ⟨valid, same⟩
    rw [same]
    refine ⟨isNormalFormOf_normalized options, ?_⟩
    intro bind defaultLimit
    exact ⟨isValid_toOptions options bind defaultLimit valid,
      (normalized_toOptions options bind defaultLimit).symm⟩

/-- Options with blanks, a column that is named twice and a setting that is given twice. -/
def spacedOptions : Options :=
  { address := " http://localhost:8123\n", database := " klogs "
    materializedColumns := [" level", "", "trace_id", "level ", " "]
    connMaxLifetime := some ⟨1⟩
    settings := [⟨"max_threads", "4"⟩, ⟨"log_queries", "1"⟩, ⟨"max_threads", "8"⟩] }

def spacedConfig : StoreConfig :=
  { address := "http://localhost:8123", username := "default", password := ""
    database := "klogs", materializedColumns := ["level", "trace_id"]
    dialTimeout := .ofSeconds 10, connMaxLifetime := some ⟨1⟩, maxIdleConns := 5
    maxOpenConns := 10, settings := [("log_queries", "1"), ("max_threads", "8")] }

theorem storeConfig_isNormalForm_spaced :
    spacedOptions.IsValid ∧ spacedOptions.storeConfig = .ok spacedConfig ∧
      spacedConfig.IsNormalFormOf spacedOptions ∧
      (spacedConfig.toOptions ⟨.v4 [0, 0, 0, 0], 8080⟩ 100).storeConfig = .ok spacedConfig := by
  have valid : spacedOptions.IsValid := {
    database := by decide +kernel
    columns := by decide +kernel
    lifetime := by simp [spacedOptions] }
  have same : spacedConfig = spacedOptions.normalized := by
    rw [Options.normalized, uniqueNames_eq]
    decide +kernel
  have accepted : spacedOptions.storeConfig = .ok spacedConfig :=
    Options.storeConfig_eq_ok_iff.mpr ⟨valid, same⟩
  rcases (storeConfig_isNormalForm spacedOptions).2 _ accepted with ⟨normal, again⟩
  exact ⟨valid, accepted, normal, again _ _⟩

end LogQuery.Config
