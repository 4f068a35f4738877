import TableFerry.Proofs.ConfigReadings
/-! Datasources and policies written out as mappings and read again. Each conversion leaves what it has made as it is,
so that a mapping of converted values says the same as the one they were made of. -/

namespace TableFerry

namespace Datasource

theorem readBufferRows_fixed {value rows : Value} (read : readBufferRows value = .ok rows) :
    readBufferRows rows = .ok rows := by
  obtain rfl | ⟨n, rfl⟩ := readBufferRows_eq_ok read
  · rfl
  · rfl

theorem readTruth_fixed (value : Value) : readTruth (readTruth value) = readTruth value := by
  cases value <;> rfl

theorem normalized_toMapping (source : Datasource) :
    normalized (source.toMapping false) = source.toMapping false := by
  have names : (source.toMapping false).names = fieldNames := rfl
  exact ofPairs_ownFields (names ▸ by decide) (names ▸ by decide)

theorem ofMapping_toMapping {mapping : Fields} {source : Datasource} (read : ofMapping mapping = .ok source) :
    ofMapping (source.toMapping false) = .ok source := by
  obtain ⟨_, _, describes⟩ := ofMapping_eq_ok_iff.mp read
  have filled (name : String) (member : name ∈ ["id", "url", "user", "password"]) :
      ((source.toMapping false).given name .null).isBlank = false := by
    have given := describes.filled name member
    have same : (source.toMapping false).given name .null = (normalized mapping).given name .null := by
      simp only [List.mem_cons, List.not_mem_nil, or_false] at member
      obtain rfl | rfl | rfl | rfl := member
      · exact describes.id
      · exact describes.url
      · exact describes.user
      · exact describes.password
    rw [same, given]
  rw [ofMapping_eq_ok_iff, normalized_toMapping]
  have names : (source.toMapping false).names = fieldNames := rfl
  have complete : Complete (source.toMapping false) := by
    unfold Complete
    rw [names]
    decide
  exact ⟨fun name member => names ▸ member, complete, {
    bufferRows := readBufferRows_fixed describes.bufferRows
    engine := Engine.ofValue_name source.engine
    filled := filled
    positive := describes.positive
    id := rfl
    url := rfl
    user := rfl
    password := rfl
    schemaName := rfl
    encoding := rfl
    tablespace := rfl
    extendedMode := describes.extendedMode.trans (describes.extendedMode ▸ (readTruth_fixed _).symm) }⟩

theorem ofMapping_respelled {mapping respelled : Fields} (respells : Respells aliases mapping respelled)
    (apart : ToldApart aliases respelled) {source : Datasource} (read : ofMapping mapping = .ok source) :
    ofMapping respelled = .ok source := by
  have same (name : String) : (normalized mapping).get? name = (normalized respelled).get? name :=
    unambiguous_aliases.get?_respelled respells apart name
  have given : (normalized mapping).given = (normalized respelled).given := by
    funext name default
    rw [Fields.given, same, Fields.given]
  have member (name : String) : name ∈ (normalized mapping).names ↔ name ∈ (normalized respelled).names := by
    rw [← Fields.isSome_get?_iff, same, Fields.isSome_get?_iff]
  rw [ofMapping_eq_ok_iff] at read ⊢
  obtain ⟨known, complete, describes⟩ := read
  exact ⟨fun name told => known name ((member name).mpr told),
    fun name needed => (member name).mp (complete name needed), given ▸ describes⟩

end Datasource

namespace Strategy

theorem readPattern_text {value : Value} {pattern : NamePattern} (read : readPattern value = .ok pattern) :
    readPattern (.text pattern.text) = .ok pattern := by
  unfold readPattern at read
  split at read
  · rename_i text
    have kept : pattern.text = text := by
      unfold NamePattern.ofText at read
      split at read
      · cases read
        rfl
      · split at read <;> cases read
    rw [kept]
    exact read
  · cases read

theorem mapM_readPattern_texts {items : List Value} {patterns : List NamePattern}
    (read : items.mapM readPattern = .ok patterns) :
    (patterns.map fun pattern => Value.text pattern.text).mapM readPattern = .ok patterns := by
  induction items generalizing patterns with
  | nil =>
      cases read
      rfl
  | cons item rest ih =>
      rw [List.mapM_cons] at read
      obtain ⟨pattern, first, read⟩ := bind_eq_ok_iff.mp read
      obtain ⟨others, further, read⟩ := bind_eq_ok_iff.mp read
      cases read
      rw [List.map_cons, List.mapM_cons, readPattern_text first, ih further]
      rfl

theorem ofMapping_toMapping {mapping : Fields} {strategy : Strategy} (read : ofMapping mapping = .ok strategy) :
    ofMapping strategy.toMapping = .ok strategy := by
  obtain ⟨_, describes⟩ := ofMapping_eq_ok_iff.mp read
  obtain ⟨items, _, patterns⟩ := bind_eq_ok_iff.mp describes.ignored
  have names : strategy.toMapping.names = fieldNames := rfl
  have kept : Fields.ofPairs (ownFields aliases strategy.toMapping) = strategy.toMapping :=
    ofPairs_ownFields (names ▸ by decide) (names ▸ by decide)
  rw [ofMapping_eq_ok_iff, kept]
  exact ⟨fun name member => member, {
    limit := rfl
    pageSize := rfl
    buildMode := BuildMode.ofValue_name strategy.buildMode
    ignored := mapM_readPattern_texts patterns
    includeData := describes.includeData.trans (describes.includeData ▸ (Datasource.readTruth_fixed _).symm)
    continueOnError :=
      describes.continueOnError.trans (describes.continueOnError ▸ (Datasource.readTruth_fixed _).symm)
    debug := describes.debug.trans (describes.debug ▸ (Datasource.readTruth_fixed _).symm) }⟩

theorem ofMapping_respelled {mapping respelled : Fields} (respells : Respells aliases mapping respelled)
    (apart : ToldApart aliases respelled) {strategy : Strategy} (read : ofMapping mapping = .ok strategy) :
    ofMapping respelled = .ok strategy := by
  have same (name : String) := unambiguous_aliases.get?_respelled respells apart name
  have given : (Fields.ofPairs (ownFields aliases mapping)).given =
      (Fields.ofPairs (ownFields aliases respelled)).given := by
    funext name default
    rw [Fields.given, same, Fields.given]
  have perm := (unambiguous_aliases.perm_ownFields respells).map Prod.fst
  rw [ofMapping_eq_ok_iff] at read ⊢
  exact ⟨fun name told => read.1 name (perm.mem_iff.mpr told), given ▸ read.2⟩

end Strategy

/-- Datasources and policies are what their mappings say: written out and read again they are the same, and so they are
under any other spellings of the names, as long as no two fields mean the same. -/
theorem configuration_round_trips :
    (∀ mapping source, Datasource.ofMapping mapping = .ok source →
      Datasource.ofMapping (source.toMapping false) = .ok source ∧
      ∀ respelled, Respells Datasource.aliases mapping respelled → ToldApart Datasource.aliases respelled →
        Datasource.ofMapping respelled = .ok source) ∧
    ∀ mapping strategy, Strategy.ofMapping mapping = .ok strategy →
      Strategy.ofMapping strategy.toMapping = .ok strategy ∧
      ∀ respelled, Respells Strategy.aliases mapping respelled → ToldApart Strategy.aliases respelled →
        Strategy.ofMapping respelled = .ok strategy :=
  ⟨fun _ _ read => ⟨Datasource.ofMapping_toMapping read,
      fun _ respells apart => Datasource.ofMapping_respelled respells apart read⟩,
    fun _ _ read => ⟨Strategy.ofMapping_toMapping read,
      fun _ respells apart => Strategy.ofMapping_respelled respells apart read⟩⟩

/-- A file database under its own names, except for the user. -/
def plainDatabase : Fields := [
  ("id", .text "a"), ("url", .text "sqlite:///a.db"), ("userName", .text "u"), ("password", .text "p"),
  ("db_type", .text " SQLite "), ("schema_name", .null), ("buffer_rows", .text " 12 "), ("extended_mode", .text "Yes")]

/-- The same in other spellings, the engine first. -/
def respelledDatabase : Fields := [
  ("type", .text " SQLite "), ("id", .text "a"), ("dbUrl", .text "sqlite:///a.db"), ("username", .text "u"),
  ("password", .text "p"), ("schema", .null), ("bufferRows", .text " 12 "), ("extendedMode", .text "Yes")]

/-- A policy under its own names. -/
def plainPolicy : Fields := [
  ("build_mode", .text "skip_when_exist"), ("max_record_count", .text "10"), ("ignored_table_patterns", .text "tmp_.*"),
  ("continue_when_error", .null), ("debug", .text "no")]

/-- The same in other spellings, the patterns first. -/
def respelledPolicy : Fields := [
  ("ignoredTableNames", .text "tmp_.*"), ("buildType", .text "skip_when_exist"), ("maxRecordCount", .text "10"),
  ("continueWhenError", .null), ("debug", .text "no")]

theorem respelled_database : Respells Datasource.aliases plainDatabase respelledDatabase := by
  refine ⟨[("id", .text "a"), ("dbUrl", .text "sqlite:///a.db"), ("username", .text "u"), ("password", .text "p"),
    ("type", .text " SQLite "), ("schema", .null), ("bufferRows", .text " 12 "), ("extendedMode", .text "Yes")], ?_,
    @List.perm_middle _ _ [_, _, _, _] _⟩
  simp only [plainDatabase, List.forall₂_cons, List.Forall₂.nil, Datasource.unambiguous_aliases.sameName_iff, and_true]
  decide

theorem respelled_policy : Respells Strategy.aliases plainPolicy respelledPolicy := by
  refine ⟨[("buildType", .text "skip_when_exist"), ("maxRecordCount", .text "10"),
    ("ignoredTableNames", .text "tmp_.*"), ("continueWhenError", .null), ("debug", .text "no")], ?_,
    @List.perm_middle _ _ [_, _] _⟩
  simp only [plainPolicy, List.forall₂_cons, List.Forall₂.nil, Strategy.unambiguous_aliases.sameName_iff, and_true]
  decide

theorem plain_and_respelled :
    (∃ source, Datasource.ofMapping plainDatabase = .ok source ∧
      Datasource.ofMapping (source.toMapping false) = .ok source ∧
      Datasource.ofMapping respelledDatabase = .ok source) ∧
    ∃ strategy, Strategy.ofMapping plainPolicy = .ok strategy ∧
      Strategy.ofMapping strategy.toMapping = .ok strategy ∧ Strategy.ofMapping respelledPolicy = .ok strategy := by
  have apart_database : ToldApart Datasource.aliases respelledDatabase := by
    simp only [ToldApart, Datasource.unambiguous_aliases.sameName_iff]
    decide
  have apart_policy : ToldApart Strategy.aliases respelledPolicy := by
    simp only [ToldApart, Strategy.unambiguous_aliases.sameName_iff]
    decide
  constructor
  · cases read : Datasource.ofMapping plainDatabase with
    | error fault =>
        have accepted : (Datasource.ofMapping plainDatabase).isOk = true := by decide +kernel
        rw [read] at accepted
        cases accepted
    | ok source =>
        have laws := configuration_round_trips.1 plainDatabase source read
        exact ⟨source, rfl, laws.1, laws.2 respelledDatabase respelled_database apart_database⟩
  · cases read : Strategy.ofMapping plainPolicy with
    | error fault =>
        have accepted : (Strategy.ofMapping plainPolicy).isOk = true := by decide +kernel
        rw [read] at accepted
        cases accepted
    | ok strategy =>
        have laws := configuration_round_trips.2 plainPolicy strategy read
        exact ⟨strategy, rfl, laws.1, laws.2 respelledPolicy respelled_policy apart_policy⟩

end TableFerry
