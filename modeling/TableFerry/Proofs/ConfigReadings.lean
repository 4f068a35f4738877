import TableFerry.Proofs.FieldSpellings
/-! What mappings say of a datasource and of a policy. The values are converted one by one before they are checked, so
that the conversions are seen through here once: a mapping is read exactly if its names are known and complete and what
stands under each of them is what the datasource or the policy has. -/

namespace TableFerry

theorem ok_bind {α β : Type} (value : α) (next : α → Except Fault β) : (Except.ok value >>= next) = next value := rfl

theorem bind_eq_ok_iff {α β : Type} {result : Except Fault α} {next : α → Except Fault β} {value : β} :
    (result >>= next) = .ok value ↔ ∃ read, result = .ok read ∧ next read = .ok value := by
  cases result with
  | error fault =>
      constructor
      · intro given
        cases given
      · rintro ⟨_, given, _⟩
        cases given
  | ok read =>
      constructor
      · exact fun given => ⟨read, rfl, given⟩
      · rintro ⟨_, same, given⟩
        cases same
        exact given

theorem Engine.ofValue_name (engine : Engine) : Engine.ofValue (.text engine.name) = .ok engine := by
  have named : Engine.ofName? (Text.lower (Text.strip engine.name)) = some engine := by
    cases engine <;> decide +kernel
  simp only [Engine.ofValue, named]

theorem BuildMode.ofValue_name (mode : BuildMode) : BuildMode.ofValue (.text mode.name) = .ok mode := by
  have named : BuildMode.all.find? (·.name == Text.lower (Text.strip mode.name)) = some mode := by
    cases mode <;> decide +kernel
  simp only [BuildMode.ofValue, Value.shown, named]

theorem Value.toWholeOrFault_eq_ok_iff {value : Value} {n : Int} :
    value.toWholeOrFault = .ok n ↔ value.toWhole = .ok n := by
  unfold toWholeOrFault
  cases value.toWhole <;> simp

/-- All names of a mapping under own names are those of fields. -/
def Known (fieldNames : List String) (fields : Fields) : Prop := ∀ name ∈ fields.names, name ∈ fieldNames

namespace Datasource

theorem unambiguous_aliases : Unambiguous aliases := ⟨by decide, by decide⟩

theorem get_put (name : String) (value : Value) (fields : Fields) (other : String) (default : Value) :
    get (Fields.put name value fields) other default = if other = name then value else get fields other default := by
  rw [get, Fields.get?_put]
  split <;> rfl

/-- No field is missing that a datasource needs. -/
def Complete (fields : Fields) : Prop := ∀ name ∈ requiredNames, name ∈ fields.names

/-- A datasource from fields under names of their own, none of which is missing. -/
def ofOwnFields (fields : Fields) : Except Fault Datasource := do
  let bufferRows ← readBufferRows (get fields "buffer_rows")
  let engine ← Engine.ofValue (get fields "db_type")
  for name in ["id", "url", "user", "password"] do
    refuseBlank (get fields "id") name (get fields name)
  checkBufferRows (get fields "id") bufferRows
  pure {
    id := get fields "id"
    url := get fields "url"
    user := get fields "user"
    password := get fields "password"
    engine := engine
    schemaName := get fields "schema_name"
    encoding := get fields "encoding"
    tablespace := get fields "tablespace_ddl"
    bufferRows := bufferRows
    extendedMode := readTruth (get fields "extended_mode" (.bool false)) }

theorem readBufferRows_eq_ok {value rows : Value} (read : readBufferRows value = .ok rows) :
    rows = .null ∨ ∃ n, rows = .int n := by
  unfold readBufferRows at read
  split at read
  · cases read
    exact Or.inl rfl
  · cases read
    exact Or.inl rfl
  · obtain ⟨n, _, made⟩ := bind_eq_ok_iff.mp read
    cases made
    exact Or.inr ⟨n, rfl⟩

theorem unknown_nil_iff (fields : Fields) :
    ((fields.names.filter fun name => !fieldNames.contains name).mergeSort fun a b => a ≤ b).isEmpty = true ↔
      Known fieldNames fields := by
  rw [List.isEmpty_iff, ← List.length_eq_zero_iff, List.length_mergeSort, List.length_eq_zero_iff,
    List.filter_eq_nil_iff]
  simp [Known]

theorem missing_nil_iff (fields : Fields) :
    (requiredNames.filter fun name => (fields.get? name).isNone).isEmpty = true ↔ Complete fields := by
  rw [List.isEmpty_iff, List.filter_eq_nil_iff]
  refine forall_congr' fun name => forall_congr' fun _ => ?_
  rw [← Fields.isSome_get?_iff, Option.isNone_iff_eq_none, Option.isSome_iff_ne_none]

variable {mapping : Fields}

theorem ofMapping_unknown (unknown : ¬ Known fieldNames (normalized mapping)) :
    ∃ message details, ofMapping mapping = .error (.configuration message details) := by
  have some_name := (unknown_nil_iff (normalized mapping)).not.mpr unknown
  unfold ofMapping
  dsimp only
  rw [if_pos (by simpa using some_name)]
  exact ⟨_, _, rfl⟩

theorem ofMapping_incomplete (known : Known fieldNames (normalized mapping))
    (missing : ¬ Complete (normalized mapping)) :
    ∃ message details, ofMapping mapping = .error (.configuration message details) := by
  have no_name := (unknown_nil_iff (normalized mapping)).mpr known
  have some_name := (missing_nil_iff (normalized mapping)).not.mpr missing
  unfold ofMapping
  dsimp only
  rw [if_neg (by simpa using no_name), if_pos (by simpa using some_name)]
  exact ⟨_, _, rfl⟩

/-- With all names in place, each value is read where it is given. -/
theorem ofMapping_eq (known : Known fieldNames (normalized mapping))
    (complete : Complete (normalized mapping)) :
    ofMapping mapping = ofOwnFields (normalized mapping) := by
  have no_name := (unknown_nil_iff (normalized mapping)).mpr known
  have none_missing := (missing_nil_iff (normalized mapping)).mpr complete
  unfold ofMapping
  dsimp only
  rw [if_neg (by simpa using no_name), if_neg (by simpa using none_missing)]
  simp [ofFields, ofOwnFields, get_put, Engine.ofValue_name, ok_bind]

theorem refuseBlank_eq_ok_iff {id : Value} {name : String} {value : Value} :
    refuseBlank id name value = .ok () ↔ value.isBlank = false := by
  unfold refuseBlank
  cases value.isBlank <;> simp

theorem refuseBlanks_eq_ok_iff {fields : Fields} {id : Value} {names : List String} :
    (forIn names PUnit.unit fun name _ => do
      refuseBlank id name (get fields name)
      pure (ForInStep.yield PUnit.unit) : Except Fault PUnit) = .ok PUnit.unit ↔
      ∀ name ∈ names, (get fields name).isBlank = false := by
  induction names with
  | nil => simp [pure, Except.pure]
  | cons name rest ih =>
      rw [List.forIn_cons, bind_assoc, bind_eq_ok_iff, List.forall_mem_cons, ← ih]
      simp only [pure_bind]
      constructor
      · rintro ⟨_, filled, others⟩
        exact ⟨refuseBlank_eq_ok_iff.mp filled, others⟩
      · rintro ⟨filled, others⟩
        exact ⟨(), refuseBlank_eq_ok_iff.mpr filled, others⟩

theorem checkBufferRows_eq_ok_iff {id bufferRows : Value} : checkBufferRows id bufferRows = .ok () ↔
    bufferRows = .null ∨ ∃ rows, bufferRows.toWhole = .ok rows ∧ 0 < rows := by
  unfold checkBufferRows
  split
  · simp
  · rename_i given
    rw [bind_eq_ok_iff, or_iff_right given]
    refine exists_congr fun rows => and_congr Value.toWholeOrFault_eq_ok_iff ?_
    split
    · rename_i small
      exact iff_of_false (fun same => by cases same) (Int.not_lt.mpr small)
    · rename_i large
      exact iff_of_true rfl (Int.not_le.mp large)

/-- What fields say of a datasource; `given` is what stands under a name, or a default. -/
structure Describes (given : String → Value → Value) (source : Datasource) : Prop where
  bufferRows : readBufferRows (given "buffer_rows" .null) = .ok source.bufferRows
  engine : Engine.ofValue (given "db_type" .null) = .ok source.engine
  filled : ∀ name ∈ ["id", "url", "user", "password"], (given name .null).isBlank = false
  positive : source.bufferRows = .null ∨ ∃ rows, source.bufferRows.toWhole = .ok rows ∧ 0 < rows
  id : source.id = given "id" .null
  url : source.url = given "url" .null
  user : source.user = given "user" .null
  password : source.password = given "password" .null
  schemaName : source.schemaName = given "schema_name" .null
  encoding : source.encoding = given "encoding" .null
  tablespace : source.tablespace = given "tablespace_ddl" .null
  extendedMode : source.extendedMode = readTruth (given "extended_mode" (.bool false))

theorem ofOwnFields_eq_ok_iff {fields : Fields} {source : Datasource} :
    ofOwnFields fields = .ok source ↔ Describes fields.given source := by
  unfold ofOwnFields
  simp only [bind_eq_ok_iff]
  constructor
  · rintro ⟨rows, read, engine, named, _, filled, _, positive, made⟩
    cases made
    exact ⟨read, named, refuseBlanks_eq_ok_iff.mp filled, checkBufferRows_eq_ok_iff.mp positive, rfl, rfl, rfl, rfl,
      rfl, rfl, rfl, rfl⟩
  · intro describes
    refine ⟨_, describes.bufferRows, _, describes.engine, _, refuseBlanks_eq_ok_iff.mpr describes.filled, _,
      checkBufferRows_eq_ok_iff.mpr describes.positive, ?_⟩
    apply congrArg Except.ok
    cases source
    rw [mk.injEq]
    exact ⟨describes.id.symm, describes.url.symm, describes.user.symm, describes.password.symm, rfl,
      describes.schemaName.symm, describes.encoding.symm, describes.tablespace.symm, rfl, describes.extendedMode.symm⟩

theorem ofMapping_eq_ok_iff {source : Datasource} : ofMapping mapping = .ok source ↔
    Known fieldNames (normalized mapping) ∧ Complete (normalized mapping) ∧
      Describes (normalized mapping).given source := by
  constructor
  · intro read
    by_cases known : Known fieldNames (normalized mapping)
    · by_cases complete : Complete (normalized mapping)
      · rw [ofMapping_eq known complete] at read
        exact ⟨known, complete, ofOwnFields_eq_ok_iff.mp read⟩
      · obtain ⟨message, details, refused⟩ := ofMapping_incomplete known complete
        cases read.symm.trans refused
    · obtain ⟨message, details, refused⟩ := ofMapping_unknown known
      cases read.symm.trans refused
  · rintro ⟨known, complete, describes⟩
    rw [ofMapping_eq known complete]
    exact ofOwnFields_eq_ok_iff.mpr describes

end Datasource

namespace Strategy

theorem unambiguous_aliases : Unambiguous aliases := ⟨by decide, by decide⟩

theorem normalized_eq_ok_iff {found mapping fields : Fields} : normalized found mapping = .ok fields ↔
    (∀ name ∈ (ownFields aliases mapping).names, name ∈ fieldNames) ∧
      fields = (ownFields aliases mapping).foldl (fun fields pair => Fields.put pair.1 pair.2 fields) found := by
  induction mapping generalizing found with
  | nil =>
      rw [normalized, Except.ok.injEq, eq_comm]
      exact (and_iff_right (by simp [ownFields, Fields.names])).symm
  | cons field rest ih =>
      rw [normalized, ownFields, List.map_cons, ← ownFields, Fields.names, List.map_cons, List.forall_mem_cons,
        List.foldl_cons]
      dsimp only
      split
      · rename_i known
        rw [ih, and_assoc]
        exact (and_iff_right (List.contains_iff_mem.mp known)).symm
      · rename_i unknown
        exact iff_of_false (fun same => by cases same) fun told => unknown (List.contains_iff_mem.mpr told.1.1)

/-- A single pattern stands for a list of one. -/
def listed : Value → Value
  | .text s => .list [.text s]
  | value => value

/-- The fields after a value was changed, if it is set. -/
def amend (name : String) (f : Value → Value) (fields : Fields) : Fields :=
  match fields.get? name with
  | none => fields
  | some value => Fields.put name (f value) fields

theorem given_amend (name : String) (f : Value → Value) (fields : Fields) (other : String) (default : Value) :
    (amend name f fields).given other default =
      if other = name then ((fields.get? name).map f).getD default else fields.given other default := by
  unfold amend
  split
  · rename_i absent
    rw [absent]
    split
    · rename_i same
      rw [Fields.given, same, absent]
      rfl
    · rfl
  · rename_i value found
    rw [Fields.given, Fields.get?_put, found]
    split <;> rfl

theorem convert_pure {f : Value → Except Fault Value} {g : Value → Value} (plain : ∀ value, f value = .ok (g value))
    (name : String) (fields : Fields) : convert name f fields = .ok (amend name g fields) := by
  unfold convert amend
  cases fields.get? name with
  | none => rfl
  | some value =>
      dsimp only
      rw [plain]
      rfl

theorem convert_readTruth (name : String) (fields : Fields) :
    convert name (fun value => pure (Datasource.readTruth value)) fields =
      .ok (amend name Datasource.readTruth fields) :=
  convert_pure (fun _ => rfl) name fields

/-- A number is read where it is set, and otherwise the default is one already. -/
theorem convert_readWhole (name : String) (default : Int) (fields : Fields) : convert name readWhole fields = (do
    let n ← (fields.given name (.int default)).toWholeOrFault
    pure (amend name (fun _ => .int n) fields)) := by
  unfold convert amend Fields.given readWhole
  cases found : fields.get? name with
  | none => rfl
  | some value =>
      dsimp only [Option.getD_some]
      cases value.toWholeOrFault <;> rfl

theorem pageSize_positive {pageSize : Int} (positive : ¬pageSize < 1) : 0 < pageSize.toNat := by
  omega

/-- A policy from fields under names of their own. -/
def ofOwnFields (fields : Fields) : Except Fault Strategy := do
  let limit ← (fields.given "max_record_count" (.int (-1))).toWholeOrFault
  let pageSize ← (fields.given "page_size" (.int 5000)).toWholeOrFault
  let buildMode ← BuildMode.ofValue (fields.given "build_mode" (.text BuildMode.deleteAndRebuild.name))
  let patterns ← patternItems (listed (fields.given "ignored_table_patterns" (.list [])))
  if positive : pageSize < 1 then
    throw (.configuration s!"page_size must be at least 1, got {pageSize}")
  else if limit < -1 then
    throw (.configuration s!"max_record_count must be -1 or non-negative, got {limit}")
  else
    let ignored ← patterns.mapM readPattern
    pure {
      buildMode := buildMode
      maxRows := if limit = -1 then none else some limit.toNat
      includeData := Datasource.readTruth (fields.given "include_data" (.bool true))
      ignored := ignored
      continueOnError := Datasource.readTruth (fields.given "continue_when_error" (.bool true))
      pageSize := pageSize.toNat
      debug := Datasource.readTruth (fields.given "debug" (.bool false))
      pageSize_pos := pageSize_positive positive }

theorem given_amend_self (name : String) {f : Value → Value} {default : Value} (kept : f default = default)
    (fields : Fields) : (amend name f fields).given name default = f (fields.given name default) := by
  rw [given_amend, if_pos rfl, Fields.given, ← Option.getD_map f, kept]

theorem given_amend_other {name other : String} (differs : other ≠ name) (f : Value → Value) (fields : Fields)
    (default : Value) : (amend name f fields).given other default = fields.given other default := by
  rw [given_amend, if_neg differs]

/-- A number that was read is whole. -/
theorem wholeField_amend {name : String} {default n : Int} {fields : Fields}
    (read : (fields.given name (.int default)).toWholeOrFault = .ok n) :
    wholeField ((amend name (fun _ => .int n) fields).given name (.int default)) = .ok n := by
  rw [given_amend, if_pos rfl]
  rw [Fields.given] at read
  cases found : fields.get? name with
  | none =>
      rw [found] at read
      exact read
  | some value => rfl

/-- Of fields under names of their own each value is read where it is given. -/
theorem ofMapping_eq (mapping : Fields) : ofMapping mapping = normalized [] mapping >>= ofOwnFields := by
  unfold ofMapping
  congr
  funext fields
  unfold ofOwnFields
  rw [convert_readWhole "max_record_count" (-1)]
  cases limit : (fields.given "max_record_count" (.int (-1))).toWholeOrFault with
  | error fault => rfl
  | ok most =>
      simp only [ok_bind, pure_bind]
      rw [convert_readWhole "page_size" 5000, given_amend_other (by decide)]
      cases page : (fields.given "page_size" (.int 5000)).toWholeOrFault with
      | error fault => rfl
      | ok size =>
          simp only [ok_bind, pure_bind]
          have limit_read := wholeField_amend limit
          have page_read : wholeField ((amend "page_size" (fun _ => .int size)
              (amend "max_record_count" (fun _ => .int most) fields)).given "page_size" (.int 5000)) = .ok size := by
            apply wholeField_amend
            rw [given_amend_other (by decide)]
            exact page
          rw [convert_readTruth, ok_bind, convert_readTruth, ok_bind, convert_readTruth, ok_bind]
          refine (congrArg (· >>= ofFields) (convert_pure (g := listed) ?_ _ _)).trans ?_
          · intro value
            cases value <;> rfl
          rw [ok_bind]
          simp only [ofFields, Fields.getD_get?]
          have kept (b : Bool) : Datasource.readTruth (.bool b) = .bool b := rfl
          have unlisted : listed (.list []) = .list [] := rfl
          simp (disch := decide) only [given_amend_other, page_read, limit_read, ok_bind,
            given_amend_self "include_data" (kept true), given_amend_self "continue_when_error" (kept true),
            given_amend_self "debug" (kept false), given_amend_self "ignored_table_patterns" unlisted]

/-- What fields say of a policy; `given` is what stands under a name, or a default. -/
structure Describes (given : String → Value → Value) (strategy : Strategy) : Prop where
  limit : (given "max_record_count" (.int (-1))).toWhole = .ok strategy.limit
  pageSize : (given "page_size" (.int 5000)).toWhole = .ok ↑strategy.pageSize
  buildMode : BuildMode.ofValue (given "build_mode" (.text BuildMode.deleteAndRebuild.name)) = .ok strategy.buildMode
  ignored : (patternItems (listed (given "ignored_table_patterns" (.list []))) >>= fun items =>
    items.mapM readPattern) = .ok strategy.ignored
  includeData : strategy.includeData = Datasource.readTruth (given "include_data" (.bool true))
  continueOnError : strategy.continueOnError = Datasource.readTruth (given "continue_when_error" (.bool true))
  debug : strategy.debug = Datasource.readTruth (given "debug" (.bool false))

theorem limit_eq_of_maxRows {strategy : Strategy} {most : Int} (low : ¬ most < -1)
    (made : strategy.maxRows = if most = -1 then none else some most.toNat) : strategy.limit = most := by
  unfold limit
  rw [made]
  by_cases none_set : most = -1
  · rw [if_pos none_set, none_set]
  · rw [if_neg none_set]
    simp only [Int.toNat_of_nonneg (show 0 ≤ most by omega)]

theorem maxRows_eq_of_limit (strategy : Strategy) :
    (if strategy.limit = -1 then none else some strategy.limit.toNat) = strategy.maxRows := by
  unfold limit
  cases strategy.maxRows with
  | none => rfl
  | some most =>
      have set : ((most : Nat) : Int) ≠ -1 := by omega
      exact if_neg set

theorem not_limit_lt (strategy : Strategy) : ¬ strategy.limit < -1 := by
  unfold limit
  cases strategy.maxRows with
  | none => simp
  | some most => simp only; omega

theorem ofOwnFields_eq_ok_iff {fields : Fields} {strategy : Strategy} :
    ofOwnFields fields = .ok strategy ↔ Describes fields.given strategy := by
  unfold ofOwnFields
  simp only [bind_eq_ok_iff, Value.toWholeOrFault_eq_ok_iff]
  constructor
  · rintro ⟨most, limit, size, page, mode, built, items, listed, made⟩
    split at made
    · cases made
    · rename_i positive
      split at made
      · cases made
      · rename_i low
        obtain ⟨ignored, read, made⟩ := bind_eq_ok_iff.mp made
        cases made
        refine ⟨limit.trans (congrArg Except.ok (limit_eq_of_maxRows low rfl).symm), ?_, built,
          bind_eq_ok_iff.mpr ⟨items, listed, read⟩, rfl, rfl, rfl⟩
        rw [page, Int.toNat_of_nonneg (by omega)]
  · intro describes
    obtain ⟨items, listed, read⟩ := bind_eq_ok_iff.mp describes.ignored
    refine ⟨_, describes.limit, _, describes.pageSize, _, describes.buildMode, items, listed, ?_⟩
    have positive := strategy.pageSize_pos
    rw [dif_neg (by omega), if_neg (not_limit_lt strategy), bind_eq_ok_iff]
    refine ⟨_, read, congrArg Except.ok ?_⟩
    simp only [maxRows_eq_of_limit, Int.toNat_natCast, ← describes.includeData, ← describes.continueOnError,
      ← describes.debug]

theorem ofMapping_eq_ok_iff {mapping : Fields} {strategy : Strategy} : ofMapping mapping = .ok strategy ↔
    Known fieldNames (ownFields aliases mapping) ∧
      Describes (Fields.ofPairs (ownFields aliases mapping)).given strategy := by
  rw [ofMapping_eq, bind_eq_ok_iff]
  constructor
  · rintro ⟨fields, found, made⟩
    obtain ⟨known, rfl⟩ := normalized_eq_ok_iff.mp found
    exact ⟨known, ofOwnFields_eq_ok_iff.mp made⟩
  · rintro ⟨known, describes⟩
    exact ⟨_, normalized_eq_ok_iff.mpr ⟨known, rfl⟩, ofOwnFields_eq_ok_iff.mpr describes⟩

end Strategy

end TableFerry
