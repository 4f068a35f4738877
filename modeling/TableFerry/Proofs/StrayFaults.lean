import TableFerry.Proofs.ConfigReadings
/-! What readings stray on. A step of a reading that can fail is either guarded, so that its fault is one of the
configuration, or it is not, so that its fault is none that the program handles. When a result strays is told step by
step and put together along the sequence of the steps: first for values, then for the mappings of datasources and of
policies. -/

namespace TableFerry

def ErrorKind.isConfiguration : ErrorKind → Bool
  | configuration _ => true
  | _ => false

theorem ErrorKind.isHandled_of_isConfiguration {kind : ErrorKind} (configuration : kind.isConfiguration = true) :
    kind.isHandled = true := by
  cases kind with
  | configuration details => rfl
  | _ => cases configuration

section

variable {α β : Type} {result : Except Fault α} {stray : Prop}

/-- The result is a fault that the program does not handle if `stray` holds, and else a value or a fault of the
configuration. -/
def StraysIff (result : Except Fault α) (stray : Prop) : Prop :=
  (stray ∧ ∃ fault, result = .error fault ∧ fault.kind.isHandled = false) ∨
    (¬ stray ∧ ∀ fault, result = .error fault → fault.kind.isConfiguration = true)

theorem straysIff_ok (value : α) : StraysIff (.ok value) False :=
  Or.inr ⟨not_false, fun _ given => by cases given⟩

theorem straysIff_configuration (message : String) (details : Fields) :
    StraysIff (.error (.configuration message details) : Except Fault α) False := by
  refine Or.inr ⟨not_false, fun fault given => ?_⟩
  cases given
  rfl

theorem straysIff_error {fault : Fault} (unhandled : fault.kind.isHandled = false) :
    StraysIff (.error fault : Except Fault α) True := Or.inl ⟨trivial, fault, rfl, unhandled⟩

theorem StraysIff.congr {other : Prop} (strays : StraysIff result stray) (same : stray ↔ other) :
    StraysIff result other := propext same ▸ strays

theorem StraysIff.bind {next : α → Except Fault β} {further : α → Prop} (first : StraysIff result stray)
    (second : ∀ value, result = .ok value → StraysIff (next value) (further value)) :
    StraysIff (result >>= next) (stray ∨ ∃ value, result = .ok value ∧ further value) := by
  rcases first with ⟨strays, fault, rfl, unhandled⟩ | ⟨keeps, guarded⟩
  · exact Or.inl ⟨Or.inl strays, fault, rfl, unhandled⟩
  · cases result with
    | error fault =>
        refine Or.inr ⟨?_, fun other given => ?_⟩
        · rintro (strays | ⟨_, given, _⟩)
          · exact keeps strays
          · cases given
        · cases given
          exact guarded fault rfl
    | ok value =>
        apply (second value rfl).congr
        constructor
        · exact fun strays => Or.inr ⟨value, rfl, strays⟩
        · rintro (strays | ⟨_, given, strays⟩)
          · exact absurd strays keeps
          · cases given
            exact strays

/-- A step that never strays may be taken first. -/
theorem StraysIff.after {next : α → Except Fault β} {further : Prop} (first : StraysIff result False)
    (second : ∀ value, result = .ok value → StraysIff (next value) further) :
    StraysIff (result >>= next) ((∃ value, result = .ok value) ∧ further) :=
  (first.bind second).congr (by rw [false_or, exists_and_right])

/-- A check that refuses the configuration. -/
theorem StraysIff.unless {refused : Prop} [Decidable refused] {message : String} {details : Fields}
    (kept : ¬ refused → StraysIff result stray) :
    StraysIff (if refused then .error (.configuration message details) else result) (¬ refused ∧ stray) := by
  split
  · rename_i holds
    exact (straysIff_configuration message details).congr (by simp [holds])
  · rename_i fails
    exact (kept fails).congr (by simp [fails])

/-- The same where what is kept depends on the check. -/
theorem StraysIff.dunless {refused : Prop} [Decidable refused] {message : String} {details : Fields}
    {kept : ¬ refused → Except Fault α} (each : ∀ fails, StraysIff (kept fails) stray) :
    StraysIff (if holds : refused then .error (.configuration message details) else kept holds)
      (¬ refused ∧ stray) := by
  split
  · rename_i holds
    exact (straysIff_configuration message details).congr (by simp [holds])
  · rename_i fails
    exact (each fails).congr (by simp [fails])

end

/-! Lists that are gone through until one of their items strays. -/

section

variable {α β : Type} {accepted : List α → Prop} {bad : α → Prop}

/-- A bad item stands behind accepted ones. -/
def Reaches (accepted : List α → Prop) (bad : α → Prop) (items : List α) : Prop :=
  ∃ front item rest, items = front ++ item :: rest ∧ accepted front ∧ bad item

theorem not_reaches_nil : ¬ Reaches accepted bad [] := by
  rintro ⟨front, item, rest, split, _⟩
  cases front <;> cases split

theorem reaches_cons {item : α} {rest : List α} : Reaches accepted bad (item :: rest) ↔
    (accepted [] ∧ bad item) ∨ Reaches (fun front => accepted (item :: front)) bad rest := by
  constructor
  · rintro ⟨front, found, behind, split, passed, meets⟩
    cases front with
    | nil =>
        cases split
        exact Or.inl ⟨passed, meets⟩
    | cons head front =>
        cases split
        exact Or.inr ⟨front, found, behind, rfl, passed, meets⟩
  · rintro (⟨passed, meets⟩ | ⟨front, found, behind, rfl, passed, meets⟩)
    · exact ⟨[], item, rest, rfl, passed, meets⟩
    · exact ⟨item :: front, found, behind, rfl, passed, meets⟩

theorem exists_reaches {ι : Type} {met : ι → Prop} {passed : ι → List α → Prop} {items : List α} :
    (∃ i, met i ∧ Reaches (passed i) bad items) ↔ Reaches (fun front => ∃ i, met i ∧ passed i front) bad items := by
  constructor
  · rintro ⟨i, meets, front, item, rest, split, passes, strays⟩
    exact ⟨front, item, rest, split, ⟨i, meets, passes⟩, strays⟩
  · rintro ⟨front, item, rest, split, ⟨i, meets, passes⟩, strays⟩
    exact ⟨i, meets, front, item, rest, split, passes, strays⟩

theorem straysIff_mapM {f : α → Except Fault β} (each : ∀ item, StraysIff (f item) (bad item)) (items : List α) :
    StraysIff (items.mapM f) (Reaches (fun front => ∀ item ∈ front, ∃ value, f item = .ok value) bad items) := by
  induction items with
  | nil => exact (straysIff_ok []).congr (iff_of_false not_false not_reaches_nil)
  | cons item rest ih =>
      rw [List.mapM_cons]
      refine ((each item).bind fun _ _ => ih.bind fun _ _ => straysIff_ok _).congr ?_
      simp only [and_false, exists_false, or_false]
      rw [reaches_cons, exists_reaches]
      simp only [List.forall_mem_cons, exists_and_right]
      exact or_congr_left (by simp)

end

/-! Values. -/

/-- A value that is taken for no whole number. -/
def Value.Countless (value : Value) : Prop := ∀ n, value.toWhole ≠ .ok n

theorem Value.countless_or (value : Value) : value.Countless ∨ ∃ n, value.toWhole = .ok n := by
  by_cases whole : ∃ n, value.toWhole = .ok n
  · exact Or.inr whole
  · exact Or.inl fun n read => whole ⟨n, read⟩

/-- Values that consist of others. -/
def Value.isIterable : Value → Bool
  | .list _ | .tuple _ | .text _ | .record _ => true
  | _ => false

theorem Value.straysIff_toWholeOrFault (value : Value) : StraysIff value.toWholeOrFault value.Countless := by
  unfold toWholeOrFault Countless
  cases value.toWhole with
  | ok n => exact (straysIff_ok n).congr (by simp)
  | error cause =>
      have unhandled : cause.fault.kind.isHandled = false := by cases cause <;> rfl
      exact (straysIff_error unhandled).congr (by simp)

theorem Value.text?_eq_none {value : Value} (other : ∀ s, value ≠ .text s) : value.text? = none := by
  cases value with
  | text s => exact absurd rfl (other s)
  | _ => rfl

theorem Engine.straysIff_ofValue (value : Value) :
    StraysIff (Engine.ofValue value) (value.text? = none ∧ value.truthy = true) := by
  unfold ofValue
  dsimp only
  split
  · split
    · exact (straysIff_ok _).congr (by simp [Value.text?])
    · exact (straysIff_configuration _ _).congr (by simp [Value.text?])
  · rename_i other
    split
    · rename_i truthy
      exact (straysIff_error rfl).congr (by simp [Value.text?_eq_none other, truthy])
    · rename_i falsy
      split
      · exact (straysIff_ok _).congr (by simp [falsy])
      · exact (straysIff_configuration _ _).congr (by simp [falsy])

theorem BuildMode.straysIff_ofValue (value : Value) : StraysIff (BuildMode.ofValue value) False := by
  unfold ofValue
  dsimp only
  split
  · exact straysIff_ok _
  · exact straysIff_configuration _ _

namespace Datasource

theorem straysIff_readBufferRows (value : Value) :
    StraysIff (readBufferRows value) (value ≠ .null ∧ value ≠ .text "" ∧ value.Countless) := by
  unfold readBufferRows
  split
  · exact (straysIff_ok _).congr (by simp)
  · exact (straysIff_ok _).congr (by simp)
  · rename_i given filled
    refine ((Value.straysIff_toWholeOrFault _).bind fun n _ => straysIff_ok (Value.int n)).congr ?_
    simp only [and_false, exists_false, or_false]
    exact ⟨fun countless => ⟨given, filled, countless⟩, fun met => met.2.2⟩

theorem readBufferRows_of_counted {value : Value} (counted : ¬ (value ≠ .null ∧ value ≠ .text "" ∧ value.Countless)) :
    ∃ rows, readBufferRows value = .ok rows := by
  unfold readBufferRows
  split
  · exact ⟨_, rfl⟩
  · exact ⟨_, rfl⟩
  · rename_i given filled
    obtain ⟨n, read⟩ := value.countless_or.resolve_left fun countless => counted ⟨given, filled, countless⟩
    exact ⟨.int n, bind_eq_ok_iff.mpr ⟨n, Value.toWholeOrFault_eq_ok_iff.mpr read, rfl⟩⟩

theorem straysIff_refuseBlanks (fields : Fields) (id : Value) (names : List String) :
    StraysIff (forIn names PUnit.unit fun name _ => do
      refuseBlank id name (get fields name)
      pure (ForInStep.yield PUnit.unit) : Except Fault PUnit) False := by
  induction names with
  | nil => exact straysIff_ok _
  | cons name rest ih =>
      have checked : StraysIff (refuseBlank id name (get fields name)) False := by
        unfold refuseBlank
        split
        · exact straysIff_configuration _ _
        · exact straysIff_ok ()
      rw [List.forIn_cons, bind_assoc]
      exact (checked.after fun _ _ => ih).congr (by simp)

theorem straysIff_checkBufferRows {id rows : Value} (read : rows = .null ∨ ∃ n, rows = .int n) :
    StraysIff (checkBufferRows id rows) False := by
  rcases read with rfl | ⟨n, rfl⟩
  · exact straysIff_ok ()
  · unfold checkBufferRows
    have whole : (Value.int n).toWholeOrFault = .ok n := rfl
    dsimp only
    rw [whole]
    exact (StraysIff.unless fun _ => straysIff_ok ()).congr (by simp)

/-- A mapping with all the names that are needed and no other, in which the number of buffered rows is given and is no
number or the engine is neither named by a text nor empty. -/
def Unguarded (mapping : Fields) : Prop :=
  Known fieldNames (normalized mapping) ∧ Complete (normalized mapping) ∧
    ((get (normalized mapping) "buffer_rows" ≠ .null ∧ get (normalized mapping) "buffer_rows" ≠ .text "" ∧
        (get (normalized mapping) "buffer_rows").Countless) ∨
      ((get (normalized mapping) "db_type").text? = none ∧ (get (normalized mapping) "db_type").truthy = true))

theorem straysIff_ofMapping (mapping : Fields) : StraysIff (ofMapping mapping) (Unguarded mapping) := by
  unfold Unguarded
  by_cases known : Known fieldNames (normalized mapping)
  · by_cases complete : Complete (normalized mapping)
    · rw [ofMapping_eq known complete]
      refine ((straysIff_readBufferRows _).bind fun rows read => (Engine.straysIff_ofValue _).bind fun engine _ =>
        (straysIff_refuseBlanks _ _ _).after fun _ _ =>
          (straysIff_checkBufferRows (readBufferRows_eq_ok read)).after fun _ _ => straysIff_ok _).congr ?_
      simp only [and_false, exists_false, or_false, known, complete, true_and]
      constructor
      · exact Or.imp_right fun ⟨_, _, engine⟩ => engine
      · intro strays
        by_cases uncounted : get (normalized mapping) "buffer_rows" ≠ .null ∧
            get (normalized mapping) "buffer_rows" ≠ .text "" ∧ (get (normalized mapping) "buffer_rows").Countless
        · exact Or.inl uncounted
        · obtain ⟨rows, read⟩ := readBufferRows_of_counted uncounted
          exact Or.inr ⟨rows, read, strays.resolve_left uncounted⟩
    · obtain ⟨message, details, refused⟩ := ofMapping_incomplete known complete
      rw [refused]
      exact (straysIff_configuration message details).congr (by simp [complete])
  · obtain ⟨message, details, refused⟩ := ofMapping_unknown known
    rw [refused]
    exact (straysIff_configuration message details).congr (by simp [known])

end Datasource

namespace Strategy

/-- A pattern that is no text, or repeats more often than can be counted. -/
def UnguardedPattern (value : Value) : Prop :=
  ∀ s, value = .text s → ∃ fault, Pattern.compile s.toList = .error fault ∧ fault.mistake = .tooManyRepeats

theorem straysIff_readPattern (value : Value) : StraysIff (readPattern value) (UnguardedPattern value) := by
  unfold UnguardedPattern readPattern
  split
  · rename_i s
    unfold NamePattern.ofText
    split
    · rename_i compiled read
      refine (straysIff_ok _).congr (iff_of_false not_false fun strays => ?_)
      obtain ⟨fault, refused, _⟩ := strays s rfl
      cases read.symm.trans refused
    · rename_i fault refused
      split
      · rename_i large
        refine (straysIff_error rfl).congr (iff_of_true trivial fun other same => ?_)
        cases same
        exact ⟨fault, refused, large⟩
      · rename_i small
        refine (straysIff_configuration _ _).congr (iff_of_false not_false fun strays => ?_)
        obtain ⟨other, given, large⟩ := strays s rfl
        cases refused.symm.trans given
        exact small large
  · rename_i other
    exact (straysIff_error rfl).congr (iff_of_true trivial fun s same => absurd same (other s))

theorem straysIff_patternItems (value : Value) :
    StraysIff (patternItems (listed value)) (value.isIterable = false ∧ value.truthy = true) := by
  have loose (value : Value) (inner : patternItems value = if value.truthy then
      .error (.single .wrongType ("not a list of patterns: " ++ value.written)) else .ok [])
      (single : value.isIterable = false) :
      StraysIff (patternItems value) (value.isIterable = false ∧ value.truthy = true) := by
    rw [inner]
    split
    · rename_i truthy
      exact (straysIff_error rfl).congr (by simp [single, truthy])
    · rename_i falsy
      exact (straysIff_ok _).congr (by simp [falsy])
  have several {items : List Value} (given : patternItems (listed value) = .ok items)
      (iterable : value.isIterable = true) :
      StraysIff (patternItems (listed value)) (value.isIterable = false ∧ value.truthy = true) := by
    rw [given]
    exact (straysIff_ok items).congr (by simp [iterable])
  cases value with
  | null => exact loose .null rfl rfl
  | bool b => exact loose (.bool b) rfl rfl
  | int n => exact loose (.int n) rfl rfl
  | real d => exact loose (.real d) rfl rfl
  | text s => exact several rfl rfl
  | list items => exact several rfl rfl
  | tuple items => exact several rfl rfl
  | record fields => exact several rfl rfl

/-- Fields of a policy that ask for a number of something that is no number, or else, as long as the build mode is
known, for patterns that come in no list, or, as long as the numbers are in their bounds, for a pattern that cannot be
taken, behind others that can be read. -/
def UnguardedFields (fields : Fields) : Prop :=
  (fields.given "max_record_count" (.int (-1))).Countless ∨ (fields.given "page_size" (.int 5000)).Countless ∨
    ((∃ mode, BuildMode.ofValue (fields.given "build_mode" (.text BuildMode.deleteAndRebuild.name)) = .ok mode) ∧
      (((fields.given "ignored_table_patterns" (.list [])).isIterable = false ∧
          (fields.given "ignored_table_patterns" (.list [])).truthy = true) ∨
        ∃ limit size items, (fields.given "max_record_count" (.int (-1))).toWhole = .ok limit ∧
          (fields.given "page_size" (.int 5000)).toWhole = .ok size ∧
          patternItems (listed (fields.given "ignored_table_patterns" (.list []))) = .ok items ∧
          ¬ size < 1 ∧ ¬ limit < -1 ∧
          Reaches (fun front => ∀ item ∈ front, ∃ pattern, readPattern item = .ok pattern) UnguardedPattern items))

theorem straysIff_ofOwnFields (fields : Fields) : StraysIff (ofOwnFields fields) (UnguardedFields fields) := by
  have checked (limit size : Int) (build : ¬ size < 1 → List NamePattern → Strategy) (items : List Value) :
      StraysIff (if positive : size < 1 then
          throw (.configuration s!"page_size must be at least 1, got {size}")
        else if limit < -1 then
          throw (.configuration s!"max_record_count must be -1 or non-negative, got {limit}")
        else do
          let ignored ← items.mapM readPattern
          pure (build positive ignored))
        (¬ size < 1 ∧ ¬ limit < -1 ∧
          Reaches (fun front => ∀ item ∈ front, ∃ pattern, readPattern item = .ok pattern) UnguardedPattern items) := by
    refine StraysIff.dunless fun _ => StraysIff.unless fun _ =>
      ((straysIff_mapM straysIff_readPattern items).bind fun _ _ => straysIff_ok _).congr ?_
    simp
  unfold ofOwnFields
  refine ((Value.straysIff_toWholeOrFault _).bind fun limit _ => (Value.straysIff_toWholeOrFault _).bind fun size _ =>
    (BuildMode.straysIff_ofValue _).after fun mode _ => (straysIff_patternItems _).bind fun items _ =>
      checked limit size _ items).congr ?_
  unfold UnguardedFields
  simp only [Value.toWholeOrFault_eq_ok_iff]
  constructor
  · rintro (countless | ⟨limit, most, countless | ⟨size, page, built, loose | ⟨items, listed, bounds⟩⟩⟩)
    · exact Or.inl countless
    · exact Or.inr (Or.inl countless)
    · exact Or.inr (Or.inr ⟨built, Or.inl loose⟩)
    · exact Or.inr (Or.inr ⟨built, Or.inr ⟨limit, size, items, most, page, listed, bounds⟩⟩)
  · intro strays
    rcases Value.countless_or (fields.given "max_record_count" (.int (-1))) with countless | ⟨limit, most⟩
    · exact Or.inl countless
    rcases Value.countless_or (fields.given "page_size" (.int 5000)) with countless | ⟨size, page⟩
    · exact Or.inr ⟨limit, most, Or.inl countless⟩
    rcases strays with countless | countless | ⟨built, loose | ⟨limit, size, items, most, page, listed, bounds⟩⟩
    · exact absurd most (countless limit)
    · exact absurd page (countless size)
    · exact Or.inr ⟨limit, most, Or.inr ⟨size, page, built, Or.inl loose⟩⟩
    · exact Or.inr ⟨limit, most, Or.inr ⟨size, page, built, Or.inr ⟨items, listed, bounds⟩⟩⟩

/-- A mapping with known names only whose fields are unguarded. -/
def Unguarded (mapping : Fields) : Prop :=
  Known fieldNames (ownFields aliases mapping) ∧ UnguardedFields (Fields.ofPairs (ownFields aliases mapping))

theorem straysIff_normalized (found mapping : Fields) : StraysIff (normalized found mapping) False := by
  induction mapping generalizing found with
  | nil => exact straysIff_ok found
  | cons field rest ih =>
      rw [normalized]
      split
      · exact ih _
      · exact straysIff_configuration _ _

theorem straysIff_ofMapping (mapping : Fields) : StraysIff (ofMapping mapping) (Unguarded mapping) := by
  rw [ofMapping_eq]
  refine ((straysIff_normalized [] mapping).bind fun fields _ => straysIff_ofOwnFields fields).congr ?_
  unfold Unguarded Known
  constructor
  · rintro (never | ⟨fields, found, strays⟩)
    · exact never.elim
    · obtain ⟨known, rfl⟩ := normalized_eq_ok_iff.mp found
      exact ⟨known, strays⟩
  · rintro ⟨known, strays⟩
    exact Or.inr ⟨_, normalized_eq_ok_iff.mpr ⟨known, rfl⟩, strays⟩

/-- A value in the place of a policy: a mapping that is unguarded, or anything else that is not empty. -/
def UnguardedValue : Value → Prop
  | .record mapping => Unguarded mapping
  | value => value.truthy = true

theorem not_unguarded_nil : ¬ Unguarded [] := by
  rintro ⟨_, strays⟩
  rcases strays with countless | countless | ⟨_, ⟨loose, _⟩ | ⟨_, _, items, _, _, listed, _, _, reaches⟩⟩
  · exact countless (-1) rfl
  · exact countless 5000 rfl
  · cases loose
  · cases listed
    exact not_reaches_nil reaches

theorem straysIff_ofValue (value : Value) : StraysIff (ofValue value) (UnguardedValue value) := by
  unfold ofValue
  split
  · exact straysIff_ofMapping _
  · rename_i other
    have plain : UnguardedValue value ↔ value.truthy = true := by
      cases value with
      | record mapping => exact absurd rfl (other mapping)
      | _ => exact Iff.rfl
    split
    · rename_i truthy
      exact (straysIff_error rfl).congr (by simp [plain, truthy])
    · rename_i falsy
      exact (straysIff_ofMapping []).congr (by simp [plain, falsy, not_unguarded_nil])

end Strategy

end TableFerry
