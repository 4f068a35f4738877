import TableFerry.Proofs.ExitStatus
import TableFerry.Proofs.StrayFaults
/-! Which configurations are refused as such. From the bytes of a file to its settings there are three places where a
fault strays: the text, the shape of what it holds, and the readings of datasources and of the policy. Unless one of
them does, the program has its settings in the order of the file or ends with the message of the fault. -/

namespace TableFerry

namespace Settings

/-- An entry that is no mapping, or an unguarded one, or a datasource whose identifier holds others. -/
def UnguardedEntry (entry : Value) : Prop :=
  (∀ mapping, entry = .record mapping → Datasource.Unguarded mapping) ∨
    ∃ source, Datasource.ofValue entry = .ok source ∧ isCollection source.id = true

/-- A list with an unguarded entry behind others that can be added. -/
def UnguardedEntries (entries : List Value) : Prop :=
  Reaches (fun front => ∃ told, addAll [] front = .ok told) UnguardedEntry entries

theorem addAll_cons (found : List (Value × Datasource)) (entry : Value) (rest : List Value) :
    addAll found (entry :: rest) = (do
      let source ← Datasource.ofValue entry
      if isCollection source.id then .error (noIdentifier source.id)
      else if (find? found source.id).isSome then
        .error (.configuration ("Duplicate datasource id: " ++ source.id.shown))
      else addAll (found ++ [(source.id, source)]) rest) := rfl

theorem addAll_cons_eq_ok_iff {found told : List (Value × Datasource)} {entry : Value} {rest : List Value} :
    addAll found (entry :: rest) = .ok told ↔
      ∃ source, (Datasource.ofValue entry = .ok source ∧ isCollection source.id = false ∧
        (find? found source.id).isSome = false) ∧ addAll (found ++ [(source.id, source)]) rest = .ok told := by
  rw [addAll_cons, bind_eq_ok_iff]
  refine exists_congr fun source => ?_
  cases isCollection source.id <;> cases (find? found source.id).isSome <;> simp

theorem straysIff_ofValue_entry (entry : Value) : StraysIff (Datasource.ofValue entry)
    (∀ mapping, entry = .record mapping → Datasource.Unguarded mapping) := by
  unfold Datasource.ofValue
  split
  · rename_i mapping
    exact (Datasource.straysIff_ofMapping mapping).congr (by simp)
  · rename_i other
    exact (straysIff_error rfl).congr (iff_of_true trivial fun mapping same => absurd same (other mapping))

theorem straysIff_addAll (found : List (Value × Datasource)) (entries : List Value) :
    StraysIff (addAll found entries)
      (Reaches (fun front => ∃ told, addAll found front = .ok told) UnguardedEntry entries) := by
  induction entries generalizing found with
  | nil => exact (straysIff_ok found).congr (iff_of_false not_false not_reaches_nil)
  | cons entry rest ih =>
      have added (source : Datasource) : StraysIff (if isCollection source.id then .error (noIdentifier source.id)
          else if (find? found source.id).isSome then
            .error (.configuration ("Duplicate datasource id: " ++ source.id.shown))
          else addAll (found ++ [(source.id, source)]) rest)
          (isCollection source.id = true ∨ (isCollection source.id = false ∧ (find? found source.id).isSome = false ∧
            Reaches (fun front => ∃ told, addAll (found ++ [(source.id, source)]) front = .ok told) UnguardedEntry
              rest)) := by
        split
        · rename_i collection
          exact (straysIff_error rfl).congr (by simp [collection])
        · rename_i single
          exact (StraysIff.unless fun _ => ih _).congr (by simp [single])
      rw [addAll_cons, reaches_cons]
      refine ((straysIff_ofValue_entry entry).bind fun source _ => added source).congr ?_
      have front (rest : List Value) : (∃ told, addAll found (entry :: rest) = .ok told) ↔
          ∃ source, (Datasource.ofValue entry = .ok source ∧ isCollection source.id = false ∧
            (find? found source.id).isSome = false) ∧
            ∃ told, addAll (found ++ [(source.id, source)]) rest = .ok told := by
        simp only [addAll_cons_eq_ok_iff]
        rw [exists_comm]
        simp only [exists_and_left]
      simp only [front]
      rw [← exists_reaches]
      simp only [and_or_left, exists_or, ← or_assoc, and_assoc]
      have none_in_front : ∃ told, addAll found [] = .ok told := ⟨found, rfl⟩
      exact or_congr_left (and_iff_right none_in_front).symm

theorem straysIff_entries (value : Value) : StraysIff (entries value) (value.isIterable = false) := by
  cases value with
  | null => exact (straysIff_error rfl).congr (by simp [Value.isIterable])
  | bool b => exact (straysIff_error rfl).congr (by simp [Value.isIterable])
  | int n => exact (straysIff_error rfl).congr (by simp [Value.isIterable])
  | real d => exact (straysIff_error rfl).congr (by simp [Value.isIterable])
  | text s => exact (straysIff_ok _).congr (by simp [Value.isIterable])
  | list items => exact (straysIff_ok _).congr (by simp [Value.isIterable])
  | tuple items => exact (straysIff_ok _).congr (by simp [Value.isIterable])
  | record fields => exact (straysIff_ok _).congr (by simp [Value.isIterable])

/-- What stands for the datasources: a list, or what an object has for them. -/
def listedIn? : Value → Option Value
  | .list items => some (.list items)
  | .record fields => some (Fields.given fields "datasources" (.list []))
  | _ => none

/-- What stands for the policy. -/
def policyIn : Value → Value
  | .record fields => Fields.given fields "strategy" .null
  | _ => .null

/-- A configuration whose datasources come in no list, or in one with an unguarded entry, or whose policy is unguarded
while all its datasources can be added. -/
def UnguardedContent (content : Value) : Prop :=
  ∃ listed, listedIn? content = some listed ∧
    (listed.isIterable = false ∨ ∃ items, entries listed = .ok items ∧
      (UnguardedEntries items ∨
        ((∃ told, addAll [] items = .ok told) ∧ Strategy.UnguardedValue (policyIn content))))

theorem ofValue_eq (environment : Placeholder.Environment) (raw : Value) :
    ofValue environment raw =
      match listedIn? (Placeholder.resolve environment raw) with
      | some listed => do
        let items ← entries listed
        let told ← addAll [] items
        let strategy ← Strategy.ofValue (policyIn (Placeholder.resolve environment raw))
        pure ⟨told, strategy⟩
      | none => .error (.configuration "Configuration must be a JSON object or a list of datasources") := by
  unfold ofValue
  cases Placeholder.resolve environment raw <;> rfl

theorem straysIff_ofValue (environment : Placeholder.Environment) (raw : Value) :
    StraysIff (ofValue environment raw) (UnguardedContent (Placeholder.resolve environment raw)) := by
  rw [ofValue_eq]
  unfold UnguardedContent
  cases listedIn? (Placeholder.resolve environment raw) with
  | none => exact (straysIff_configuration _ _).congr (by simp)
  | some listed =>
      refine ((straysIff_entries listed).bind fun items _ => (straysIff_addAll [] items).bind fun told _ =>
        (Strategy.straysIff_ofValue _).bind fun strategy _ => straysIff_ok _).congr ?_
      simp [UnguardedEntries]

/-- The file that is read, by its plain path. -/
def filePath? (environment : Placeholder.Environment) (path : Option String) : Option String :=
  ((path.filter (· ≠ "")).orElse fun _ => (environment.lookup environmentName).filter (· ≠ "")).map plainPath

/-- The value that bytes hold as JSON. -/
def contentOf? (bytes : List Nat) : Option Value :=
  (Text.decodeUtf8? bytes).bind fun chars => (Json.read (unifyLines chars)).toOption

/-- A file that is no text or holds an unguarded configuration. -/
def UnguardedFile (environment : Placeholder.Environment) (bytes : List Nat) : Prop :=
  Text.decodeUtf8? bytes = none ∨
    ∃ raw, contentOf? bytes = some raw ∧ UnguardedContent (Placeholder.resolve environment raw)

theorem straysIff_load (files : String → Option (List Nat)) (environment : Placeholder.Environment)
    (path : Option String) : StraysIff (load files environment path)
      (∃ bytes, (filePath? environment path).bind files = some bytes ∧ UnguardedFile environment bytes) := by
  unfold load filePath?
  dsimp only
  split
  · rename_i absent
    rw [absent]
    exact (straysIff_configuration _ _).congr (by simp)
  · rename_i name given
    rw [given, Option.map_some, Option.bind_some]
    cases files (plainPath name) with
    | none => exact (straysIff_configuration _ _).congr (by simp)
    | some bytes =>
        simp only [Option.some.injEq, exists_eq_left']
        unfold UnguardedFile contentOf?
        cases Text.decodeUtf8? bytes with
        | none => exact (straysIff_error rfl).congr (by simp)
        | some chars =>
            dsimp only [Option.bind_some]
            cases Json.read (unifyLines chars) with
            | error fault => exact (straysIff_configuration _ _).congr (by simp [Except.toOption])
            | ok raw =>
                refine ((straysIff_ofValue environment raw).bind fun settings _ => straysIff_ok _).congr ?_
                simp [Except.toOption]

/-! Settings that were read. -/

/-- The entries of the list of datasources in a file. -/
def entriesOf? (environment : Placeholder.Environment) (bytes : List Nat) : Option (List Value) :=
  (contentOf? bytes).bind fun raw =>
    (listedIn? (Placeholder.resolve environment raw)).bind fun listed => (entries listed).toOption

/-- The datasources of the settings are those of the entries, in their order, and no two have the same identifier. -/
structure Follows (settings : Settings) (items : List Value) : Prop where
  inOrder : List.Forall₂ (fun item told => Datasource.ofValue item = .ok told.2 ∧ told.1 = told.2.id) items
    settings.datasources
  distinct : settings.datasources.Pairwise fun one other => sameId one.1 other.1 = false

theorem addAll_appends {found told : List (Value × Datasource)} {items : List Value}
    (added : addAll found items = .ok told) : ∃ behind, told = found ++ behind ∧
      List.Forall₂ (fun item told => Datasource.ofValue item = .ok told.2 ∧ told.1 = told.2.id) items behind := by
  induction items generalizing found with
  | nil =>
      cases added
      exact ⟨[], (List.append_nil _).symm, .nil⟩
  | cons item rest ih =>
      obtain ⟨source, ⟨read, _, _⟩, further⟩ := addAll_cons_eq_ok_iff.mp added
      obtain ⟨behind, rfl, follows⟩ := ih further
      exact ⟨(source.id, source) :: behind, List.append_assoc _ _ _, .cons ⟨read, rfl⟩ follows⟩

theorem addAll_distinct {found told : List (Value × Datasource)} {items : List Value}
    (added : addAll found items = .ok told) (distinct : found.Pairwise fun one other => sameId one.1 other.1 = false) :
    told.Pairwise fun one other => sameId one.1 other.1 = false := by
  induction items generalizing found with
  | nil =>
      cases added
      exact distinct
  | cons item rest ih =>
      obtain ⟨source, ⟨_, _, fresh⟩, further⟩ := addAll_cons_eq_ok_iff.mp added
      refine ih further (List.pairwise_append.mpr ⟨distinct, List.pairwise_singleton _ _, ?_⟩)
      intro one member other last
      rw [List.mem_singleton.mp last]
      simp only [find?, Option.isSome_map, List.find?_isSome, Bool.eq_false_iff, ne_eq] at fresh
      simpa using fun same => fresh ⟨one, member, same⟩

theorem ofValue_follows {environment : Placeholder.Environment} {raw : Value} {settings : Settings}
    (read : ofValue environment raw = .ok settings) : ∃ listed items,
      listedIn? (Placeholder.resolve environment raw) = some listed ∧ entries listed = .ok items ∧
        settings.Follows items := by
  rw [ofValue_eq] at read
  cases given : listedIn? (Placeholder.resolve environment raw) with
  | none =>
      rw [given] at read
      cases read
  | some listed =>
      rw [given] at read
      obtain ⟨items, told_items, read⟩ := bind_eq_ok_iff.mp read
      obtain ⟨told, added, read⟩ := bind_eq_ok_iff.mp read
      obtain ⟨strategy, _, made⟩ := bind_eq_ok_iff.mp read
      cases made
      obtain ⟨behind, rfl, follows⟩ := addAll_appends added
      exact ⟨listed, items, rfl, told_items, follows, addAll_distinct added List.Pairwise.nil⟩

theorem load_follows {files : String → Option (List Nat)} {environment : Placeholder.Environment}
    {path : Option String} {settings : Settings} {line : LogLine}
    (loaded : load files environment path = .ok (settings, line)) : ∃ bytes items,
      (filePath? environment path).bind files = some bytes ∧ entriesOf? environment bytes = some items ∧
        settings.Follows items := by
  unfold load at loaded
  dsimp only at loaded
  split at loaded
  · cases loaded
  · rename_i name given
    split at loaded
    · cases loaded
    · rename_i bytes found
      split at loaded
      · cases loaded
      · rename_i chars decoded
        split at loaded
        · cases loaded
        · rename_i raw parsed
          obtain ⟨_, read, made⟩ := bind_eq_ok_iff.mp loaded
          cases made
          obtain ⟨listed, items, in_file, told_items, follows⟩ := ofValue_follows read
          refine ⟨bytes, items, ?_, ?_, follows⟩
          · rw [filePath?, given]
            exact found
          · simp [entriesOf?, contentOf?, decoded, parsed, in_file, told_items, Except.toOption]

end Settings

namespace Command

variable {σ : Type} {around : Surroundings σ} {options : Options}

/-- Without settings nothing is done. -/
theorem run_migrate_unread {fault : Fault}
    (refused : Settings.load around.files around.environment options.config = .error fault) (world : World σ) :
    (migrate around options).run world = (.error fault, world) := by
  unfold migrate
  rw [refused]
  rfl

theorem run_attempt_unread {fault : Fault}
    (refused : Settings.load around.files around.environment options.config = .error fault) (world : World σ) :
    (migrate around options).attempt.run world = (.ok (.error fault), world) := by
  have attempted : (migrate around options).attempt.run world =
      (.ok ((migrate around options).run world).1, ((migrate around options).run world).2) := rfl
  rw [attempted, run_migrate_unread refused]

theorem run_execute_refused {fault : Fault} (configuration : fault.kind.isConfiguration = true)
    (refused : Settings.load around.files around.environment options.config = .error fault) (world : World σ) :
    ((execute around options).run world).1 = .ok ⟨1, []⟩ ∧
      ((execute around options).run world).2.draft.log =
        world.draft.log ++ [⟨.error, "Fatal error: " ++ fault.text⟩] := by
  unfold execute
  rw [Job.run_bind, run_attempt_unread refused]
  dsimp only
  cases kind : fault.kind with
  | configuration details => exact ⟨rfl, rfl⟩
  | _ =>
      rw [kind] at configuration
      cases configuration

theorem run_execute_escaped {fault : Fault} (unhandled : fault.kind.isHandled = false)
    (refused : Settings.load around.files around.environment options.config = .error fault) (world : World σ) :
    (execute around options).run world = (.error fault, world) := by
  unfold execute
  rw [Job.run_bind, run_attempt_unread refused]
  dsimp only
  split
  · rename_i kind
    rw [kind] at unhandled
    cases unhandled
  · rw [if_neg (by simp [unhandled])]
    rfl

/-- A file whose one datasource asks for a number of buffered rows in words. -/
def rowsInWords : String :=
  "[\x7b\"id\": \"a\", \"url\": \"sqlite:///a.db\", \"user\": \"u\", \"password\": \"p\", " ++
    "\"db_type\": \"sqlite\", \"buffer_rows\": \"many\"\x7d]"

def asksInWords : Surroundings Unit where
  files := fun _ => some (rowsInWords.toList.map (·.toNat))
  environment := []
  connect := fun written => pure (Database.still written "sqlite" (fun _ => none) fun _ => [])
  picks := fun _ => 0

theorem load_asksInWords : ∃ fault, Settings.load asksInWords.files [] (some "c.json") = .error fault ∧
    fault.kind.isConfiguration = false := by
  have strays : (match Settings.load asksInWords.files [] (some "c.json") with
      | .ok _ => true
      | .error fault => fault.kind.isConfiguration) = false := by
    decide +kernel
  cases loaded : Settings.load asksInWords.files [] (some "c.json") with
  | ok read =>
      rw [loaded] at strays
      cases strays
  | error fault =>
      rw [loaded] at strays
      exact ⟨fault, rfl, strays⟩

end Command

end TableFerry
