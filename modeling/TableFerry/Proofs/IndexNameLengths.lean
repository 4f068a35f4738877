import TableFerry.Proofs.IndexNames
/-! How long the names of indexes are. A name is cut if it has no room for the prefix of indexes once more, although
the prefix stands in it already; what is put in place of the rest has two drawn characters, so that the identifier
fits whatever is drawn. -/

namespace TableFerry

namespace Text

theorem isAscii_append {before after : List Char} (front : IsAscii before) (back : IsAscii after) :
    IsAscii (before ++ after) :=
  List.forall_mem_append.mpr ⟨front, back⟩

theorem isAscii_removeBlanks {name : String} (ascii : IsAscii name.toList) : IsAscii (removeBlanks name).toList := by
  intro ch member
  rw [removeBlanks, String.toList_ofList] at member
  exact ascii ch (List.mem_of_mem_filter member)

theorem isAscii_upper {name : String} (ascii : IsAscii name.toList) : IsAscii (upper name).toList := by
  rw [upper, String.toList_ofList]
  exact isAscii_upperChars ascii

theorem isAscii_joinWith {separator : String} (separates : IsAscii separator.toList) {parts : List String}
    (ascii : ∀ part ∈ parts, IsAscii part.toList) : IsAscii (joinWith separator parts).toList := by
  intro ch member
  rcases mem_joinWith member with between | ⟨part, among, present⟩
  · exact separates ch between
  · exact ascii part among ch present

theorem removeBlanks_ne_empty {name : String} {ch : Char} (member : ch ∈ name.toList)
    (unblank : isBlankChar ch = false) : removeBlanks name ≠ "" := by
  intro empty
  have kept : ch ∈ (removeBlanks name).toList := by
    rw [removeBlanks, String.toList_ofList, List.mem_filter, unblank]
    exact ⟨member, rfl⟩
  rw [empty] at kept
  cases kept

theorem length_removeBlanks_le (name : String) : (removeBlanks name).length ≤ name.length := by
  rw [removeBlanks, String.length_ofList, ← String.length_toList]
  exact List.length_filter_le _ _

theorem joinWith_append_parts {separator : String} {front back : List String} (some_front : front ≠ [])
    (some_back : back ≠ []) :
    joinWith separator (front ++ back) = joinWith separator front ++ separator ++ joinWith separator back := by
  induction front with
  | nil => exact absurd rfl some_front
  | cons head tail ih =>
      cases tail with
      | nil => exact joinWith_cons some_back
      | cons next rest =>
          rw [List.cons_append, joinWith_cons (by simp), joinWith_cons (List.cons_ne_nil _ _),
            ih (List.cons_ne_nil _ _)]
          simp only [String.append_assoc]

end Text

namespace CaseRule

variable (rule : CaseRule) {name : String}

/-- Case does not change the length of an ASCII text. -/
theorem length_fold_ascii (ascii : Text.IsAscii name.toList) : (rule.fold name).length = name.length := by
  rw [← String.length_toList, ← String.length_toList]
  cases rule with
  | upper => rw [fold, Text.upper, String.toList_ofList, Text.upperChars_ascii ascii, List.length_map]
  | lower => rw [fold, Text.lower, String.toList_ofList, Text.lowerChars_ascii ascii, List.length_map]
  | remain => rfl

/-- An ASCII name is folded by itself behind a point, whatever stands before that. -/
theorem fold_behind_dot (front : String) (ascii : Text.IsAscii name.toList) :
    ∃ folded, rule.fold (front ++ "." ++ name) = folded ++ "." ++ rule.fold name := by
  have chars : (front ++ "." ++ name).toList = front.toList ++ '.' :: name.toList := by
    simp [String.toList_append]
  cases rule with
  | upper =>
      refine ⟨Text.upper front, String.toList_inj.mp ?_⟩
      simp only [fold, Text.upper, chars, Text.upperChars_dot, String.toList_append, String.toList_ofList,
        List.append_assoc]
      rfl
  | lower =>
      -- without a sigma, what stands before the name does not matter for its lower case
      have absent : Text.capitalSigma ∉ name.toList := fun member => absurd (ascii _ member) (by decide)
      obtain ⟨folded, lowered⟩ := Text.lowerFrom_dot [] front.toList name.toList
      rw [Text.lowerFrom_without_sigma _ absent] at lowered
      refine ⟨String.ofList folded, String.toList_inj.mp ?_⟩
      simp only [fold, Text.lower, chars, Text.lowerChars, lowered, Text.lowerFrom_without_sigma [] absent,
        String.toList_append, String.toList_ofList, List.append_assoc]
      rfl
  | remain => exact ⟨front, rfl⟩

end CaseRule

namespace Compiler

variable (c : Compiler) {name : String}

/-- The parts of a name between their delimiters, with points between them. -/
def delimited (bare : String) : String := Text.joinWith "." ((Text.splitAt '.' bare).map c.delimit)

/-- An identifier is written between delimiters, and behind those of the schema if there is one. -/
def Delimits (written identifier : String) : Prop :=
  match c.schemaText? with
  | none => written = c.delimited identifier
  | some _ => ∃ schema, written = c.delimited schema ++ "." ++ c.delimited identifier

theorem delimits_qualify (ascii : Text.IsAscii name.toList) (named : Text.removeBlanks name ≠ "") :
    c.Delimits (c.qualify name) (c.foldCase (Text.removeBlanks name)) := by
  unfold Delimits qualify
  cases c.schemaText? with
  | none => exact if_neg named
  | some schema =>
      have dot : Text.removeBlanks "." = "." := by decide
      obtain ⟨folded, apart⟩ := c.engine.caseRule.fold_behind_dot (Text.removeBlanks schema)
        (Text.isAscii_removeBlanks ascii)
      have filled : Text.removeBlanks (schema ++ "." ++ name) ≠ "" := by
        rw [Text.removeBlanks_append]
        exact fun empty => named (String.append_eq_empty_iff.mp empty).2
      refine ⟨folded, ?_⟩
      simp only [wrap, if_neg filled]
      rw [Text.removeBlanks_append, Text.removeBlanks_append, dot, foldCase, apart, Text.splitAt_cut rfl,
        List.map_append, Text.joinWith_append_parts]
      · rfl
      · exact fun none => Text.splitAt_ne_nil _ _ (List.map_eq_nil_iff.mp none)
      · exact fun none => Text.splitAt_ne_nil _ _ (List.map_eq_nil_iff.mp none)

/-! Names that are cut. -/

/-- A small letter or a digit. -/
def IsSuffix (ch : Char) : Prop := ('a' ≤ ch ∧ ch ≤ 'z') ∨ ('0' ≤ ch ∧ ch ≤ '9')

instance (ch : Char) : Decidable (IsSuffix ch) := inferInstanceAs (Decidable (_ ∨ _))

theorem isSuffix_suffixChar (pick : Nat) : IsSuffix (suffixChar pick) := by
  have each : ∀ n < 36, IsSuffix (suffixAlphabet.getD n 'a') := by decide
  exact each _ (Nat.mod_lt _ (by decide))

/-- A name that is cut so that an underscore, the characters of two draws from number `drawn` on, and `reserved` more
fit. -/
def cutName (drawn reserved : Nat) (full : String) : String :=
  String.ofList (full.toList.take (c.maxNameLength - (reserved + 3)) ++
    ['_', suffixChar (c.picks drawn), suffixChar (c.picks (drawn + 1))])

theorem run_truncate {reserved : Nat} (room : reserved + 3 ≤ c.maxNameLength) (full label : String) (draft : Draft) :
    ∃ after, (c.truncate full label reserved).run draft = (.ok (c.cutName draft.drawn reserved full), after) := by
  have kept : cut ((c.maxNameLength : Int) - (reserved + 3)) full.toList =
      full.toList.take (c.maxNameLength - (reserved + 3)) := by
    unfold cut
    rw [if_neg (by omega)]
    congr 1
    omega
  rw [cutName, ← kept]
  exact ⟨_, rfl⟩

/-- Names have room for the prefix, an underscore and two more characters. -/
theorem room (c : Compiler) : c.engine.indexPrefix.length + 3 ≤ c.maxNameLength := by
  unfold maxNameLength
  cases c.engine <;> cases c.extended <;> decide

theorem length_cutName (drawn : Nat) {reserved : Nat} {full : String} (room : reserved + 3 ≤ c.maxNameLength)
    (long : c.maxNameLength < full.length + reserved + 3) :
    (c.cutName drawn reserved full).length + reserved = c.maxNameLength := by
  rw [cutName, String.length_ofList, List.length_append, List.length_take, String.length_toList]
  simp only [List.length_cons, List.length_nil]
  omega

theorem mem_cutName {drawn reserved : Nat} {full : String} {ch : Char}
    (member : ch ∈ (c.cutName drawn reserved full).toList) : ch ∈ full.toList ∨ ch = '_' ∨ IsSuffix ch := by
  rw [cutName, String.toList_ofList, List.mem_append] at member
  rcases member with kept | added
  · exact Or.inl (List.mem_of_mem_take kept)
  · simp only [List.mem_cons, List.not_mem_nil, or_false] at added
    rcases added with rfl | rfl | rfl
    · exact Or.inr (Or.inl rfl)
    · exact Or.inr (Or.inr (isSuffix_suffixChar _))
    · exact Or.inr (Or.inr (isSuffix_suffixChar _))

/-- A name behind the prefix of indexes, cut if it is too long with the prefix once more. -/
theorem run_indexName_long (label : String) {owner : String} {columns : List String}
    (long : c.maxNameLength < (c.fullIndexName owner columns).length + c.engine.indexPrefix.length) (draft : Draft) :
    ∃ after, (c.indexName label owner columns).run draft =
      (.ok (c.cutName draft.drawn c.engine.indexPrefix.length (c.fullIndexName owner columns)), after) := by
  have exceeds :
      ((c.fullIndexName owner columns).length : Int) > (c.maxNameLength : Int) - c.engine.indexPrefix.length := by
    omega
  rw [indexName, if_pos exceeds]
  exact c.run_truncate c.room _ _ draft

theorem IsSuffix.isAscii {ch : Char} (suffix : IsSuffix ch) : ch.toNat < 128 := by
  rcases suffix with ⟨_, small⟩ | ⟨_, digit⟩
  · exact Nat.lt_of_le_of_lt (UInt32.le_iff_toNat_le.mp small) (by decide)
  · exact Nat.lt_of_le_of_lt (UInt32.le_iff_toNat_le.mp digit) (by decide)

theorem underscore_mem_indexPrefix (rest : String) : '_' ∈ (c.engine.indexPrefix ++ rest).toList := by
  rw [indexPrefix_eq, String.toList_append, String.toList_append]
  exact List.mem_append_left _ (List.mem_append_right _ List.mem_cons_self)

theorem underscore_mem_fullIndexName (owner : String) (columns : List String) :
    '_' ∈ (c.fullIndexName owner columns).toList := c.underscore_mem_indexPrefix _

theorem underscore_mem_cutName (drawn reserved : Nat) (full : String) :
    '_' ∈ (c.cutName drawn reserved full).toList := by
  rw [cutName, String.toList_ofList]
  exact List.mem_append_right _ List.mem_cons_self

theorem isAscii_fullIndexName {owner : String} {columns : List String}
    (ascii : ∀ name ∈ owner :: columns, Text.IsAscii name.toList) :
    Text.IsAscii (c.fullIndexName owner columns).toList := by
  rw [fullIndexName, String.toList_append]
  apply Text.isAscii_append
  · cases c.engine <;> decide
  · apply Text.isAscii_joinWith (by decide)
    intro part among
    obtain ⟨name, member, rfl⟩ := List.mem_map.mp (List.mem_of_mem_filter among)
    exact Text.isAscii_removeBlanks (ascii name member)

theorem isAscii_cutName (drawn reserved : Nat) {full : String} (ascii : Text.IsAscii full.toList) :
    Text.IsAscii (c.cutName drawn reserved full).toList := by
  intro ch member
  rcases c.mem_cutName member with kept | rfl | suffix
  · exact ascii ch kept
  · decide
  · exact suffix.isAscii

/-- A name that has room for the prefix of indexes once more, and can be written as it is but for its case. -/
structure Fitting (name : String) : Prop where
  room : name.length + c.engine.indexPrefix.length ≤ c.maxNameLength
  ascii : Text.IsAscii name.toList
  named : '_' ∈ name.toList

theorem run_indexName_fitting (label : String) {owner : String} {columns : List String}
    (ascii : ∀ name ∈ owner :: columns, Text.IsAscii name.toList) (draft : Draft) :
    ∃ name after, (c.indexName label owner columns).run draft = (.ok name, after) ∧ c.Fitting name := by
  have full_ascii := c.isAscii_fullIndexName ascii
  have underscore := c.underscore_mem_fullIndexName owner columns
  by_cases fits : (c.fullIndexName owner columns).length + c.engine.indexPrefix.length ≤ c.maxNameLength
  · exact ⟨_, _, c.run_indexName fits draft, fits, full_ascii, underscore⟩
  · have long := Nat.lt_of_not_le fits
    obtain ⟨after, ran⟩ := c.run_indexName_long label long draft
    refine ⟨_, after, ran, ?_, c.isAscii_cutName _ _ full_ascii, c.underscore_mem_cutName _ _ _⟩
    exact Nat.le_of_eq (c.length_cutName _ c.room (by omega))

theorem Fitting.length_fold {name : String} (fitting : c.Fitting name) :
    (c.foldCase (Text.removeBlanks name)).length ≤ c.maxNameLength := by
  have folded : (c.foldCase (Text.removeBlanks name)).length = (Text.removeBlanks name).length :=
    c.engine.caseRule.length_fold_ascii (Text.isAscii_removeBlanks fitting.ascii)
  have shorter := Text.length_removeBlanks_le name
  have room := fitting.room
  omega

theorem Fitting.delimits {name : String} (fitting : c.Fitting name) :
    c.Delimits (c.qualify name) (c.foldCase (Text.removeBlanks name)) :=
  c.delimits_qualify fitting.ascii (Text.removeBlanks_ne_empty fitting.named (by decide))

/-! Indexes in CREATE INDEX. -/

/-- The name of an index without the schema and the delimiters. -/
def indexIdentifier (name : String) : String :=
  match c.engine with
  | .kingbase => name
  | _ => c.foldCase (Text.removeBlanks name)

/-- KingBase takes the identifier of an index bare, elsewhere it is delimited and behind the schema. -/
def WritesIndex (written identifier : String) : Prop :=
  match c.engine with
  | .kingbase => written = identifier
  | _ => c.Delimits written identifier

theorem isAscii_indexParts (table : Table) (index : Index)
    (owner_ascii : Text.IsAscii (index.tableOr table.name).toList)
    (columns_ascii : ∀ name ∈ index.columns, Text.IsAscii name.toList) :
    ∀ name ∈ c.indexOwner table index :: c.indexColumns index, Text.IsAscii name.toList := by
  have ascii : ∀ name ∈ index.tableOr table.name :: index.columns, Text.IsAscii name.toList :=
    List.forall_mem_cons.mpr ⟨owner_ascii, columns_ascii⟩
  unfold indexOwner indexColumns
  split
  · rw [← List.map_cons, List.forall_mem_map]
    exact fun name member => Text.isAscii_upper (ascii name member)
  · exact ascii

theorem Fitting.writesIndex {name : String} (fitting : c.Fitting name) :
    c.WritesIndex (c.writtenIndex name) (c.indexIdentifier name) := by
  unfold WritesIndex writtenIndex indexIdentifier
  cases c.engine
  case kingbase => rfl
  all_goals exact fitting.delimits

theorem Fitting.length_indexIdentifier {name : String} (fitting : c.Fitting name) :
    (c.indexIdentifier name).length ≤ c.maxNameLength := by
  have room := fitting.room
  unfold indexIdentifier
  split
  · omega
  · exact fitting.length_fold

/-- The identifier of an index never has more characters than its dialect admits, whatever is drawn. Its name is the
prefix and the parts that are not blank, if there is room for the prefix once more, and otherwise as much of it as
leaves room for an underscore and two small letters or digits besides. -/
theorem createIndexDdl_fits (c : Compiler) (table : Table) (index : Index)
    (owner_ascii : Text.IsAscii (index.tableOr table.name).toList)
    (columns_ascii : ∀ name ∈ index.columns, Text.IsAscii name.toList) :
    (∀ draft, ∃ statement after, (c.createIndexDdl table index).run draft = (.ok statement, after) ∧
      (statement = none ↔ ∀ name ∈ index.columns, Text.isBlankText name = true) ∧
      ∀ sql ∈ statement, ∃ name,
        ((c.indexName (c.indexOwner table index) (c.indexOwner table index) (c.indexColumns index)).run draft).1 =
          .ok name ∧
        sql = c.indexCreation table index (c.writtenIndex name) ∧
        c.WritesIndex (c.writtenIndex name) (c.indexIdentifier name) ∧
        (c.indexIdentifier name).length ≤ c.maxNameLength) ∧
    (∀ label owner columns draft,
      let full := c.fullIndexName owner columns
      let reserved := c.engine.indexPrefix.length
      (full.length ≤ c.maxNameLength - reserved → (c.indexName label owner columns).run draft = (.ok full, draft)) ∧
      (c.maxNameLength - reserved < full.length → ∃ first second after, IsSuffix first ∧ IsSuffix second ∧
        (c.indexName label owner columns).run draft =
          (.ok (String.ofList (full.toList.take (c.maxNameLength - reserved - 3) ++ ['_', first, second])),
            after))) := by
  refine ⟨?_, ?_⟩
  · intro draft
    obtain ⟨name, after, named, fitting⟩ := c.run_indexName_fitting (c.indexOwner table index)
      (c.isAscii_indexParts table index owner_ascii columns_ascii) draft
    rw [c.run_createIndexDdl_of (c.run_createIndexName_of named), ← List.all_eq_true]
    split
    · rename_i blank
      exact ⟨none, draft, rfl, by simp only [blank], nofun⟩
    · rename_i filled
      refine ⟨_, after, rfl, by simp [filled], ?_⟩
      rintro _ ⟨⟩
      exact ⟨name, by rw [named], rfl, fitting.writesIndex, fitting.length_indexIdentifier⟩
  · intro label owner columns draft full reserved
    have room : reserved + 3 ≤ c.maxNameLength := c.room
    refine ⟨?_, ?_⟩
    · intro fits
      have fits : full.length + reserved ≤ c.maxNameLength := by omega
      exact c.run_indexName fits draft
    · intro long
      have long : c.maxNameLength < full.length + reserved := by omega
      obtain ⟨after, ran⟩ := c.run_indexName_long label long draft
      rw [cutName, ← Nat.sub_sub] at ran
      exact ⟨_, _, after, isSuffix_suffixChar _, isSuffix_suffixChar _, ran⟩

theorem createIndexDdl_fits_manyWords :
    let c : Compiler := { engine := .oracle, config := none }
    let table : Table := { name := "very_long_table_name_with_many_words", columns := [] }
    let index : Index := { name := none, table := none, columns := ["first_col", "second_col"] }
    ∀ draft, ∃ sql after name, (c.createIndexDdl table index).run draft = (.ok (some sql), after) ∧
      c.WritesIndex (c.writtenIndex name) (c.indexIdentifier name) ∧ (c.indexIdentifier name).length ≤ 30 := by
  intro c table index draft
  obtain ⟨statement, after, ran, omitted, fits⟩ := (createIndexDdl_fits c table index (by decide) (by decide)).1 draft
  have filled : statement ≠ none := omitted.not.mpr (by decide)
  obtain ⟨sql, rfl⟩ := Option.ne_none_iff_exists'.mp filled
  obtain ⟨name, _, _, written, short⟩ := fits sql rfl
  exact ⟨sql, after, name, ran, written, short⟩

end Compiler

end TableFerry
