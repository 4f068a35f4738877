import TableFerry.Config.Strategy
import TableFerry.Proofs.Entries
import TableFerry.Proofs.RowMapping
/-! The fields of a configuration under other spellings of their names. Every alias stands for one name that has no
alias itself, so that what a name means is settled in one step; and as long as no two fields mean the same, neither
the spellings nor the order of the fields decide what is found under a name. -/

namespace TableFerry

namespace Fields

/-- What stands under a name, or a default. -/
def given (fields : Fields) (name : String) (default : Value) : Value := (fields.get? name).getD default

theorem getD_get? (fields : Fields) (name : String) (default : Value) :
    (fields.get? name).getD default = fields.given name default := rfl

theorem put_eq_putEntry (name : String) (value : Value) (fields : Fields) :
    put name value fields = putEntry name value fields := by
  induction fields with
  | nil => rfl
  | cons head tail ih =>
      rw [put, putEntry, ih]

theorem ofPairs_eq_putAll (pairs : List (String × Value)) : ofPairs pairs = putAll pairs [] := by
  unfold ofPairs putAll
  congr
  funext fields pair
  exact put_eq_putEntry pair.1 pair.2 fields

theorem get?_put (name : String) (value : Value) (fields : Fields) (other : String) :
    (put name value fields).get? other = if other = name then some value else fields.get? other := by
  rw [get?, put_eq_putEntry, lookup_putEntry]
  rfl

theorem isSome_get?_iff {fields : Fields} {name : String} : (fields.get? name).isSome ↔ name ∈ fields.names := by
  induction fields with
  | nil => simp [get?, names]
  | cons head tail ih =>
      rw [get?, lookup_head, names, List.map_cons, List.mem_cons, ← names, ← ih]
      split
      · rename_i same
        simp [same]
      · rename_i differs
        rw [or_iff_right differs]
        rfl

end Fields

theorem putAll_fresh {κ α : Type} [DecidableEq κ] {told entries : List (κ × α)}
    (distinct : ((entries ++ told).map (·.1)).Nodup) : putAll told entries = entries ++ told := by
  induction told generalizing entries with
  | nil => exact (List.append_nil entries).symm
  | cons entry rest ih =>
      rw [List.append_cons] at distinct ⊢
      have fresh : entry.1 ∉ entries.map (·.1) := by
        rw [List.map_append, List.map_append, List.append_assoc] at distinct
        exact fun member => (List.nodup_append.mp distinct).2.2 _ member _ List.mem_cons_self rfl
      rw [← ih distinct, putAll, List.foldl_cons, putEntry_fresh _ fresh]
      rfl

/-- Fields with distinct names are kept as they are. -/
theorem Fields.ofPairs_distinct {fields : Fields} (distinct : fields.names.Nodup) : ofPairs fields = fields := by
  rw [ofPairs_eq_putAll]
  exact putAll_fresh distinct

/-! Aliases. -/

/-- A table of aliases in which each alias stands for one name, and no such name is an alias. -/
structure Unambiguous (aliases : List (String × String)) : Prop where
  single : ∀ entry ∈ aliases, aliases.lookup entry.1 = some entry.2
  proper : ∀ entry ∈ aliases, aliases.lookup entry.2 = none

/-- A name is spelled as it is or by one of its aliases. -/
def Spells (aliases : List (String × String)) (spelling name : String) : Prop :=
  spelling = name ∨ (spelling, name) ∈ aliases

/-- Two spellings of one name. -/
def SameName (aliases : List (String × String)) (spelling other : String) : Prop :=
  ∃ name, Spells aliases spelling name ∧ Spells aliases other name

/-- The name behind a spelling. -/
def ownName (aliases : List (String × String)) (spelling : String) : String :=
  (aliases.lookup spelling).getD spelling

/-- A mapping in which the fields have other spellings of their names, in whatever order. -/
def Respells (aliases : List (String × String)) (mapping respelled : Fields) : Prop :=
  ∃ renamed, List.Forall₂ (fun field other => SameName aliases field.1 other.1 ∧ field.2 = other.2) mapping renamed ∧
    renamed.Perm respelled

/-- No two fields of a mapping mean the same. -/
def ToldApart (aliases : List (String × String)) (mapping : Fields) : Prop :=
  mapping.Pairwise fun field other => ¬ SameName aliases field.1 other.1

/-- The fields of a mapping under their own names. -/
def ownFields (aliases : List (String × String)) (mapping : Fields) : Fields :=
  mapping.map fun field => (ownName aliases field.1, field.2)

/-- Fields under distinct names of their own are kept as they are. -/
theorem ofPairs_ownFields {aliases : List (String × String)} {fields : Fields}
    (own : ∀ name ∈ fields.names, aliases.lookup name = none) (distinct : fields.names.Nodup) :
    Fields.ofPairs (ownFields aliases fields) = fields := by
  have kept : ownFields aliases fields = fields.map id := by
    apply List.map_congr_left
    intro field member
    rw [ownName, own field.1 (List.mem_map_of_mem member)]
    rfl
  rw [kept, List.map_id]
  exact Fields.ofPairs_distinct distinct

section

variable {aliases : List (String × String)} (table : Unambiguous aliases) {mapping respelled : Fields}
include table

theorem Unambiguous.ownName_of_spells {spelling name : String} (spells : Spells aliases spelling name)
    (unaliased : aliases.lookup name = none) : ownName aliases spelling = name := by
  rcases spells with rfl | listed
  · rw [ownName, unaliased]
    rfl
  · rw [ownName, table.single _ listed]
    rfl

theorem Unambiguous.sameName_iff {spelling other : String} :
    SameName aliases spelling other ↔ ownName aliases spelling = ownName aliases other := by
  have spells (spelling : String) : Spells aliases spelling (ownName aliases spelling) := by
    unfold ownName
    cases found : aliases.lookup spelling with
    | none => exact Or.inl rfl
    | some name =>
        obtain ⟨before, after, rfl, _⟩ := List.lookup_eq_some_iff.mp found
        exact Or.inr (List.mem_append_right _ List.mem_cons_self)
  constructor
  · rintro ⟨name, one, two⟩
    by_cases unaliased : aliases.lookup name = none
    · rw [table.ownName_of_spells one unaliased, table.ownName_of_spells two unaliased]
    · -- an alias is spelled by itself only
      have itself {spelling : String} (spells : Spells aliases spelling name) : spelling = name :=
        spells.resolve_right fun listed => unaliased (table.proper _ listed)
      rw [itself one, itself two]
  · intro same
    exact ⟨ownName aliases spelling, spells spelling, same ▸ spells other⟩

theorem Unambiguous.perm_ownFields (respells : Respells aliases mapping respelled) :
    (ownFields aliases mapping).Perm (ownFields aliases respelled) := by
  obtain ⟨renamed, follows, perm⟩ := respells
  have same : ownFields aliases mapping = ownFields aliases renamed := by
    clear perm
    induction follows with
    | nil => rfl
    | cons meets _ ih =>
        rw [ownFields, List.map_cons, table.sameName_iff.mp meets.1, meets.2, ← ownFields, ih]
        rfl
  rw [same]
  exact perm.map _

theorem Unambiguous.nodup_ownFields (apart : ToldApart aliases mapping) : (ownFields aliases mapping).names.Nodup := by
  rw [Fields.names, ownFields, List.map_map, List.nodup_iff_pairwise_ne, List.pairwise_map]
  exact apart.imp fun differs same => differs (table.sameName_iff.mpr same)

/-- What is found under a name does not depend on the spellings, nor on the order of the fields. -/
theorem Unambiguous.get?_respelled (respells : Respells aliases mapping respelled)
    (apart : ToldApart aliases respelled) (name : String) :
    (Fields.ofPairs (ownFields aliases mapping)).get? name =
      (Fields.ofPairs (ownFields aliases respelled)).get? name := by
  have perm := table.perm_ownFields respells
  have distinct := table.nodup_ownFields apart
  have also : (ownFields aliases mapping).names.Nodup := (perm.map Prod.fst).nodup_iff.mpr distinct
  rw [Fields.ofPairs_distinct also, Fields.ofPairs_distinct distinct]
  exact lookup_eq_of_perm also perm name

end

end TableFerry
