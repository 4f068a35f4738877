import TableFerry.Database.Session
import TableFerry.Transfer.Mapping
/-! How rows go through the field mapping into the parameters of an insertion. The columns of an insertion are
those of its first row; rows with the same names keep all of their values. -/

namespace TableFerry.Fields

theorem names_put (name : String) (value : Value) (fields : Fields) :
    (put name value fields).names =
      if name ∈ fields.names then fields.names else fields.names ++ [name] := by
  induction fields with
  | nil => rfl
  | cons head tail ih =>
      rcases head with ⟨key, old⟩
      rw [put]
      by_cases same : key = name
      · simp [same, names]
      · have other : ¬name = key := fun equal => same equal.symm
        rw [if_neg same]
        simp only [names, List.map_cons, List.mem_cons, other, false_or]
        rw [← names, ← names, ih]
        split <;> rfl

theorem nodup_put {fields : Fields} (name : String) (value : Value) (distinct : fields.names.Nodup) :
    (put name value fields).names.Nodup := by
  rw [names_put]
  split
  · exact distinct
  · rename_i absent
    rw [List.nodup_append]
    refine ⟨distinct, List.nodup_cons.mpr ⟨List.not_mem_nil, List.nodup_nil⟩, ?_⟩
    intro present member other single
    rw [List.mem_singleton.mp single]
    intro same
    rcases same with rfl
    exact absent member

theorem put_new {fields : Fields} {name : String} (value : Value) (fresh : name ∉ fields.names) :
    put name value fields = fields ++ [(name, value)] := by
  induction fields with
  | nil => rfl
  | cons head tail ih =>
      have other := List.ne_of_not_mem_cons fresh
      rw [put, if_neg (Ne.symm other), ih (List.not_mem_of_not_mem_cons fresh)]
      rfl

theorem get?_head (name : String) (value : Value) (fields : Fields) :
    get? ((name, value) :: fields) name = some value := by
  simp [get?]

theorem get?_tail {name key : String} (other : key ≠ name) (value : Value) (fields : Fields) :
    get? ((name, value) :: fields) key = get? fields key := by
  rw [get?, List.lookup_cons, beq_eq_false_iff_ne.mpr other]
  rfl

/-- Fields with distinct names, looked up by their own names in order, give their values. -/
theorem values_by_names (fields : Fields) (distinct : fields.names.Nodup) :
    fields.names.map (fun name => (fields.get? name).getD .null) = fields.map (·.2) := by
  induction fields with
  | nil => rfl
  | cons head tail ih =>
      rcases head with ⟨name, value⟩
      obtain ⟨absent, rest⟩ := List.nodup_cons.mp distinct
      simp only [names, List.map_cons, get?_head, Option.getD_some]
      congr 1
      rw [← ih rest]
      apply List.map_congr_left
      intro key member
      rw [get?_tail]
      intro same
      rcases same with rfl
      exact absent member

end TableFerry.Fields

namespace TableFerry.Mapping

/-- One step of `mapRow`. -/
def mapField (mapping : FieldMapping) (mapped : Row) (field : String × Value) : Row :=
  match mapping.lookup (Text.lower field.1) with
  | some name => Fields.put name field.2 mapped
  | none => mapped

theorem mapRow_eq (mapping : FieldMapping) (row : Row) :
    mapRow mapping row = row.foldl (mapField mapping) [] := rfl

theorem nodup_mapRow (mapping : FieldMapping) (row : Row) : (mapRow mapping row).names.Nodup := by
  rw [mapRow_eq]
  have every : ∀ mapped : Row, mapped.names.Nodup → (row.foldl (mapField mapping) mapped).names.Nodup := by
    induction row with
    | nil => exact fun _ distinct => distinct
    | cons head tail ih =>
        intro mapped distinct
        apply ih
        unfold mapField
        split
        · exact Fields.nodup_put _ _ distinct
        · exact distinct
  exact every [] List.nodup_nil

/-- Values whose target columns are written differently do not meet. -/
theorem mapRow_eq_filterMap {mapping : FieldMapping} {row : Row}
    (apart : (row.names.filterMap fun name => mapping.lookup (Text.lower name)).Nodup) :
    mapRow mapping row =
      row.filterMap fun field => (mapping.lookup (Text.lower field.1)).map fun name => (name, field.2) := by
  have every : ∀ mapped : Row,
      (∀ name ∈ row.names.filterMap fun name => mapping.lookup (Text.lower name), name ∉ mapped.names) →
      row.foldl (mapField mapping) mapped = mapped ++
        row.filterMap fun field => (mapping.lookup (Text.lower field.1)).map fun name => (name, field.2) := by
    induction row with
    | nil => exact fun mapped _ => (List.append_nil mapped).symm
    | cons head tail ih =>
        intro mapped fresh
        rw [Fields.names, List.map_cons, List.filterMap_cons] at apart fresh
        rw [List.foldl_cons, List.filterMap_cons, mapField]
        cases found : mapping.lookup (Text.lower head.1) with
        | none =>
            rw [found] at apart fresh
            exact ih apart mapped fresh
        | some name =>
            rw [found] at apart fresh
            obtain ⟨head_fresh, tail_fresh⟩ := List.forall_mem_cons.mp fresh
            obtain ⟨absent, rest⟩ := List.nodup_cons.mp apart
            simp only [Option.map_some]
            rw [Fields.put_new head.2 head_fresh, ih rest, List.append_assoc]
            · rfl
            · intro other member
              rw [Fields.names, List.map_append, List.mem_append, not_or]
              refine ⟨tail_fresh other member, ?_⟩
              intro single
              rw [List.mem_singleton.mp single] at member
              exact absent member
  exact every [] fun _ _ => List.not_mem_nil

theorem names_mapField (mapping : FieldMapping) {one other : Row} (named : one.names = other.names)
    (key : String) (first second : Value) :
    (mapField mapping one (key, first)).names = (mapField mapping other (key, second)).names := by
  unfold mapField
  cases mapping.lookup (Text.lower key) with
  | none => exact named
  | some name =>
      change (Fields.put name first one).names = (Fields.put name second other).names
      rw [Fields.names_put, Fields.names_put, named]

/-- Rows with the same names are mapped to rows with the same names. -/
theorem names_mapRow (mapping : FieldMapping) (one other : Row) (same : one.names = other.names) :
    (mapRow mapping one).names = (mapRow mapping other).names := by
  rw [mapRow_eq, mapRow_eq]
  have every : ∀ first second : Row, first.names = second.names →
      (one.foldl (mapField mapping) first).names = (other.foldl (mapField mapping) second).names := by
    induction one generalizing other with
    | nil =>
        intro first second named
        rw [List.map_eq_nil_iff.mp same.symm]
        exact named
    | cons head tail ih =>
        intro first second named
        cases other with
        | nil => cases same
        | cons twin rest =>
            rcases head with ⟨key, value⟩
            rcases twin with ⟨key', value'⟩
            obtain ⟨rfl, tails⟩ := List.cons.inj same
            exact ih rest tails _ _ (names_mapField mapping named key value value')
  exact every [] [] rfl

end TableFerry.Mapping

namespace TableFerry.Database

theorem values_bindRow (columns : List String) (row : Row) :
    (bindRow columns row).map (·.2) = columns.map fun column => (row.get? column).getD .null := by
  calc
    (bindRow columns row).map (·.2)
        = (columns.zipIdx.map (·.1)).map fun column => (row.get? column).getD .null := by
      simp only [bindRow, List.map_map, Function.comp_def]
    _ = columns.map fun column => (row.get? column).getD .null := by rw [List.zipIdx_map_fst]

/-- The columns of an insertion. -/
def columnsOf : List Row → List String
  | [] => []
  | first :: _ => first.names

/-- The request that inserts rows. -/
def insertion (table : String) (rows : List Row) : Request :=
  .insert (insertText table (columnsOf rows)) (rows.map (bindRow (columnsOf rows)))

/-- Every row of an insertion brings all of its values, if the rows have the same names. -/
theorem values_kept {rows : List Row} (distinct : ∀ row ∈ rows, row.names.Nodup)
    (same : ∀ one ∈ rows, ∀ other ∈ rows, one.names = other.names) (row : Row) (member : row ∈ rows) :
    (bindRow (columnsOf rows) row).map (·.2) = row.map (·.2) := by
  have columns : columnsOf rows = row.names := by
    cases rows with
    | nil => cases member
    | cons first rest => exact same first List.mem_cons_self row member
  rw [values_bindRow, columns]
  exact row.values_by_names (distinct row member)

end TableFerry.Database
