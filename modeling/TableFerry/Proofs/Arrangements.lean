import TableFerry.Proofs.CopyExactness
/-! Rows in the order of some columns. An engine puts rows that these columns do not tell apart in any order, and
in another one for every query. Up to a place that does not stand between two such rows, all of these orders hold
the same rows; so pages may each be cut from an order of their own. -/

namespace TableFerry

/-- How an engine orders rows by a column as it is written in a query. It may count different values as equal. -/
structure Collation where
  le : String → Row → Row → Prop
  total : ∀ column one other, le column one other ∨ le column other one
  trans : ∀ {column one other third}, le column one other → le column other third → le column one third

namespace Collation

variable (collation : Collation)

/-- `one` may stand before `other` when rows are ordered by columns, of which the first one counts most. -/
def Before : List String → Row → Row → Prop
  | [], _, _ => True
  | column :: rest, one, other =>
    collation.le column one other ∧ (collation.le column other one → Before rest one other)

/-- Two rows that columns do not tell apart. -/
def Ties (columns : List String) (one other : Row) : Prop :=
  collation.Before columns one other ∧ collation.Before columns other one

/-- The rows in an order that the columns admit. -/
structure Arranges (columns : List String) (rows arrangement : List Row) : Prop where
  perm : arrangement.Perm rows
  sorted : arrangement.Pairwise (collation.Before columns)

/-- Between the first `place` rows and the others, some order of the rows puts a tie apart. -/
def Cuts (columns : List String) (rows : List Row) (place : Nat) : Prop :=
  ∃ front one other back, collation.Arranges columns rows (front ++ one :: other :: back) ∧
    front.length + 1 = place ∧ collation.Ties columns one other

variable {collation} {columns : List String} {rows : List Row}

theorem before_total (columns : List String) (one other : Row) :
    collation.Before columns one other ∨ collation.Before columns other one := by
  induction columns with
  | nil => exact Or.inl trivial
  | cons column rest ih =>
      by_cases forth : collation.le column one other
      · by_cases back : collation.le column other one
        · rcases ih with first | second
          · exact Or.inl ⟨forth, fun _ => first⟩
          · exact Or.inr ⟨back, fun _ => second⟩
        · exact Or.inl ⟨forth, fun reached => absurd reached back⟩
      · have back := (collation.total column one other).resolve_left forth
        exact Or.inr ⟨back, fun reached => absurd reached forth⟩

theorem before_refl (columns : List String) (row : Row) : collation.Before columns row row :=
  (before_total columns row row).elim id id

theorem before_trans {one other third : Row} (first : collation.Before columns one other)
    (second : collation.Before columns other third) : collation.Before columns one third := by
  induction columns with
  | nil => trivial
  | cons column rest ih =>
      refine ⟨collation.trans first.1 second.1, ?_⟩
      intro back
      exact ih (first.2 (collation.trans second.1 back)) (second.2 (collation.trans back first.1))

/-- Rows tie on columns if they are equal on each of them. -/
theorem ties_iff {one other : Row} : collation.Ties columns one other ↔
    ∀ column ∈ columns, collation.le column one other ∧ collation.le column other one := by
  induction columns with
  | nil => simp [Ties, Before]
  | cons column rest ih =>
      simp only [Ties, Before, List.forall_mem_cons, ← ih]
      constructor
      · intro tie
        rcases tie with ⟨⟨forth, then_forth⟩, back, then_back⟩
        exact ⟨⟨forth, back⟩, then_forth back, then_back forth⟩
      · intro tie
        rcases tie with ⟨⟨forth, back⟩, then_forth, then_back⟩
        exact ⟨⟨forth, fun _ => then_forth⟩, back, fun _ => then_back⟩

/-- Rows that the columns tell apart are never put apart as a tie. -/
theorem not_cuts_of_apart (apart : rows.Pairwise fun one other => ¬collation.Ties columns one other)
    (place : Nat) : ¬collation.Cuts columns rows place := by
  intro cut
  rcases cut with ⟨front, one, other, back, arranges, _, tie⟩
  have symm {one other : Row} (free : ¬collation.Ties columns one other) :
      ¬collation.Ties columns other one := fun tied => free ⟨tied.2, tied.1⟩
  have moved := apart.perm arranges.perm.symm fun free => symm free
  have behind := (List.pairwise_append.mp moved).2.1
  exact (List.pairwise_cons.mp behind).1 other List.mem_cons_self tie

/-! Up to a place that puts no tie apart stand exactly the rows that come before the last one of them. -/

/-- In sorted rows, those stand in front whose earlier ones belong to them. -/
theorem take_filter {arrangement : List Row} (sorted : arrangement.Pairwise (collation.Before columns))
    {early : Row → Bool} (closed : ∀ one other, collation.Before columns one other → early other → early one) :
    arrangement.take (arrangement.filter early).length = arrangement.filter early := by
  induction arrangement with
  | nil => rfl
  | cons head tail ih =>
      obtain ⟨head_first, tail_sorted⟩ := List.pairwise_cons.mp sorted
      by_cases head_early : early head = true
      · rw [List.filter_cons_of_pos head_early, List.length_cons, List.take_succ_cons, ih tail_sorted]
      · have none_early : (head :: tail).filter early = [] := by
          rw [List.filter_eq_nil_iff]
          intro row member row_early
          rcases List.mem_cons.mp member with rfl | behind
          · exact head_early row_early
          · exact head_early (closed head row (head_first row behind) row_early)
        rw [none_early]
        rfl

open scoped Classical in
/-- The rows that come before a row or tie with it. -/
noncomputable def upTo (collation : Collation) (columns : List String) (last row : Row) : Bool :=
  decide (collation.Before columns row last)

theorem upTo_closed (last one other : Row) (before : collation.Before columns one other)
    (reached : collation.upTo columns last other) : collation.upTo columns last one := by
  simp only [upTo, decide_eq_true_eq] at reached ⊢
  exact before_trans before reached

theorem filter_upTo {front back : List Row} {one other : Row}
    (sorted : (front ++ one :: other :: back).Pairwise (collation.Before columns))
    (apart : ¬collation.Before columns other one) :
    (front ++ one :: other :: back).filter (collation.upTo columns one) = front ++ [one] := by
  obtain ⟨_, behind, across⟩ := List.pairwise_append.mp sorted
  obtain ⟨_, after⟩ := List.pairwise_cons.mp behind
  have early : ∀ row ∈ front ++ [one], collation.upTo columns one row := by
    intro row member
    simp only [upTo, decide_eq_true_eq]
    rcases List.mem_append.mp member with among | own
    · exact across row among one List.mem_cons_self
    · rw [List.mem_singleton.mp own]
      exact before_refl columns one
  have late : ∀ row ∈ other :: back, ¬collation.upTo columns one row := by
    intro row member
    simp only [upTo, decide_eq_true_eq]
    rcases List.mem_cons.mp member with rfl | among
    · exact apart
    · exact fun before => apart (before_trans ((List.pairwise_cons.mp after).1 row among) before)
  have regrouped : front ++ one :: other :: back = (front ++ [one]) ++ other :: back := by simp
  rw [regrouped, List.filter_append, List.filter_eq_self.mpr early, List.filter_eq_nil_iff.mpr late,
    List.append_nil]

/-- The rows on both sides of a place. -/
theorem exists_around (rows : List Row) {place : Nat} (positive : 0 < place) (inside : place < rows.length) :
    ∃ front one other back, rows = front ++ one :: other :: back ∧ front.length + 1 = place := by
  refine ⟨rows.take (place - 1), rows[place - 1], rows[place], rows.drop (place + 1), ?_, ?_⟩
  · have next : rows.drop (place - 1) = rows[place - 1] :: rows.drop place := by
      rw [List.drop_eq_getElem_cons (by omega), show place - 1 + 1 = place by omega]
    rw [← List.drop_eq_getElem_cons inside, ← next, List.take_append_drop]
  · rw [List.length_take]
    omega

/-- Two arrangements begin with the same rows, up to a place that puts no tie apart. -/
theorem Arranges.take_perm_take {arrangement another : List Row}
    (arranges : collation.Arranges columns rows arrangement) (anew : collation.Arranges columns rows another)
    {place : Nat} (uncut : ¬collation.Cuts columns rows place) :
    (arrangement.take place).Perm (another.take place) := by
  have perm := arranges.perm.trans anew.perm.symm
  rcases Nat.eq_zero_or_pos place with rfl | positive
  · simp
  rcases Nat.lt_or_ge place arrangement.length with inside | beyond
  · obtain ⟨front, one, other, back, rfl, number⟩ := exists_around arrangement positive inside
    have follows : collation.Before columns one other := by
      have behind := (List.pairwise_append.mp arranges.sorted).2.1
      exact (List.pairwise_cons.mp behind).1 other List.mem_cons_self
    have apart : ¬collation.Before columns other one := fun before =>
      uncut ⟨front, one, other, back, arranges, number, follows, before⟩
    have filtered := filter_upTo arranges.sorted apart
    have early_perm := perm.filter (collation.upTo columns one)
    have early_number : (another.filter (collation.upTo columns one)).length = place := by
      rw [← early_perm.length_eq, filtered, List.length_append, List.length_singleton, number]
    calc
      (front ++ one :: other :: back).take place = front ++ [one] := by
        rw [← number, List.take_append, List.take_of_length_le (by omega)]
        simp
      _ = (front ++ one :: other :: back).filter (collation.upTo columns one) := filtered.symm
      List.Perm _ (another.filter (collation.upTo columns one)) := early_perm
      _ = another.take place := by rw [← early_number, take_filter anew.sorted (upTo_closed one)]
  · have whole : another.length ≤ place := by rwa [← perm.length_eq]
    rwa [List.take_of_length_le beyond, List.take_of_length_le whole]

/-- Pages that put no tie apart hold together what one arrangement holds, each being cut from its own. -/
theorem slices_perm {size : Nat} (uncut : ∀ page, ¬collation.Cuts columns rows ((page + 1) * size))
    {arrangement : List Row} (arranges : collation.Arranges columns rows arrangement)
    (arranged : Nat → List Row) (pages : Nat)
    (each : ∀ page < pages, collation.Arranges columns rows (arranged page)) :
    ((List.range pages).flatMap fun page => slice (arranged page) size page).Perm
      (arrangement.take (pages * size)) := by
  induction pages with
  | zero => simp
  | succ pages ih =>
      have front := ih fun page below => each page (by omega)
      have own := each pages (by omega)
      have fits : (arrangement.take (pages * size)).Perm ((arranged pages).take (pages * size)) := by
        cases pages with
        | zero => simp
        | succ before => exact arranges.take_perm_take own (uncut before)
      rw [List.range_succ, List.flatMap_append, List.flatMap_singleton]
      calc
        List.Perm _ ((arranged pages).take (pages * size) ++ slice (arranged pages) size pages) :=
          (front.trans fits).append_right _
        _ = (arranged pages).take ((pages + 1) * size) := by rw [Nat.succ_mul, List.take_add]; rfl
        List.Perm _ (arrangement.take ((pages + 1) * size)) := (own.take_perm_take arranges (uncut pages))

/-! What goes wrong where a tie is put apart. -/

theorem Arranges.swap {front back : List Row} {one other : Row}
    (arranges : collation.Arranges columns rows (front ++ one :: other :: back))
    (tie : collation.Ties columns one other) :
    collation.Arranges columns rows (front ++ other :: one :: back) where
  perm := ((List.Perm.swap one other back).append_left front).trans arranges.perm
  sorted := by
    obtain ⟨front_sorted, behind, across⟩ := List.pairwise_append.mp arranges.sorted
    obtain ⟨after_one, after⟩ := List.pairwise_cons.mp behind
    obtain ⟨after_other, back_sorted⟩ := List.pairwise_cons.mp after
    refine List.pairwise_append.mpr ⟨front_sorted, ?_, ?_⟩
    · refine List.pairwise_cons.mpr ⟨?_, List.pairwise_cons.mpr ⟨?_, back_sorted⟩⟩
      · intro row member
        rcases List.mem_cons.mp member with rfl | among
        · exact tie.2
        · exact after_other row among
      · exact fun row member => after_one row (List.mem_cons_of_mem _ member)
    · intro row among follower member
      apply across row among follower
      simp only [List.mem_cons] at member ⊢
      tauto

end Collation

/-- Pages of which the first `turn` are cut from one list and all others from another. -/
theorem slices_switched (before after : List Row) (size turn : Nat) {pages : Nat} (within : turn ≤ pages)
    (enough : after.length ≤ pages * size) :
    ((List.range pages).flatMap fun page => slice (if page < turn then before else after) size page) =
      before.take (turn * size) ++ after.drop (turn * size) := by
  obtain ⟨more, rfl⟩ := Nat.exists_eq_add_of_le within
  have first : ((List.range turn).flatMap fun page => slice (if page < turn then before else after) size page) =
      before.take (turn * size) := by
    rw [← slices_tile]
    apply List.flatMap_congr
    intro page member
    rw [if_pos (List.mem_range.mp member)]
  have second : (((List.range more).map (turn + ·)).flatMap fun page =>
      slice (if page < turn then before else after) size page) =
        ((List.range more).map (turn + ·)).flatMap (slice after size) := by
    apply List.flatMap_congr
    intro page member
    obtain ⟨offset, _, rfl⟩ := List.mem_map.mp member
    rw [if_neg (by omega)]
  have whole := slices_tile after size (turn + more)
  rw [List.range_add, List.flatMap_append, slices_tile, List.take_of_length_le enough] at whole
  rw [List.range_add, List.flatMap_append, first, second]
  congr 1
  apply List.append_cancel_left
  rw [whole, List.take_append_drop]

end TableFerry
