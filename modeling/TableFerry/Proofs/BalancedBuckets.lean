import Mathlib.Data.List.Basic
import TableFerry.Transfer.Partition
/-! Tables dealt to workers. Each table goes to one bucket, the buckets are in turn, and the largest tables come
first: of two buckets the earlier one holds at most one table more, and at most one table's rows more, than the
later one. Sizes and rows are the same law under two weights. -/

namespace TableFerry

/-- What the tables of a list weigh together. -/
def weigh (weight : SizedTable → Int) : List SizedTable → Int
  | [] => 0
  | table :: rest => weight table + weigh weight rest

/-- The number of rows in a bucket. -/
def rowsIn : List SizedTable → Int := weigh SizedTable.count

theorem weigh_one (tables : List SizedTable) : weigh (fun _ => 1) tables = tables.length := by
  induction tables with
  | nil => rfl
  | cons table rest ih =>
      simp only [weigh, List.length_cons, ih]
      omega

/-- The tables of a bucket when the first of `tables` has number `start`. -/
def dealtFrom (buckets bucket start : Nat) (tables : List SizedTable) : List SizedTable :=
  ((tables.zipIdx start).filter fun entry => entry.2 % buckets == bucket).map (·.1)

@[simp] theorem dealtFrom_nil (buckets bucket start : Nat) : dealtFrom buckets bucket start [] = [] := rfl

/-- The first table goes to the bucket whose turn it is, and then it is the turn of the next one. -/
theorem dealtFrom_cons (buckets bucket start : Nat) (table : SizedTable) (rest : List SizedTable) :
    dealtFrom buckets bucket start (table :: rest) =
      if start % buckets = bucket then table :: dealtFrom buckets bucket (start + 1) rest
      else dealtFrom buckets bucket (start + 1) rest := by
  by_cases turn : start % buckets = bucket <;> simp [dealtFrom, List.zipIdx_cons, turn]

theorem dealtFrom_sublist (buckets bucket start : Nat) (tables : List SizedTable) :
    (dealtFrom buckets bucket start tables).Sublist tables := by
  have filtered := (List.filter_sublist (p := fun entry => entry.2 % buckets == bucket)
    (l := tables.zipIdx start)).map (·.1)
  rwa [List.zipIdx_map_fst] at filtered

/-! Nothing gets lost. -/

/-- Of distinct buckets one has the turn, and it gets the table in front of all others. -/
theorem flatMap_turn {turn : Nat} (table : SizedTable) (hands : Nat → List SizedTable) {among : List Nat}
    (distinct : among.Nodup) (present : turn ∈ among) :
    (among.flatMap fun bucket => if turn = bucket then table :: hands bucket else hands bucket).Perm
      (table :: among.flatMap hands) := by
  induction among with
  | nil => cases present
  | cons head tail ih =>
      obtain ⟨absent, rest⟩ := List.nodup_cons.mp distinct
      simp only [List.flatMap_cons]
      by_cases own : turn = head
      · have others : (tail.flatMap fun bucket =>
            if turn = bucket then table :: hands bucket else hands bucket) = tail.flatMap hands := by
          apply List.flatMap_congr
          intro bucket member
          have other : turn ≠ bucket := by
            intro same
            rw [← own, same] at absent
            exact absent member
          rw [if_neg other]
        rw [if_pos own, others]
        rfl
      · have later : turn ∈ tail := (List.mem_cons.mp present).resolve_left own
        rw [if_neg own]
        exact ((ih rest later).append_left (hands head)).trans List.perm_middle

theorem flatMap_dealtFrom_perm {buckets : Nat} (positive : 0 < buckets) (start : Nat)
    (tables : List SizedTable) :
    ((List.range buckets).flatMap fun bucket => dealtFrom buckets bucket start tables).Perm tables := by
  induction tables generalizing start with
  | nil => simp
  | cons table rest ih =>
      have turn : start % buckets ∈ List.range buckets := List.mem_range.mpr (Nat.mod_lt start positive)
      simp only [dealtFrom_cons]
      calc
        List.Perm _ (table :: (List.range buckets).flatMap fun bucket => dealtFrom buckets bucket (start + 1) rest) :=
          flatMap_turn table _ List.nodup_range turn
        List.Perm _ (table :: rest) := (ih (start + 1)).cons table

/-- Every bucket has had its turn when there are at least as many tables as buckets. -/
theorem dealt_ne_nil {buckets bucket : Nat} (below : bucket < buckets) {tables : List SizedTable}
    (enough : buckets ≤ tables.length) : dealt buckets bucket tables ≠ [] := by
  have there : bucket < tables.length := by omega
  have numbered : (tables[bucket], bucket) ∈ tables.zipIdx :=
    List.mem_zipIdx_iff_getElem?.mpr (List.getElem?_eq_getElem there)
  have own : bucket % buckets = bucket := Nat.mod_eq_of_lt below
  apply List.ne_nil_of_mem (a := tables[bucket])
  apply List.mem_map.mpr
  exact ⟨_, List.mem_filter.mpr ⟨numbered, by simp [own]⟩, rfl⟩

/-! Who is ahead. -/

/-- `lead` lies between nothing and one table on the side that `behind` says. -/
def Within (behind : Prop) (most lead : Int) : Prop :=
  (behind → -most ≤ lead ∧ lead ≤ 0) ∧ (¬behind → 0 ≤ lead ∧ lead ≤ most)

/-- How far the earlier of two buckets is ahead with what is still to be dealt. While the later one has to get
a table for one that the earlier one already has, it is behind by at most that much. -/
theorem lead_within {weight : SizedTable → Int} {buckets earlier later : Nat} (order : earlier < later)
    (below : later < buckets) {tables : List SizedTable}
    (sorted : tables.Pairwise fun one other => weight other ≤ weight one)
    (weighs : ∀ table ∈ tables, 0 ≤ weight table) (start : Nat) {most : Int} (nonneg : 0 ≤ most)
    (bounded : ∀ table ∈ tables, weight table ≤ most) :
    Within (earlier < start % buckets ∧ start % buckets ≤ later) most
      (weigh weight (dealtFrom buckets earlier start tables) -
        weigh weight (dealtFrom buckets later start tables)) := by
  induction tables generalizing start most with
  | nil => simp [Within, weigh, nonneg]
  | cons table rest ih =>
      obtain ⟨head_most, rest_sorted⟩ := List.pairwise_cons.mp sorted
      have own := weighs table List.mem_cons_self
      have own_most := bounded table List.mem_cons_self
      have rest_within := ih rest_sorted (fun other member => weighs other (List.mem_cons_of_mem _ member))
        (start + 1) own head_most
      have phase := Nat.mod_lt start (show 0 < buckets by omega)
      -- the turn goes on by one, or from the last bucket back to the first
      have next : (start + 1) % buckets = start % buckets + 1 ∨
          (start % buckets + 1 = buckets ∧ (start + 1) % buckets = 0) := by
        rw [Nat.add_mod]
        by_cases last : start % buckets + 1 = buckets
        · right
          refine ⟨last, ?_⟩
          rcases Nat.lt_or_ge 1 buckets with several | single
          · rw [Nat.mod_eq_of_lt several, last, Nat.mod_self]
          · omega
        · left
          have several : 1 < buckets := by omega
          rw [Nat.mod_eq_of_lt several, Nat.mod_eq_of_lt (by omega)]
      simp only [Within, dealtFrom_cons] at rest_within ⊢
      by_cases earlier_turn : start % buckets = earlier
      · have later_waits : start % buckets ≠ later := by omega
        simp only [if_pos earlier_turn, if_neg later_waits, weigh]
        omega
      · by_cases later_turn : start % buckets = later
        · simp only [if_neg earlier_turn, if_pos later_turn, weigh]
          omega
        · simp only [if_neg earlier_turn, if_neg later_turn]
          omega

/-- Dealt from the start on, the earlier of two buckets is ahead by at most one table. -/
theorem lead_dealt {weight : SizedTable → Int} {buckets earlier later : Nat} (order : earlier < later)
    (below : later < buckets) {tables : List SizedTable}
    (sorted : tables.Pairwise fun one other => weight other ≤ weight one)
    (weighs : ∀ table ∈ tables, 0 ≤ weight table) {most : Int} (nonneg : 0 ≤ most)
    (bounded : ∀ table ∈ tables, weight table ≤ most) :
    0 ≤ weigh weight (dealt buckets earlier tables) - weigh weight (dealt buckets later tables) ∧
      weigh weight (dealt buckets earlier tables) - weigh weight (dealt buckets later tables) ≤ most := by
  have within := lead_within order below sorted weighs 0 nonneg bounded
  exact within.2 (by simp)

/-! The order in a bucket. -/

section Sorted

variable (tables : List SizedTable)

/-- The tables in the order in which they are dealt. -/
def largestFirst : List SizedTable := tables.mergeSort fun one other => other.count ≤ one.count

theorem largestFirst_perm : (largestFirst tables).Perm tables := List.mergeSort_perm _ _

theorem largestFirst_sorted : (largestFirst tables).Pairwise fun one other => other.count ≤ one.count := by
  have sorted : (largestFirst tables).Pairwise fun one other => decide (other.count ≤ one.count) = true :=
    List.pairwise_mergeSort (by simp; omega) (by simp; omega) tables
  exact sorted.imp of_decide_eq_true

/-- Tables of one size stay in the order in which they came. -/
theorem filter_largestFirst (size : Int) :
    (largestFirst tables).filter (·.count = size) = tables.filter (·.count = size) := by
  have level : (tables.filter (·.count = size)).Pairwise fun one other =>
      decide (other.count ≤ one.count) = true := by
    apply List.Pairwise.imp_of_mem _ (List.pairwise_of_forall fun _ _ => trivial)
    intro one other one_member other_member _
    simp only [List.mem_filter, decide_eq_true_eq] at one_member other_member ⊢
    omega
  have kept : (tables.filter (·.count = size)).Sublist (largestFirst tables) :=
    List.sublist_mergeSort (by simp; omega) (by simp; omega) level List.filter_sublist
  have within := kept.filter (·.count = size)
  rw [List.filter_filter] at within
  simp only [Bool.and_self] at within
  exact (within.eq_of_length ((largestFirst_perm tables).filter _).length_eq.symm).symm

variable {tables}

theorem exists_largest (filled : tables ≠ []) :
    ∃ largest ∈ tables, ∀ table ∈ tables, table.count ≤ largest.count := by
  have perm := largestFirst_perm tables
  have sorted := largestFirst_sorted tables
  cases first : largestFirst tables with
  | nil =>
      rw [first] at perm
      exact absurd (List.nil_perm.mp perm) filled
  | cons largest rest =>
      rw [first] at perm sorted
      refine ⟨largest, perm.mem_iff.mp List.mem_cons_self, ?_⟩
      intro table member
      rcases List.mem_cons.mp (perm.mem_iff.mpr member) with rfl | behind
      · exact Int.le_refl _
      · exact (List.pairwise_cons.mp sorted).1 table behind

end Sorted

theorem SizedTable.count_nonneg {table : SizedTable} (known : table.rows.isSome) : 0 ≤ table.count := by
  obtain ⟨rows, is_known⟩ := Option.isSome_iff_exists.mp known
  simp [count, is_known]

theorem partition_eq {tables : List SizedTable} (filled : tables ≠ []) (workers : Int) :
    partition tables workers = (List.range (bucketCount tables.length workers)).map fun bucket =>
      dealt (bucketCount tables.length workers) bucket (largestFirst tables) := by
  rw [partition, if_neg (by simpa using filled)]
  rfl

/-- Every table stands in one bucket, whatever the sizes and the number of workers. -/
theorem partition_flatten_perm (tables : List SizedTable) (workers : Int) :
    (partition tables workers).flatten.Perm tables := by
  by_cases filled : tables = []
  · rw [filled]
    exact .refl []
  · have some_table : 0 < tables.length := List.length_pos_iff.mpr filled
    have positive : 0 < bucketCount tables.length workers := by
      unfold bucketCount
      omega
    rw [partition_eq filled, ← List.flatMap_def]
    exact (flatMap_dealtFrom_perm positive 0 (largestFirst tables)).trans (largestFirst_perm tables)

theorem bucketCount_bounds {tables : Nat} (positive : 0 < tables) (workers : Int) :
    0 < bucketCount tables workers ∧ bucketCount tables workers ≤ tables ∧
      (bucketCount tables workers : Int) = max 1 (min workers tables) := by
  unfold bucketCount
  omega

theorem mem_partition {tables bucket : List SizedTable} {workers : Int} (filled : tables ≠ [])
    (member : bucket ∈ partition tables workers) : ∃ index < bucketCount tables.length workers,
      bucket = dealt (bucketCount tables.length workers) index (largestFirst tables) := by
  rw [partition_eq filled] at member
  obtain ⟨index, below, rfl⟩ := List.mem_map.mp member
  exact ⟨index, List.mem_range.mp below, rfl⟩

/-- A statement about every two buckets, the earlier one first. -/
theorem pairwise_partition {tables : List SizedTable} (filled : tables ≠ []) (workers : Int)
    {relation : List SizedTable → List SizedTable → Prop}
    (related : ∀ earlier later, earlier < later → later < bucketCount tables.length workers →
      relation (dealt (bucketCount tables.length workers) earlier (largestFirst tables))
        (dealt (bucketCount tables.length workers) later (largestFirst tables))) :
    (partition tables workers).Pairwise relation := by
  rw [partition_eq filled, List.pairwise_map]
  apply List.Pairwise.imp_of_mem _ List.pairwise_lt_range
  intro earlier later _ later_member order
  exact related earlier later order (List.mem_range.mp later_member)

/-- Tables of known sizes are dealt to as many buckets as there are workers and tables for. No bucket is empty and
no table is lost; of two buckets the earlier one holds as many tables as the later one or one more; in a bucket
the larger tables come first, and those of one size as they came; and the earlier of two buckets has at least
the rows of the later one, and at most those of the largest table more. -/
theorem partition_balanced (tables : List SizedTable) (workers : Int) (filled : tables ≠ [])
    (known : ∀ table ∈ tables, table.rows.isSome) :
    let buckets := partition tables workers
    (buckets.length : Int) = max 1 (min workers tables.length) ∧
      (∀ bucket ∈ buckets, bucket ≠ []) ∧
      buckets.flatten.Perm tables ∧
      (buckets.Pairwise fun earlier later =>
        later.length ≤ earlier.length ∧ earlier.length ≤ later.length + 1) ∧
      (∀ bucket ∈ buckets, (bucket.Pairwise fun one other => other.count ≤ one.count) ∧
        ∀ size, (bucket.filter (·.count = size)).Sublist (tables.filter (·.count = size))) ∧
      ∃ largest ∈ tables, (∀ table ∈ tables, table.count ≤ largest.count) ∧
        buckets.Pairwise fun earlier later =>
          0 ≤ rowsIn earlier - rowsIn later ∧ rowsIn earlier - rowsIn later ≤ largest.count := by
  intro buckets
  have some_table : 0 < tables.length := List.length_pos_iff.mpr filled
  obtain ⟨positive, enough, number⟩ := bucketCount_bounds some_table workers
  have perm := largestFirst_perm tables
  have sorted := largestFirst_sorted tables
  refine ⟨?number, ?filled, ?perm, ?sizes, ?order, ?rows⟩
  case number => simpa [buckets, partition_eq filled] using number
  case filled =>
    intro bucket member
    obtain ⟨index, below, rfl⟩ := mem_partition filled member
    apply dealt_ne_nil below
    rwa [perm.length_eq]
  case perm =>
    rw [show buckets = _ from partition_eq filled workers, ← List.flatMap_def]
    exact (flatMap_dealtFrom_perm positive 0 (largestFirst tables)).trans perm
  case sizes =>
    apply pairwise_partition filled
    intro earlier later order below
    have level : (largestFirst tables).Pairwise fun _ _ => (1 : Int) ≤ 1 :=
      List.pairwise_of_forall fun _ _ => Int.le_refl 1
    have lead := lead_dealt order below level (fun _ _ => by omega) Int.one_nonneg fun _ _ => Int.le_refl 1
    simp only [weigh_one] at lead
    omega
  case order =>
    intro bucket member
    obtain ⟨index, below, rfl⟩ := mem_partition filled member
    have part : (dealt (bucketCount tables.length workers) index (largestFirst tables)).Sublist
        (largestFirst tables) := dealtFrom_sublist _ index 0 _
    refine ⟨sorted.sublist part, ?_⟩
    intro size
    rw [← filter_largestFirst tables]
    exact part.filter _
  case rows =>
    obtain ⟨largest, present, most⟩ := exists_largest filled
    refine ⟨largest, present, most, ?_⟩
    apply pairwise_partition filled
    intro earlier later order below
    apply lead_dealt order below sorted
    · exact fun table member => SizedTable.count_nonneg (known table (perm.mem_iff.mp member))
    · exact SizedTable.count_nonneg (known largest present)
    · exact fun table member => most table (perm.mem_iff.mp member)

/-- Two tables of one size at either end of the list, and fewer workers than tables. -/
def unsortedTables : List SizedTable :=
  [⟨"orders", some 5⟩, ⟨"items", some 2⟩, ⟨"tags", some 0⟩, ⟨"notes", some 5⟩, ⟨"users", some 3⟩]

theorem partition_balanced_unsorted :
    unsortedTables ≠ [] ∧ (∀ table ∈ unsortedTables, table.rows.isSome) ∧
      (partition unsortedTables 2).length = 2 ∧ (partition unsortedTables 2).flatten.Perm unsortedTables ∧
      (partition unsortedTables 2).Pairwise fun earlier later => rowsIn earlier - rowsIn later ≤ 5 := by
  have filled : unsortedTables ≠ [] := by decide
  have known : ∀ table ∈ unsortedTables, table.rows.isSome := by decide
  obtain ⟨number, _, perm, _, _, largest, present, _, ahead⟩ := partition_balanced unsortedTables 2 filled known
  have most : ∀ table ∈ unsortedTables, table.count ≤ 5 := by decide
  have two : ((partition unsortedTables 2).length : Int) = 2 := number.trans (by decide)
  refine ⟨filled, known, by omega, perm, ahead.imp ?_⟩
  intro earlier later bounds
  exact Int.le_trans bounds.2 (most largest present)

end TableFerry
