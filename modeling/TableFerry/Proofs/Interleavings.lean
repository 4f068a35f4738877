import TableFerry.Proofs.Entries
import TableFerry.Proofs.ReportedWork
/-! A report does not depend on how the events of the buckets were mixed. Of a list of events it keeps the last outcome
of every table and the last error of every bucket, and what it keeps of one table or one bucket is decided by the events
of one bucket sequence alone, whose order every mixture keeps. Two mixtures can so only differ in the order of the
entries, and nothing that is exported looks at that order. -/

namespace TableFerry

open Migration (ofBucket)

/-! What events tell a report. -/

/-- The outcome with no regard to its duration. -/
def Outcome.timeless (outcome : Outcome) : Outcome := { outcome with elapsed := .zero false }

namespace Lifecycle

/-- The table that an event is about. -/
def table? : Lifecycle → Option String
  | started _ table _ _ | skipped _ table _ | created _ table _ | pageCopied _ table _ _ _
  | succeeded _ table _ _ _ _ | tolerated _ table _ _ | failed _ table _ _ => some table
  | bucketFinished .. => none

/-- The outcome that an event tells, under the name of the table. -/
def outcome? : Lifecycle → Option (String × Outcome)
  | skipped bucket table reason =>
    some (table, { Report.outcome bucket table .skipped with reason := some reason })
  | succeeded bucket table _ _ rows _ => some (table, { Report.outcome bucket table .succeeded with rows := rows })
  | tolerated bucket table stage error =>
    some (table, { Report.outcome bucket table .tolerated with stage := stage, reason := some error })
  | failed bucket table stage error =>
    some (table, { Report.outcome bucket table .failed with stage := stage, reason := some error })
  | started .. | created .. | pageCopied .. | bucketFinished .. => none

/-- The error of a bucket that an event tells. -/
def bucketError? : Lifecycle → Option (Int × String)
  | bucketFinished bucket false error => some (bucket, error.getD "None")
  | _ => none

theorem outcome?_table {event : Lifecycle} {entry : String × Outcome} (tells : event.outcome? = some entry) :
    event.table? = some entry.1 ∧ entry.2.table = entry.1 := by
  cases event <;> cases tells <;> exact ⟨rfl, rfl⟩

theorem bucketError?_finished {event : Lifecycle} {entry : Int × String} (tells : event.bucketError? = some entry) :
    ∃ error, event = bucketFinished entry.1 false error := by
  match event, tells with
  | bucketFinished bucket false error, rfl => exact ⟨error, rfl⟩

end Lifecycle

namespace Report

/-- The outcomes of the tables with no regard to durations. -/
def timeless (report : Report) : List (String × Outcome) :=
  report.outcomes.map fun entry => (entry.1, entry.2.timeless)

theorem timeless_keep (report : Report) (now : Number.Double) (outcome : Outcome) :
    (report.keep now outcome).timeless = putEntry outcome.table outcome.timeless report.timeless :=
  map_putEntry Outcome.timeless outcome.table _ report.outcomes

theorem timeless_record (report : Report) (now : Number.Double) (event : Lifecycle) :
    (report.record now event).timeless = putAll event.outcome?.toList report.timeless := by
  cases event with
  | started | created | pageCopied => rfl
  | skipped | succeeded | tolerated | failed => exact timeless_keep report now _
  | bucketFinished bucket committed error =>
      rw [record]
      cases committed <;> rfl

theorem bucketErrors_record (report : Report) (now : Number.Double) (event : Lifecycle) :
    (report.record now event).bucketErrors = putAll event.bucketError?.toList report.bucketErrors := by
  cases event with
  | bucketFinished bucket committed error =>
      rw [record]
      cases committed <;> rfl
  | started | created | pageCopied | skipped | succeeded | tolerated | failed => rfl

variable {report final : Report} {events : List Lifecycle}

theorem Hears.timeless_eq (hears : Hears report events final) :
    final.timeless = putAll (events.filterMap Lifecycle.outcome?) report.timeless := by
  induction hears with
  | silent => rfl
  | heard now _ ih =>
      rename_i event _ _
      rw [ih, timeless_record, List.filterMap_cons]
      cases event.outcome? <;> rfl

theorem Hears.bucketErrors_eq (hears : Hears report events final) :
    final.bucketErrors = putAll (events.filterMap Lifecycle.bucketError?) report.bucketErrors := by
  induction hears with
  | silent => rfl
  | heard now _ ih =>
      rename_i event _ _
      rw [ih, bucketErrors_record, List.filterMap_cons]
      cases event.bucketError? <;> rfl

/-! Reports with the same entries, in whatever order. -/

/-- Two reports tell the same but for the durations of tables and the order in which their entries came. -/
structure SameEntries (one two : Report) : Prop where
  outcomes : one.timeless.Perm two.timeless
  bucketErrors : one.bucketErrors.Perm two.bucketErrors

/-- Every table stands once in the report, with its own outcome, and every failed bucket once. -/
structure Orderly (report : Report) : Prop where
  distinct : (report.outcomes.map (·.1)).Nodup
  buckets : (report.bucketErrors.map (·.1)).Nodup
  own : ∀ entry ∈ report.timeless, entry.2.table = entry.1

theorem keys_timeless (report : Report) : report.timeless.map (·.1) = report.outcomes.map (·.1) := by
  rw [timeless, List.map_map]
  rfl

theorem Hears.orderly {start : Number.Double} (hears : Hears (begin start) events final) : final.Orderly := by
  have told : final.timeless = putAll (events.filterMap Lifecycle.outcome?) [] := hears.timeless_eq
  constructor
  · rw [← keys_timeless, told]
    exact nodup_keys_putAll _ List.nodup_nil
  · rw [hears.bucketErrors_eq]
    exact nodup_keys_putAll _ List.nodup_nil
  · intro entry member
    rw [told] at member
    rcases mem_putAll member with among | none_before
    · obtain ⟨event, _, tells⟩ := List.mem_filterMap.mp among
      exact (Lifecycle.outcome?_table tells).2
    · cases none_before

theorem filter_timeless (report : Report) (status : Status) :
    (report.outcomes.filter (·.2.status == status)).map (·.1) =
      (report.timeless.filter (·.2.status == status)).map (·.1) := by
  rw [timeless, List.filter_map, List.map_map]
  rfl

theorem countOf_eq (report : Report) (status : Status) :
    report.countOf status = (report.timeless.filter (·.2.status == status)).length := by
  rw [countOf, ← List.length_map (f := (·.1)), filter_timeless, List.length_map]

theorem rowsCopied_eq (report : Report) :
    report.rowsCopied = report.timeless.foldl (fun total entry => total + entry.2.rows) 0 := by
  rw [rowsCopied, timeless, List.foldl_map]
  rfl

theorem lines_eq (report : Report) :
    report.sortedOutcomes.map outcomeLine =
      ((report.timeless.map (·.2)).mergeSort fun a b => a.table ≤ b.table).map outcomeLine := by
  have sorted : report.sortedOutcomes.map Outcome.timeless =
      (report.timeless.map (·.2)).mergeSort fun a b => a.table ≤ b.table := by
    rw [sortedOutcomes, List.map_mergeSort (s := fun a b => a.table ≤ b.table), timeless, List.map_map, List.map_map]
    · rfl
    · intro a _ b _
      rfl
  rw [← sorted, List.map_map]
  rfl

end Report

/-- Sorting forgets the order from before where the key tells the members apart. -/
theorem mergeSort_eq_of_perm {α : Type} (key : α → String) {values other : List α} (perm : values.Perm other)
    (distinct : ∀ a ∈ values, ∀ b ∈ values, key a = key b → a = b) :
    values.mergeSort (fun a b => key a ≤ key b) = other.mergeSort (fun a b => key a ≤ key b) := by
  have ordered (list : List α) : (list.mergeSort fun a b => key a ≤ key b).Pairwise fun a b => key a ≤ key b := by
    apply (List.pairwise_mergeSort _ _ _).imp
    · intro a b below
      exact of_decide_eq_true below
    · intro a b c below above
      exact decide_eq_true (String.le_trans (of_decide_eq_true below) (of_decide_eq_true above))
    · intro a b
      simpa using String.le_total (key a) (key b)
  have sorted : (values.mergeSort fun a b => key a ≤ key b).Perm (other.mergeSort fun a b => key a ≤ key b) :=
    (List.mergeSort_perm _ _).trans (perm.trans (List.mergeSort_perm _ _).symm)
  apply sorted.eq_of_pairwise _ (ordered values) (ordered other)
  intro a b left right below above
  have among := (List.mergeSort_perm values _).mem_iff.mp left
  have beside := perm.mem_iff.mpr ((List.mergeSort_perm other _).mem_iff.mp right)
  exact distinct a among b beside (String.le_antisymm below above)

namespace Report

variable {one two : Report}

theorem Orderly.tables (orderly : one.Orderly) : (one.timeless.map (·.2)).map (·.table) = one.outcomes.map (·.1) := by
  rw [List.map_map, ← keys_timeless]
  exact List.map_congr_left fun entry member => orderly.own entry member

theorem SameEntries.tablesWith_eq (same : SameEntries one two) (status : Status) :
    one.tablesWith status = two.tablesWith status := by
  rw [tablesWith, tablesWith, filter_timeless, filter_timeless]
  exact mergeSort_eq_of_perm id ((same.outcomes.filter _).map _) fun _ _ _ _ meets => meets

theorem SameEntries.countOf_eq (same : SameEntries one two) (status : Status) :
    one.countOf status = two.countOf status := by
  rw [Report.countOf_eq, Report.countOf_eq]
  exact (same.outcomes.filter _).length_eq

theorem SameEntries.rowsCopied_eq (same : SameEntries one two) : one.rowsCopied = two.rowsCopied := by
  rw [Report.rowsCopied_eq, Report.rowsCopied_eq]
  exact same.outcomes.foldl_eq' (fun _ _ _ _ total => by omega) 0

theorem SameEntries.ok_eq (same : SameEntries one two) : one.ok = two.ok := by
  rw [ok, ok, same.tablesWith_eq, same.bucketErrors.isEmpty_eq]

theorem SameEntries.exportText_eq (same : SameEntries one two) (orderly : one.Orderly) :
    one.exportText = two.exportText := by
  have lines : one.sortedOutcomes.map outcomeLine = two.sortedOutcomes.map outcomeLine := by
    rw [lines_eq, lines_eq]
    congr 1
    apply mergeSort_eq_of_perm Outcome.table (same.outcomes.map _)
    intro a first b second meets
    exact List.inj_on_of_nodup_map (orderly.tables ▸ orderly.distinct) first second meets
  rw [exportText, exportText, lines, same.countOf_eq, same.countOf_eq, same.countOf_eq, same.countOf_eq,
    same.rowsCopied_eq]

/-- Every table of a report ended in one of the four ways. -/
theorem length_outcomes (report : Report) :
    report.outcomes.length = report.countOf .succeeded + report.countOf .skipped + report.countOf .tolerated +
      report.countOf .failed := by
  unfold countOf
  induction report.outcomes with
  | nil => rfl
  | cons entry rest ih =>
      cases status : entry.2.status <;> simp [status, ih] <;> omega

end Report

/-! Mixtures of the events of some buckets. -/

/-- A mixture has all events of every bucket, in the order of the bucket. -/
def Interleaves (family : Nat → List Lifecycle) (mixed : List (Nat × Lifecycle)) : Prop :=
  ∀ index, ofBucket index mixed = family index

/-- The buckets have no table in common, and no bucket is announced as finished from two of them, as it cannot be
where each is announced once at most. -/
structure Separate (family : Nat → List Lifecycle) : Prop where
  tables : ∀ {index other first second name}, first ∈ family index → second ∈ family other →
    first.table? = some name → second.table? = some name → index = other
  finishes : ∀ {index other bucket committed committed' error error'},
    .bucketFinished bucket committed error ∈ family index →
    .bucketFinished bucket committed' error' ∈ family other → index = other

section Mixtures

variable {β : Type} {family : Nat → List Lifecycle} {mixed other : List (Nat × Lifecycle)}
  {tell : Lifecycle → Option β}

theorem filterMap_of_owner {index : Nat} (owner : ∀ entry ∈ mixed, (tell entry.2).isSome → entry.1 = index) :
    (mixed.map (·.2)).filterMap tell = (ofBucket index mixed).filterMap tell := by
  rw [ofBucket, List.filterMap_map, List.filterMap_filterMap]
  apply List.filterMap_congr
  intro entry member
  by_cases own : entry.1 = index
  · simp [own]
  · have silent : tell entry.2 = none :=
      Option.not_isSome_iff_eq_none.mp fun told => own (owner entry member told)
    simp [own, silent]

/-- What only one bucket tells of comes in the same order in every mixture. -/
theorem filterMap_interleaved (first : Interleaves family mixed) (second : Interleaves family other)
    (alone : ∀ index index', ∀ event ∈ family index, ∀ event' ∈ family index',
      (tell event).isSome → (tell event').isSome → index = index') :
    (mixed.map (·.2)).filterMap tell = (other.map (·.2)).filterMap tell := by
  have told {mixture : List (Nat × Lifecycle)} (interleaves : Interleaves family mixture) {entry : Nat × Lifecycle}
      (member : entry ∈ mixture) : entry.2 ∈ family entry.1 :=
    interleaves entry.1 ▸ Migration.mem_ofBucket.mpr member
  -- Either one bucket tells all that is told, and its order is that of both mixtures, or nothing is told at all.
  by_cases somewhere : ∃ index, ∃ event ∈ family index, (tell event).isSome
  · obtain ⟨index, event, member, tells⟩ := somewhere
    have alike {mixture : List (Nat × Lifecycle)} (interleaves : Interleaves family mixture) :
        (mixture.map (·.2)).filterMap tell = (family index).filterMap tell := by
      rw [← interleaves index]
      apply filterMap_of_owner
      intro entry among tellsToo
      exact alone _ _ _ (told interleaves among) _ member tellsToo tells
    rw [alike first, alike second]
  · have silent {mixture : List (Nat × Lifecycle)} (interleaves : Interleaves family mixture) :
        (mixture.map (·.2)).filterMap tell = [] := by
      rw [List.filterMap_map, List.filterMap_eq_nil_iff]
      intro entry among
      exact Option.not_isSome_iff_eq_none.mp fun tells =>
        somewhere ⟨entry.1, entry.2, told interleaves among, tells⟩
    rw [silent first, silent second]

end Mixtures

namespace Report

variable {family : Nat → List Lifecycle} {mixed other : List (Nat × Lifecycle)} {start start' : Number.Double}
  {one two : Report}

theorem sameEntries_of_interleaved (separate : Separate family) (first : Interleaves family mixed)
    (second : Interleaves family other) (hears : Hears (begin start) (mixed.map (·.2)) one)
    (hearsToo : Hears (begin start') (other.map (·.2)) two) : SameEntries one two := by
  constructor
  · rw [hears.timeless_eq, hearsToo.timeless_eq]
    apply perm_putAll
    intro name
    rw [List.filter_filterMap, List.filter_filterMap]
    apply filterMap_interleaved first second
    have named {event : Lifecycle} (tells : (event.outcome?.filter (·.1 = name)).isSome) :
        event.table? = some name := by
      obtain ⟨entry, told⟩ := Option.isSome_iff_exists.mp tells
      obtain ⟨outcome, own⟩ := Option.filter_eq_some_iff.mp told
      rw [(Lifecycle.outcome?_table outcome).1, of_decide_eq_true own]
    intro index index' event member event' member' tells tells'
    exact separate.tables member member' (named tells) (named tells')
  · rw [hears.bucketErrors_eq, hearsToo.bucketErrors_eq]
    apply perm_putAll
    intro bucket
    rw [List.filter_filterMap, List.filter_filterMap]
    apply filterMap_interleaved first second
    have finished {event : Lifecycle} (tells : (event.bucketError?.filter (·.1 = bucket)).isSome) :
        ∃ error, event = .bucketFinished bucket false error := by
      obtain ⟨entry, told⟩ := Option.isSome_iff_exists.mp tells
      obtain ⟨error, own⟩ := Option.filter_eq_some_iff.mp told
      exact of_decide_eq_true own ▸ Lifecycle.bucketError?_finished error
    intro index index' event member event' member' tells tells'
    obtain ⟨error, rfl⟩ := finished tells
    obtain ⟨error', rfl⟩ := finished tells'
    exact separate.finishes member member'

/-- What two reports tell alike: all but the times. -/
structure Agree (one two : Report) : Prop where
  outcomes : ∀ table,
    (one.outcomes.lookup table).map Outcome.timeless = (two.outcomes.lookup table).map Outcome.timeless
  bucketErrors : ∀ bucket, one.bucketErrors.lookup bucket = two.bucketErrors.lookup bucket
  tables : ∀ status, one.tablesWith status = two.tablesWith status
  rowsCopied : one.rowsCopied = two.rowsCopied
  ok : one.ok = two.ok
  text : ∀ now now', one.exportAs now "text" = two.exportAs now' "text"

/-- The tables of a report add up to those of the four statuses. -/
def Tallied (report : Report) : Prop :=
  report.outcomes.length =
    report.countOf .succeeded + report.countOf .skipped + report.countOf .tolerated + report.countOf .failed

theorem SameEntries.agree (same : SameEntries one two) (orderly : one.Orderly) : Agree one two where
  outcomes table := by
    rw [← lookup_map, ← lookup_map]
    exact lookup_eq_of_perm (keys_timeless one ▸ orderly.distinct) same.outcomes table
  bucketErrors := lookup_eq_of_perm orderly.buckets same.bucketErrors
  tables := same.tablesWith_eq
  rowsCopied := same.rowsCopied_eq
  ok := same.ok_eq
  text _ _ := same.exportText_eq orderly

/-- Where the buckets share no table and each finishes once, every mixture that keeps the order of each bucket leaves
the same report, whenever its events were heard, and no table of it goes uncounted. -/
theorem interleaved_agree (separate : Separate family) (first : Interleaves family mixed)
    (second : Interleaves family other) (hears : Hears (begin start) (mixed.map (·.2)) one)
    (hearsToo : Hears (begin start') (other.map (·.2)) two) : Agree one two ∧ Tallied one ∧ Tallied two :=
  ⟨(sameEntries_of_interleaved separate first second hears hearsToo).agree hears.orderly,
    length_outcomes one, length_outcomes two⟩

/-- Two buckets, of which the second fails after a table of its own was announced twice. -/
def twoBuckets : Nat → List Lifecycle
  | 0 => [.started 0 "orders" 1 1, .succeeded 0 "orders" 1 1 3 (.int 0), .bucketFinished 0 true none]
  | 1 => [.skipped 1 "lines" "by name", .failed 1 "lines" .copyData "refused", .bucketFinished 1 false (some "lost")]
  | _ => []

theorem twoBuckets_home {index : Nat} {event : Lifecycle} (member : event ∈ twoBuckets index) :
    (∀ name, event.table? = some name → (name = "orders" ↔ index = 0)) ∧ index < 2 ∧
      ∀ bucket committed error, event = .bucketFinished bucket committed error → bucket = index := by
  match index with
  | 0 | 1 =>
      simp only [twoBuckets, List.mem_cons, List.not_mem_nil, or_false] at member
      rcases member with rfl | rfl | rfl <;> simp [Lifecycle.table?]
  | _ + 2 => cases member

theorem twoBuckets_separate : Separate twoBuckets := by
  constructor
  · intro index other first second name member member' named named'
    have one := twoBuckets_home member
    have two := twoBuckets_home member'
    have same := (one.1 name named).symm.trans (two.1 name named')
    omega
  · intro index other bucket committed committed' error error' member member'
    have one := (twoBuckets_home member).2.2 _ _ _ rfl
    have two := (twoBuckets_home member').2.2 _ _ _ rfl
    omega

/-- The events of the two buckets, one bucket after the other. -/
def oneAfterOther : List (Nat × Lifecycle) := (twoBuckets 0).map (0, ·) ++ (twoBuckets 1).map (1, ·)

/-- The events of the two buckets in turns. -/
def inTurns : List (Nat × Lifecycle) :=
  ((twoBuckets 1).zip (twoBuckets 0)).flatMap fun pair => [(1, pair.1), (0, pair.2)]

theorem hears_at (now : Number.Double) (report : Report) (events : List Lifecycle) :
    Hears report events (events.foldl (·.record now ·) report) := by
  induction events generalizing report with
  | nil => exact .silent report
  | cons event rest ih => exact .heard now (ih (report.record now event))

theorem interleaved_agree_twoBuckets :
    ∃ one two, Hears (begin (.zero false)) (oneAfterOther.map (·.2)) one ∧
      Hears (begin (.zero true)) (inTurns.map (·.2)) two ∧ Agree one two ∧ Tallied one ∧ Tallied two := by
  have hears := hears_at (.zero false) (begin (.zero false)) (oneAfterOther.map (·.2))
  have hearsToo := hears_at (.zero true) (begin (.zero true)) (inTurns.map (·.2))
  have first : Interleaves twoBuckets oneAfterOther
    | 0 | 1 | _ + 2 => rfl
  have second : Interleaves twoBuckets inTurns
    | 0 | 1 | _ + 2 => rfl
  exact ⟨_, _, hears, hearsToo, interleaved_agree twoBuckets_separate first second hears hearsToo⟩

end Report

end TableFerry
