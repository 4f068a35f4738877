import TableFerry.Proofs.Interleavings
import TableFerry.Proofs.TableTurns
/-! No table that a worker takes goes without an outcome unless it ends the bucket. A turn adds to the report outcomes
of its own table alone, and a turn that comes to an end leaves one there; so behind a bucket whose tables all had their
turns the report has an outcome of each. -/

namespace TableFerry

namespace Report

variable {report before middle after : Report} {now : Number.Double} {event : Lifecycle} {names : String → Prop}

/-- The tables that have an outcome. -/
def tables (report : Report) : List String := report.outcomes.map (·.1)

theorem tables_record :
    (report.record now event).tables = (putAll event.outcome?.toList report.timeless).map (·.1) := by
  rw [tables, ← keys_timeless, timeless_record]

theorem mem_tables_record {name : String} :
    name ∈ (report.record now event).tables ↔
      (∃ outcome, event.outcome? = some (name, outcome)) ∨ name ∈ report.tables := by
  rw [tables_record, tables, ← keys_timeless]
  cases told : event.outcome? with
  | none => simp [putAll]
  | some entry =>
      change name ∈ (putEntry entry.1 entry.2 report.timeless).map (·.1) ↔ _
      rw [mem_keys_putEntry]
      apply or_congr_left
      constructor
      · rintro rfl
        exact ⟨entry.2, rfl⟩
      · rintro ⟨outcome, same⟩
        cases same
        rfl

/-- The table has an outcome that is no failure. -/
def Passes (report : Report) (name : String) : Prop :=
  ∃ outcome, (name, outcome) ∈ report.outcomes ∧ outcome.status ≠ .failed

theorem ok_iff (report : Report) :
    report.ok = true ↔ report.bucketErrors = [] ∧ ∀ entry ∈ report.outcomes, entry.2.status ≠ .failed := by
  have none_failed : (report.tablesWith .failed).isEmpty = true ↔
      ∀ entry ∈ report.outcomes, entry.2.status ≠ .failed := by
    rw [List.isEmpty_iff, tablesWith, sortNames, ← List.length_eq_zero_iff, List.length_mergeSort, List.length_map,
      List.length_eq_zero_iff, List.filter_eq_nil_iff]
    simp only [beq_iff_eq]
  rw [ok, Bool.and_eq_true, List.isEmpty_iff, none_failed]

theorem passes_of_ok {name : String} (well : report.ok = true) (stands : name ∈ report.tables) :
    report.Passes name := by
  obtain ⟨entry, kept, rfl⟩ := List.mem_map.mp stands
  exact ⟨entry.2, kept, ((ok_iff report).mp well).2 entry kept⟩

theorem ok_begin (now : Number.Double) : (begin now).ok = true :=
  (ok_iff _).mpr ⟨rfl, fun _ member => absurd member List.not_mem_nil⟩

/-- Skipping a table spoils no report. -/
theorem ok_skipped (bucket : Int) (name reason : String) (well : report.ok = true) :
    (report.record now (.skipped bucket name reason)).ok = true := by
  obtain ⟨no_errors, standing⟩ := (ok_iff report).mp well
  refine (ok_iff _).mpr ⟨no_errors, fun entry member => ?_⟩
  rcases mem_putEntry member with rfl | old
  · exact nofun
  · exact standing entry old

/-- From one report to a later one nothing but outcomes of some tables was added. -/
structure Grows (names : String → Prop) (before after : Report) : Prop where
  keeps : ∀ name ∈ before.tables, name ∈ after.tables
  adds : ∀ name ∈ after.tables, name ∈ before.tables ∨ names name
  distinct : before.tables.Nodup → after.tables.Nodup
  errors : after.bucketErrors = before.bucketErrors

theorem Grows.refl (report : Report) : Grows names report report :=
  ⟨fun _ => id, fun _ => Or.inl, id, rfl⟩

theorem Grows.trans (earlier : Grows names before middle) (later : Grows names middle after) :
    Grows names before after where
  keeps name stands := later.keeps name (earlier.keeps name stands)
  adds name stands := (later.adds name stands).elim (earlier.adds name) Or.inr
  distinct apart := later.distinct (earlier.distinct apart)
  errors := later.errors.trans earlier.errors

theorem Grows.imp {more : String → Prop} (grows : Grows names before after) (implies : ∀ name, names name → more name) :
    Grows more before after :=
  ⟨grows.keeps, fun name stands => (grows.adds name stands).imp_right (implies name), grows.distinct, grows.errors⟩

theorem grows_record (report : Report) (now : Number.Double) (concerned : event.Concerns names) :
    Grows names report (report.record now event) where
  keeps name stands := mem_tables_record.mpr (Or.inr stands)
  adds name stands := by
    rcases mem_tables_record.mp stands with ⟨outcome, told⟩ | stood
    · right
      cases event <;> cases told <;> exact concerned
    · exact Or.inl stood
  distinct apart := by
    rw [tables_record]
    exact nodup_keys_putAll _ (keys_timeless report ▸ apart)
  errors := by
    rw [bucketErrors_record]
    cases event with
    | bucketFinished => exact concerned.elim
    | started | skipped | created | pageCopied | succeeded | tolerated | failed => rfl

end Report

namespace Job

variable {σ : Type} {names : String → Prop} {event : Lifecycle}

theorem Keeps.any {α : Type} {job : Job σ α} {allowed : Event → Prop} {good : α → Prop}
    (kept : job.Keeps allowed good) :
    job.Keeps (fun _ => True) fun _ => True :=
  fun world => (kept world).imp fun _ _ _ _ => ⟨fun _ _ => trivial, fun _ _ => trivial⟩

/-- The report of a job grows by outcomes of some tables alone. -/
def Grows (names : String → Prop) (_ : Bool) (world : World σ) (_ : List Event) (final : World σ) : Prop :=
  Report.Grows names world.report final.report

theorem blind_grows (names : String → Prop) : Blind (σ := σ) (fun _ => True) (Grows names) where
  quiet := fun world _ _ => .refl world.report
  breaks := id
  trans := Report.Grows.trans
  mends := id
  changes := fun world _ => .refl world.report
  sends := fun world _ _ _ => .refl world.report

theorem follows_announce_grows (listeners : List Listener) (concerned : event.Concerns names) :
    (announce listeners event : Job σ Unit).Follows (Grows names) := by
  have growing (times : List Number.Double) (report : Report) :
      Report.Grows names report (times.foldl (fun report now => report.record now event) report) := by
    induction times generalizing report with
    | nil => exact .refl report
    | cons now rest ih => exact (Report.grows_record report now concerned).trans (ih _)
  intro world
  apply (ensures_announce_report listeners event world).imp
  intro result events final outcome
  rcases outcome with ⟨_, times, _, report⟩
  rw [Grows, report]
  exact growing times world.report

/-- Where there is a reporter, the report has an outcome of the table behind its announcement. -/
theorem ensures_announce_told {listeners : List Listener} (reports : .reporter ∈ listeners) {name : String}
    {outcome : Outcome} (tells : event.outcome? = some (name, outcome)) (world : World σ) :
    (announce listeners event).Ensures world fun result _ final => result = .ok () ∧ name ∈ final.report.tables := by
  apply ((ensures_announce_report listeners event world).and (ensures_announce listeners event world)).imp
  intro result events final given
  rcases given with ⟨⟨_, times, count, report⟩, rfl, _⟩
  refine ⟨rfl, ?_⟩
  rw [report]
  have some_time : times ≠ [] := by
    intro none_heard
    rw [none_heard] at count
    exact absurd reports (List.count_eq_zero.mp count.symm)
  obtain ⟨earlier, last, rfl⟩ := List.eq_nil_or_concat times |>.resolve_left some_time
  rw [List.concat_eq_append, List.foldl_append, List.foldl_cons, List.foldl_nil]
  exact Report.mem_tables_record.mpr (Or.inl ⟨outcome, tells⟩)

end Job

namespace Worker

variable {σ : Type} {w : Worker σ} {condition : Option String}

/-- A job that comes to a value leaves an outcome of the table in the report. -/
def Tells {α : Type} (name : String) (ends : α → Prop) (job : Job σ α) : Prop :=
  ∀ world, job.Ensures world fun result _ final => ∀ value, result = .ok value → ends value → name ∈ final.report.tables

theorem tells_of_announced {α : Type} {ends : α → Prop} (reports : .reporter ∈ w.listeners) {event : Lifecycle}
    {name : String} {outcome : Outcome} (told : event.outcome? = some (name, outcome)) (value : α) :
    Tells name ends (do
      w.announce event
      pure value : Job σ α) := by
  intro world
  apply Job.ensures_bind
  apply (Job.ensures_announce_told reports told world).imp
  intro result events final outcome
  rcases outcome with ⟨rfl, stands⟩
  exact (Job.ensures_pure value).mpr fun _ _ _ => stands

theorem tells_step {α β : Type} {name : String} {ends : β → Prop} {job : Job σ α} {next : α → Job σ β}
    (grows : job.Keeps (fun _ => True) fun _ => True) (tells : ∀ value, Tells name ends (next value)) :
    Tells name ends (job >>= next) := by
  intro world
  apply (grows world).bind
  · intro value events middle _
    exact tells value middle
  · intro fault events middle _ value given
    cases given

/-- Only a table that was announced as skipped comes to no number of rows. -/
theorem tells_moveContents (reports : .reporter ∈ w.listeners) (table : SizedTable) :
    Tells table.name (· = none) (w.moveContents table condition) := by
  have allows := w.allows_quiet condition
  rw [moveContents_eq]
  apply tells_step (w.keeps_inspect table.name).any
  intro found
  cases found with
  | missing =>
      apply tells_step (Job.keeps_note _ _)
      intro _
      exact tells_of_announced reports rfl none
  | present =>
      apply tells_step (Job.keeps_note _ _)
      intro _
      exact tells_of_announced reports rfl none
  | «open» source existing =>
      -- From here on the job fails or comes to a number of rows.
      have counted (rows : Nat) : Tells table.name (· = none) (pure (some rows) : Job σ (Option Nat)) :=
        fun world => (Job.ensures_pure _).mpr (by rintro _ ⟨⟩ ⟨⟩)
      apply tells_step (Job.keeps_enter _)
      intro _
      apply tells_step (allows.keeps_rebuild source existing (fun _ _ _ _ => rfl) fun _ _ _ _ _ => rfl).any
      intro target
      split
      · exact counted 0
      · apply tells_step (Job.keeps_enter _)
        intro _
        apply tells_step (allows.keeps_copyRows table source target fun _ _ => rfl).any
        intro rows
        apply tells_step (Job.keeps_enter _)
        intro _
        exact counted rows

theorem tells_inSavepoint {α : Type} {name : String} {ends : α → Prop} {job : Job σ α} (tells : Tells name ends job) :
    Tells name ends (w.inSavepoint job) := by
  unfold inSavepoint
  split
  · intro world
    apply Database.ensures_bracket
    apply (tells _).imp
    intro result events final told
    cases result with
    | ok value => exact told
    | error fault => exact told
  · exact tells

theorem tells_endFailed (reports : .reporter ∈ w.listeners) (name : String) (fault : Fault) :
    Tells name (fun _ => True) (w.endFailed name fault) := by
  have raised : Tells name (fun _ => True) (throw fault : Job σ Bool) :=
    fun _ => (Job.ensures_throw fault).mpr nofun
  unfold endFailed
  cases fault.kind.isHandled with
  | false => exact raised
  | true =>
      apply tells_step Job.keeps_get
      intro world
      apply tells_step (Job.keeps_noteAll _)
      intro _
      split
      · exact tells_of_announced reports rfl true
      · cases w.strategy.continueOnError.truthy with
        | true => exact tells_of_announced reports rfl false
        | false =>
            intro world
            apply Job.ensures_bind
            apply (Job.ensures_announce_told reports rfl world).imp
            intro result events final outcome
            rcases outcome with ⟨rfl, _⟩
            exact raised final

theorem tells_moveTable (reports : .reporter ∈ w.listeners) (table : SizedTable) (position total : Int) :
    Tells table.name (fun _ => True) (w.moveTable table position total condition) := by
  apply tells_step (Job.keeps_enter _)
  intro _
  apply tells_step (Job.keeps_announce _ trivial)
  intro _
  split
  · exact tells_of_announced reports rfl true
  · apply tells_step Job.keeps_clock
    intro started world
    apply Job.ensures_bind
    rw [Job.ensures_attempt]
    apply (tells_inSavepoint (w := w) (tells_moveContents reports table) world).imp
    intro moved events middle told
    rcases moved with fault | _ | rows
    · exact tells_endFailed reports table.name fault middle
    · exact (Job.ensures_pure true).mpr fun _ _ _ => told none rfl rfl
    · refine tells_step Job.keeps_clock (fun now => ?_) middle
      exact tells_of_announced reports rfl true

theorem Stint.Ran.grows {total : Int} {stint : Stint σ} (ran : stint.Ran w total condition) {names : String → Prop}
    (named : names stint.table.name) : Report.Grows names stint.start.report stint.final.report :=
  ran.met (follows_moveTable (Job.blind_grows names) (fun _ => Job.follows_announce_grows w.listeners)
    (fun _ _ => trivial) condition stint.table stint.position total named stint.start)

/-- A bucket whose tables all had their turns has outcomes of all of them. -/
theorem Stints.recorded (reports : .reporter ∈ w.listeners) {total position : Int} {world final : World σ}
    {tables : List SizedTable} {result : Except Fault Nat} {stints : List (Stint σ)}
    (went : w.Stints total condition position world tables result stints final) (ended : result.isOk = true) :
    Report.Grows (fun name => ∃ table ∈ tables, table.name = name) world.report final.report ∧
      ∀ table ∈ tables, table.name ∈ final.report.tables := by
  induction went with
  | done => exact ⟨.refl _, nofun⟩
  | raised => cases ended
  | @next stint passed rest result _ final ran given later ih =>
      have ended_later : result.isOk = true := by
        cases result with
        | ok => rfl
        | error => cases ended
      obtain ⟨grows, recorded⟩ := ih ended_later
      have own : stint.table.name ∈ stint.final.report.tables :=
        ran.met (tells_moveTable reports stint.table stint.position total stint.start) passed given trivial
      refine ⟨?_, ?_⟩
      · apply (ran.grows ⟨stint.table, List.mem_cons_self, rfl⟩).trans
        apply grows.imp
        rintro name ⟨table, among, rfl⟩
        exact ⟨table, List.mem_cons_of_mem _ among, rfl⟩
      · intro table member
        rcases List.mem_cons.mp member with rfl | behind
        · exact grows.keeps _ own
        · exact recorded table behind

end Worker

end TableFerry
