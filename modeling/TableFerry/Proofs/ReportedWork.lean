import TableFerry.Proofs.BucketCommits
import TableFerry.Proofs.Entries
import TableFerry.Proofs.InsertedRows
/-! What the report of a run tells. It hears what the buckets announce and keeps the last outcome of every table, so
that all it lists goes back to an announcement. A table is announced as succeeded while its bucket is still under way;
what becomes of the bucket stands beside the outcomes, and only a report without failed buckets is one of committed
work alone. -/

namespace TableFerry

/-! Hearing events. -/

namespace Report

/-- A report hears events one after the other, each at some time. -/
inductive Hears : Report → List Lifecycle → Report → Prop
  | silent (report : Report) : Hears report [] report
  | heard {report final : Report} {event : Lifecycle} {events : List Lifecycle} (now : Number.Double)
      (rest : Hears (report.record now event) events final) : Hears report (event :: events) final

theorem Hears.append {report middle final : Report} {events more : List Lifecycle}
    (first : Hears report events middle) (second : Hears middle more final) : Hears report (events ++ more) final := by
  induction first with
  | silent => exact second
  | heard now _ ih => exact .heard now (ih second)

/-- Where an outcome of a table comes from. Only succeeding counts rows. -/
def Stems (name : String) (outcome : Outcome) (event : Lifecycle) : Prop :=
  if outcome.status = .succeeded then
    ∃ position total elapsed, event = .succeeded outcome.bucket name position total outcome.rows elapsed
  else outcome.rows = 0

theorem stems_of_record {report : Report} {now : Number.Double} {event : Lifecycle} {name : String}
    {outcome : Outcome} (member : (name, outcome) ∈ (report.record now event).outcomes) :
    (name, outcome) ∈ report.outcomes ∨ Stems name outcome event := by
  cases event with
  | started | created | pageCopied => exact Or.inl member
  | bucketFinished bucket committed error =>
      rw [record] at member
      split at member <;> exact Or.inl member
  | skipped | tolerated | failed =>
      rcases mem_putEntry member with same | old
      · cases same
        exact Or.inr rfl
      · exact Or.inl old
  | succeeded bucket table position total rows elapsed =>
      rcases mem_putEntry member with same | old
      · cases same
        exact Or.inr ⟨position, total, elapsed, rfl⟩
      · exact Or.inl old

theorem Hears.stems {report final : Report} {events : List Lifecycle} (hears : Hears report events final)
    {name : String} {outcome : Outcome} (member : (name, outcome) ∈ final.outcomes) :
    (name, outcome) ∈ report.outcomes ∨ ∃ event ∈ events, Stems name outcome event := by
  induction hears with
  | silent => exact Or.inl member
  | heard now _ ih =>
      rcases ih member with recorded | ⟨event, later, stems⟩
      · exact (stems_of_record recorded).imp_right fun stems => ⟨_, List.mem_cons_self, stems⟩
      · exact Or.inr ⟨event, List.mem_cons_of_mem _ later, stems⟩

theorem mem_bucketErrors_record {report : Report} {now : Number.Double} {event : Lifecycle} {bucket : Int} :
    bucket ∈ (report.record now event).bucketErrors.map (·.1) ↔
      bucket ∈ report.bucketErrors.map (·.1) ∨ ∃ error, event = .bucketFinished bucket false error := by
  cases event with
  | bucketFinished finished committed error =>
      rw [record]
      cases committed with
      | true => simp
      | false =>
          rw [if_neg Bool.false_ne_true, mem_keys_putEntry, or_comm]
          constructor
          · rintro (old | rfl)
            · exact Or.inl old
            · exact Or.inr ⟨error, rfl⟩
          · rintro (old | ⟨_, same⟩)
            · exact Or.inl old
            · cases same
              exact Or.inr rfl
  | started | created | pageCopied | skipped | succeeded | tolerated | failed => simp [record, keep]

/-- The failed buckets of a report are those that were announced as failed. -/
theorem Hears.mem_bucketErrors {report final : Report} {events : List Lifecycle} (hears : Hears report events final)
    {bucket : Int} :
    bucket ∈ final.bucketErrors.map (·.1) ↔
      bucket ∈ report.bucketErrors.map (·.1) ∨ ∃ error, .bucketFinished bucket false error ∈ events := by
  induction hears with
  | silent => simp
  | heard now _ ih =>
      rw [ih, mem_bucketErrors_record, or_assoc]
      simp only [List.mem_cons, exists_or, eq_comm]

end Report

/-- What an event announces. -/
def Event.heard? : Event → Option Lifecycle
  | .announced event => some event
  | _ => none

theorem Event.mem_heard {events : List Event} {event : Lifecycle} :
    event ∈ events.filterMap heard? ↔ .announced event ∈ events := by
  rw [List.mem_filterMap]
  constructor
  · rintro ⟨announced, among, heard⟩
    cases announced with
    | announced told =>
        cases heard
        exact among
    | sent | pool | engine => cases heard
  · intro among
    exact ⟨_, among, rfl⟩

namespace Job

variable {σ : Type}

/-- The report hears what is announced and nothing else. -/
def Reports (_ : Bool) (world : World σ) (events : List Event) (final : World σ) : Prop :=
  Report.Hears world.report (events.filterMap Event.heard?) final.report

theorem blind_reports : Blind (σ := σ) (fun _ => True) Reports where
  quiet := fun _ _ _ => .silent _
  breaks := id
  trans := by
    intro _ _ _ _ _ _ _ first second
    rw [Reports, List.filterMap_append]
    exact first.append second
  mends := id
  changes := fun _ _ => .silent _
  sends := fun _ _ _ _ => .silent _

theorem ensures_announce_report (listeners : List Listener) (event : Lifecycle) (world : World σ) :
    (announce listeners event).Ensures world fun _ events final =>
      events = List.replicate (listeners.count .recorder) (.announced event) ∧
        ∃ times : List Number.Double, times.length = listeners.count .reporter ∧
          final.report = times.foldl (fun report now => report.record now event) world.report := by
  induction listeners generalizing world with
  | nil => exact (ensures_pure _).mpr ⟨rfl, [], rfl, rfl⟩
  | cons head tail ih =>
      change (tell event head >>= fun _ => announce tail event).Ensures _ _
      apply ensures_bind
      cases head with
      | recorder =>
          apply (ensures_trace _).mpr
          apply (ih _).imp
          intro _ events final outcome
          rcases outcome with ⟨rfl, times, count, report⟩
          exact ⟨by simp [List.replicate_succ], times, by simpa using count, report⟩
      | logger =>
          apply (ensures_noteAll _).mpr
          apply (ih _).imp
          intro _ events final outcome
          rcases outcome with ⟨rfl, times, count, report⟩
          exact ⟨by simp, times, by simpa using count, report⟩
      | reporter =>
          apply ensures_bind
          rw [ensures_clock]
          apply (ensures_modify rfl).mpr
          apply (ih _).imp
          intro _ events final outcome
          rcases outcome with ⟨rfl, times, count, report⟩
          exact ⟨by simp, world.now world.state :: times, by simpa using count, report⟩

theorem follows_announce_reports {listeners : List Listener} (recorded : listeners.count .recorder = 1)
    (reported : listeners.count .reporter = 1) (event : Lifecycle) :
    (announce listeners event : Job σ Unit).Follows Reports := by
  intro world
  apply (ensures_announce_report listeners event world).imp
  intro result events final outcome
  rcases outcome with ⟨rfl, times, count, report⟩
  rw [reported] at count
  obtain ⟨now, rfl⟩ := List.length_eq_one_iff.mp count
  rw [Reports, recorded, report]
  exact .heard now (.silent _)

end Job

namespace Migration

variable {σ : Type} {m : Migration σ} {condition : Option String}

/-! Buckets that report. -/

theorem reported_worker (unreported : .reporter ∉ m.listeners) (index : Nat) :
    (m.worker index).listeners.count .reporter = 1 := by
  change (m.listeners ++ [Listener.reporter]).count Listener.reporter = 1
  rw [List.count_append, List.count_eq_zero.mpr unreported]
  rfl

theorem follows_runBucket_reports (recorded : m.listeners.count .recorder = 1)
    (unreported : .reporter ∉ m.listeners) (index : Nat) (bucket : List SizedTable) :
    (m.runBucket condition index bucket).Follows Job.Reports :=
  follows_runBucket Job.blind_reports (fun _ => trivial) index
    (Job.follows_announce_reports (recorded_worker recorded index) (reported_worker unreported index))

theorem follows_inOrder_reports (recorded : m.listeners.count .recorder = 1)
    (unreported : .reporter ∉ m.listeners) (jobs : List (List SizedTable × Nat)) :
    (m.inOrder condition jobs).Follows Job.Reports := by
  induction jobs with
  | nil => exact Job.blind_reports.pure []
  | cons job rest ih =>
      rw [inOrder_cons]
      apply Job.blind_reports.bind (follows_runBucket_reports recorded unreported job.2 job.1)
      intro result
      apply Job.blind_reports.bind ih
      intro ends
      exact Job.blind_reports.pure _

/-- The buckets run side by side, and the report hears what each of them announces, in the order in which it does. -/
def Reporting (m : Migration σ) (condition : Option String) (pool : List (List SizedTable) → Job σ Ends)
    (worlds : Nat → World σ) (buckets : List (List SizedTable)) (world : World σ) : Prop :=
  (pool buckets).Ensures world fun result events final =>
    ∃ ends, result = .ok ends ∧
      ∃ mixed heard, events = mixed.map (·.2) ∧ m.SideBySide condition buckets worlds ends mixed ∧
        (∀ index, ofBucket index heard = (ofBucket index mixed).filterMap Event.heard?) ∧
        Report.Hears world.report (heard.map (·.2)) final.report

/-- What is announced in a mixture of events. -/
def heardIn (mixed : List (Nat × Event)) : List (Nat × Lifecycle) :=
  mixed.filterMap fun entry => entry.2.heard?.map fun event => (entry.1, event)

theorem map_heardIn (mixed : List (Nat × Event)) :
    (heardIn mixed).map (·.2) = (mixed.map (·.2)).filterMap Event.heard? := by
  rw [heardIn, List.map_filterMap, List.filterMap_map]
  congr 1
  funext entry
  simp [Function.comp_def]

theorem ofBucket_heardIn (index : Nat) (mixed : List (Nat × Event)) :
    ofBucket index (heardIn mixed) = (ofBucket index mixed).filterMap Event.heard? := by
  rw [ofBucket, heardIn, ofBucket, List.filterMap_filterMap, List.filterMap_filterMap]
  congr 1
  funext entry
  cases heard : entry.2.heard? <;> by_cases own : entry.1 = index <;> simp [own, heard]

theorem reporting_inOrder (m : Migration σ) (condition : Option String)
    (recorded : m.listeners.count .recorder = 1) (unreported : .reporter ∉ m.listeners)
    {buckets : List (List SizedTable)} (arrange : List (List SizedTable) → List (List SizedTable × Nat))
    (perm : (arrange buckets).Perm buckets.zipIdx) (world : World σ) :
    m.Reporting condition (fun buckets => m.inOrder condition (arrange buckets))
      (m.startsOf condition (arrange buckets) world) buckets world := by
  apply Job.Ensures.imp ((m.concurrent_inOrder condition arrange perm world).and
    (follows_inOrder_reports recorded unreported (arrange buckets) world))
  intro result events final outcome
  rcases outcome with ⟨⟨ends, rfl, mixed, rfl, sideBySide⟩, reports⟩
  refine ⟨ends, rfl, mixed, heardIn mixed, rfl, sideBySide, fun index => ofBucket_heardIn index mixed, ?_⟩
  rw [map_heardIn]
  exact reports

/-- A table that is announced as succeeded was moved in the bucket that announces it. -/
theorem Handled.warrants (recorded : m.listeners.count .recorder = 1) {index : Nat} {bucket : List SizedTable}
    {result : Except Fault Unit} {work : List Event} (handled : m.Handled condition index bucket result work) :
    (m.worker index).Warrants condition bucket (work ++ [.announced (finished index result)]) := by
  intro announcing name position total rows elapsed member
  cases handled with
  | unconnected => simp [finished] at member
  | unbegun => simp [finished] at member
  | transacted transacted =>
      rcases transacted with ⟨start, moved, inner, middle, runs, _, _, rfl⟩
      have warrants := runs.met (Worker.ensures_moveTables_warrants (recorded_worker recorded index) bucket start)
      have among : .announced (.succeeded announcing name position total rows elapsed) ∈ inner := by
        cases result <;> simpa [finished] using member
      obtain ⟨own, table, present, named, count, same, moved⟩ :=
        warrants announcing name position total rows elapsed among
      refine ⟨own, table, present, named, count, same, ?_⟩
      simpa only [List.append_assoc] using moved.within [_, _] ([_, _] ++ [_])

/-- The events of a bucket whose tables were all handled, whose commit the target accepted, and which is announced as
committed. -/
def BucketCommitted (m : Migration σ) (condition : Option String) (index : Nat) (bucket : List SizedTable)
    (events : List Event) : Prop :=
  ∃ start count inner middle,
    ((m.worker index).moveTables bucket condition).Runs start (.ok count) inner middle ∧
      (m.target.db.commit middle.state).1 = .ok () ∧
      events =
        [.sent m.target.db.label .connect, .sent m.target.db.label .begin] ++ inner ++
          [.sent m.target.db.label .commit, .sent m.target.db.label .close,
            .announced (.bucketFinished index true none)]

/-- A bucket ends without a failure exactly if it is committed. -/
theorem Attended.isOk_iff {buckets : List (List SizedTable)} {worlds : Nat → World σ}
    {ended : Nat → Except Fault Unit} {mixed : List (Nat × Event)}
    (attended : m.Attended condition buckets worlds ended mixed) {index : Nat} (below : index < buckets.length) :
    (ended index).isOk = true ↔ m.BucketCommitted condition index buckets[index] (ofBucket index mixed) := by
  obtain ⟨work, handled, events⟩ := attended.handled index below
  rw [events]
  constructor
  · intro passed
    cases ending : ended index with
    | error fault =>
        rw [ending] at passed
        cases passed
    | ok value =>
        rw [ending] at handled
        rcases handled with _ | _ | ⟨start, moved, inner, middle, runs, result, _, rfl⟩
        cases moved with
        | error fault =>
            rw [Database.ending] at result
            cases answered : (m.target.db.rollback middle.state).1 <;> rw [answered] at result <;> cases result
        | ok count =>
            rw [Database.ending] at result
            cases answered : (m.target.db.commit middle.state).1 with
            | error fault =>
                rw [answered] at result
                cases result
            | ok accepted =>
                refine ⟨start, count, inner, middle, runs, answered, ?_⟩
                simp [finished, Except.isOk, Except.toBool]
  · rintro ⟨start, count, inner, middle, _, _, same⟩
    have announced : .announced (.bucketFinished index true none) ∈
        work ++ [.announced (finished index (ended index))] := by
      rw [same]
      exact List.mem_append_right _ (by simp)
    rcases List.mem_append.mp announced with inside | last
    · exact absurd (handled.isOfTable inside) Bool.false_ne_true
    · cases ending : ended index with
      | ok value => rfl
      | error fault => simp [ending, finished] at last

/-- What a report tells of a run with such events. A table that succeeded was moved in its bucket, with the rows that
are counted for it, and rows are counted for no other table; if its bucket was not committed, then the report names it
among the failed ones, which are those that were not. -/
structure Warranted (m : Migration σ) (condition : Option String) (buckets : List (List SizedTable))
    (mixed : List (Nat × Event)) (report : Report) : Prop where
  succeeded : ∀ name outcome, (name, outcome) ∈ report.outcomes → outcome.status = .succeeded →
    ∃ index, ∃ below : index < buckets.length, outcome.bucket = index ∧
      (∃ table ∈ buckets[index], table.name = name ∧ ∃ count : Nat, outcome.rows = count ∧
        (m.worker index).Moved condition table count (ofBucket index mixed)) ∧
      (m.BucketCommitted condition index buckets[index] (ofBucket index mixed) ∨
        (index : Int) ∈ report.bucketErrors.map (·.1))
  rows : report.rowsCopied =
    (report.outcomes.filter (·.2.status = .succeeded)).foldl (fun total entry => total + entry.2.rows) 0
  failed : ∀ index (below : index < buckets.length),
    ((index : Int) ∈ report.bucketErrors.map (·.1) ↔
      ¬ m.BucketCommitted condition index buckets[index] (ofBucket index mixed))

/-- Rows are counted for tables that succeeded alone if the others have none. -/
theorem rowsCopied_eq (report : Report)
    (others : ∀ entry ∈ report.outcomes, entry.2.status ≠ .succeeded → entry.2.rows = 0) :
    report.rowsCopied =
      (report.outcomes.filter (·.2.status = .succeeded)).foldl (fun total entry => total + entry.2.rows) 0 := by
  have counted (entries : List (String × Outcome)) (total : Int)
      (others : ∀ entry ∈ entries, entry.2.status ≠ .succeeded → entry.2.rows = 0) :
      entries.foldl (fun total entry => total + entry.2.rows) total =
        (entries.filter (·.2.status = .succeeded)).foldl (fun total entry => total + entry.2.rows) total := by
    induction entries generalizing total with
    | nil => rfl
    | cons entry rest ih =>
        rw [List.foldl_cons, ih _ fun other behind => others other (List.mem_cons_of_mem entry behind)]
        by_cases status : entry.2.status = .succeeded
        · simp [status]
        · simp [status, others entry List.mem_cons_self status]
  exact counted report.outcomes 0 others

section Heard

variable {buckets : List (List SizedTable)} {worlds : Nat → World σ} {ended : Nat → Except Fault Unit}
  {mixed : List (Nat × Event)} {heard : List (Nat × Lifecycle)} {start report : Report}

theorem mem_heard (same : ∀ index, ofBucket index heard = (ofBucket index mixed).filterMap Event.heard?)
    {index : Nat} {event : Lifecycle} : (index, event) ∈ heard ↔ .announced event ∈ ofBucket index mixed := by
  rw [← mem_ofBucket, same, Event.mem_heard]

/-- All that is heard was announced in a bucket of the run. -/
theorem Attended.announced (attended : m.Attended condition buckets worlds ended mixed)
    (same : ∀ index, ofBucket index heard = (ofBucket index mixed).filterMap Event.heard?) {event : Lifecycle}
    (among : event ∈ heard.map (·.2)) :
    ∃ index, index < buckets.length ∧ .announced event ∈ ofBucket index mixed := by
  obtain ⟨⟨index, _⟩, entry, rfl⟩ := List.mem_map.mp among
  have own := (mem_heard same).mp entry
  exact ⟨index, attended.within _ (mem_ofBucket.mp own), own⟩

/-- A bucket announces itself alone as finished, and as failed exactly if it did. -/
theorem Attended.announced_failed_iff (attended : m.Attended condition buckets worlds ended mixed) {index : Nat}
    (below : index < buckets.length) {bucket : Int} {error : Option String} :
    .announced (.bucketFinished bucket false error) ∈ ofBucket index mixed ↔
      bucket = index ∧ ∃ fault, ended index = .error fault ∧ error = some fault.text := by
  obtain ⟨work, handled, events⟩ := attended.handled index below
  have not_inside : .announced (.bucketFinished bucket false error) ∉ work :=
    fun inside => Bool.false_ne_true (handled.isOfTable inside)
  rw [events, List.mem_append, or_iff_right not_inside, List.mem_singleton]
  cases ended index <;> simp [finished]

/-- The report names the buckets that failed and no others. -/
theorem Attended.mem_bucketErrors (attended : m.Attended condition buckets worlds ended mixed)
    (same : ∀ index, ofBucket index heard = (ofBucket index mixed).filterMap Event.heard?)
    (fresh : start.bucketErrors = []) (hears : Report.Hears start (heard.map (·.2)) report) {index : Nat}
    (below : index < buckets.length) :
    (index : Int) ∈ report.bucketErrors.map (·.1) ↔
      ¬ m.BucketCommitted condition index buckets[index] (ofBucket index mixed) := by
  rw [hears.mem_bucketErrors, fresh, ← attended.isOk_iff below, Bool.not_eq_true]
  constructor
  · rintro (none_yet | ⟨error, among⟩)
    · cases none_yet
    · obtain ⟨other, within, own⟩ := attended.announced same among
      obtain ⟨named, fault, ending, _⟩ := (attended.announced_failed_iff within).mp own
      rw [Int.natCast_inj.mp named, ending]
      rfl
  · intro failed
    cases ending : ended index with
    | ok value =>
        rw [ending] at failed
        cases failed
    | error fault =>
        have own := (attended.announced_failed_iff below).mpr ⟨rfl, fault, ending, rfl⟩
        exact Or.inr ⟨_, List.mem_map_of_mem ((mem_heard same).mpr own)⟩

/-- The report that hears the buckets is warranted by what they did. -/
theorem Attended.warranted (recorded : m.listeners.count .recorder = 1)
    (attended : m.Attended condition buckets worlds ended mixed)
    (same : ∀ index, ofBucket index heard = (ofBucket index mixed).filterMap Event.heard?)
    (fresh : start.outcomes = [] ∧ start.bucketErrors = [])
    (hears : Report.Hears start (heard.map (·.2)) report) :
    m.Warranted condition buckets mixed report where
  failed := fun _ below => attended.mem_bucketErrors same fresh.2 hears below
  succeeded := by
    intro name outcome member status
    rcases hears.stems member with recorded_before | ⟨event, among, stems⟩
    · rw [fresh.1] at recorded_before
      cases recorded_before
    · rw [Report.Stems, if_pos status] at stems
      obtain ⟨position, total, elapsed, rfl⟩ := stems
      obtain ⟨index, below, own⟩ := attended.announced same among
      obtain ⟨work, handled, events⟩ := attended.handled index below
      have warrants := handled.warrants recorded
      rw [← events] at warrants
      obtain ⟨bucket, moved⟩ := warrants outcome.bucket name position total outcome.rows elapsed own
      refine ⟨index, below, bucket, moved, ?_⟩
      rw [attended.mem_bucketErrors same fresh.2 hears below]
      exact Classical.em _
  rows := by
    apply rowsCopied_eq
    rintro ⟨name, outcome⟩ member status
    rcases hears.stems member with recorded_before | ⟨event, among, stems⟩
    · rw [fresh.1] at recorded_before
      cases recorded_before
    · rwa [Report.Stems, if_neg status] at stems

end Heard

/-- A migration whose source cannot look up one of the tables, and which does not pass over failures. -/
def losing : Migration Unit :=
  let lacking := Database.still "src" "sqlite" (fun name => some (Database.onlyId name)) fun _ => [[("id", .int 1)]]
  let w := Worker.between .sqlite
    { lacking with reflect := fun name schema state =>
        if name = "lost" then (.error (.single .database "disk I/O error"), state)
        else lacking.reflect name schema state }
    (Database.still "dst" "sqlite" (fun name => some (Database.onlyId name)) fun _ => [])
  { source := w.source, target := w.target, compiler := w.compiler, listeners := [.recorder],
    strategy := { w.strategy with continueOnError := .bool false } }

def losingTables : List SizedTable := [⟨"orders", some 1⟩, ⟨"lost", some 1⟩]

def losingWorld : World Unit := { state := (), now := fun _ => .zero false }

/-- Whether an event commits a transaction. -/
def commits : Event → Bool
  | .sent _ .commit => true
  | _ => false

theorem partition_losingTables : partition losingTables 1 = [losingTables] := by
  unfold partition
  rw [List.mergeSort_of_pairwise (by decide)]
  rfl

/-- The world in which the one bucket of the tables begins. -/
def losingStart : World Unit := ((losing.opening losingTables.length [losingTables].length).run losingWorld).2

end Migration

end TableFerry
