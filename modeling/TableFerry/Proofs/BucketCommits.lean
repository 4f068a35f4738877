import Mathlib.Data.List.Nodup
import TableFerry.Proofs.Transfers
import TableFerry.Transfer.Run
/-! Whole runs on a pool. Every bucket has a connection and a transaction of its own, which is committed if all its
tables were handled and rolled back if not. The pool may run the buckets in any order and side by side; all that is
asked of it is that each bucket does in it what it does alone. -/

namespace TableFerry

/-! One bucket. -/

/-- Whether an event begins or ends the transaction of a bucket or the bucket itself. -/
def Event.isFrame : Event → Bool
  | .sent _ request => request.isTransaction
  | .announced event => !event.isOfTable
  | _ => false

/-- The tables of a bucket neither begin nor end a transaction. -/
theorem Worker.follows_moveTables_inside {σ : Type} (w : Worker σ) (condition : Option String)
    (tables : List SizedTable) :
    (w.moveTables tables condition).Follows fun _ _ events _ => ∀ event ∈ events, event.isFrame = false := by
  have announces (event : Lifecycle) (concerned : event.Concerns fun _ => True) :
      (w.announce event).Follows fun _ _ events _ => ∀ event ∈ events, event.isFrame = false := by
    apply Job.follows_announce_allowed
    rw [Event.isFrame, concerned.isOfTable]
    rfl
  apply Worker.follows_moveTables (Job.blind_allowed fun event => event.isFrame = false) announces
  · intro request plain _
    exact plain
  · exact fun _ _ => trivial

/-- A database that refuses neither a connection nor to begin or to commit a transaction. -/
structure Database.Transacts {σ : Type} (db : Database σ) : Prop where
  connect : ∀ state, (db.connect state).1 = .ok ()
  begin : ∀ state, (db.begin state).1 = .ok ()
  commit : ∀ state, (db.commit state).1 = .ok ()

namespace Migration

variable {σ : Type} {m : Migration σ} {condition : Option String} {bucket : List SizedTable}

/-- A connection and a transaction around the tables of a bucket. The transaction is committed if moving them came to
an end and rolled back if it failed, and then the connection is closed. The bucket ends as moving its tables did, or
with the fault with which the target refuses to end the transaction. -/
def Transacted (m : Migration σ) (condition : Option String) (index : Nat) (bucket : List SizedTable)
    (result : Except Fault Unit) (events : List Event) : Prop :=
  ∃ start moved inner middle,
    ((m.worker index).moveTables bucket condition).Runs start moved inner middle ∧
      result = ((m.target.db.ending moved).2 middle.state).1.bind (fun _ => moved.map fun _ => ()) ∧
      (∀ event ∈ inner, event.isFrame = false) ∧
      events =
        [.sent m.target.db.label .connect, .sent m.target.db.label .begin] ++ inner ++
          [.sent m.target.db.label (if moved.isOk then .commit else .rollback), .sent m.target.db.label .close]

/-- All that can come of a bucket: no connection, no transaction on it, or a transaction around its tables. -/
inductive Handled (m : Migration σ) (condition : Option String) (index : Nat) (bucket : List SizedTable) :
    Except Fault Unit → List Event → Prop
  | unconnected (fault : Fault) (state : σ) (refused : (m.target.db.connect state).1 = .error fault) :
      Handled m condition index bucket (.error fault) []
  | unbegun (fault : Fault) (state : σ) (refused : (m.target.db.begin state).1 = .error fault) :
      Handled m condition index bucket (.error fault)
        [.sent m.target.db.label .connect, .sent m.target.db.label .begin, .sent m.target.db.label .close]
  | transacted {result : Except Fault Unit} {events : List Event}
      (transacted : m.Transacted condition index bucket result events) :
      Handled m condition index bucket result events

theorem ensures_bucketWork (m : Migration σ) (condition : Option String) (index : Nat) (bucket : List SizedTable)
    (world : World σ) :
    (m.bucketWork index bucket condition).Ensures world fun result events _ =>
      m.Handled condition index bucket result events := by
  apply Database.ensures_withConnection
  case refused =>
    intro fault state refused
    exact .unconnected fault _ (congrArg Prod.fst refused)
  case opened =>
    intro state _
    apply Database.ensures_withTransaction
    case refused =>
      intro fault state refused
      exact .unbegun fault _ (congrArg Prod.fst refused)
    case opened =>
      intro state _
      apply Job.ensures_bind
      apply (((m.worker index).follows_moveTables_inside condition bucket) _).runs.imp
      intro moved inner middle outcome
      rcases outcome with ⟨runs, inside⟩
      cases moved with
      | error fault =>
          intro answered state ended
          have rolled : (m.target.db.rollback middle.state).1 = answered := congrArg Prod.fst ended
          refine .transacted ⟨_, _, inner, middle, runs, ?_, inside, ?_⟩
          · rw [Database.ending, rolled]
            rfl
          · simp [Database.ending, Except.isOk, Except.toBool]
      | ok count =>
          apply (Job.ensures_pure ()).mpr
          intro answered state ended
          have committed : (m.target.db.commit middle.state).1 = answered := congrArg Prod.fst ended
          refine .transacted ⟨_, _, inner, middle, runs, ?_, inside, ?_⟩
          · rw [Database.ending, committed]
            rfl
          · simp [Database.ending, Except.isOk, Except.toBool]

/-- The tables of a bucket announce tables alone. -/
theorem Handled.isOfTable {index : Nat} {result : Except Fault Unit} {work : List Event}
    (handled : m.Handled condition index bucket result work) {event : Lifecycle} (among : .announced event ∈ work) :
    event.isOfTable = true := by
  cases handled with
  | unconnected => cases among
  | unbegun => simp at among
  | transacted transacted =>
      rcases transacted with ⟨_, _, inner, _, _, _, inside, rfl⟩
      have member : .announced event ∈ inner := by simpa using among
      simpa [Event.isFrame] using inside _ member

/-- How a bucket is announced as finished. -/
def finished (index : Nat) : Except Fault Unit → Lifecycle
  | .ok _ => .bucketFinished index true none
  | .error fault => .bucketFinished index false (some fault.text)

/-- However a bucket ends, it is announced as finished and its end is given. -/
theorem runBucket_eq (m : Migration σ) (condition : Option String) (index : Nat) (bucket : List SizedTable) :
    m.runBucket condition index bucket = (do
      Job.note .debug
        (s!"Worker bucket {index}: " ++ (Value.list (bucket.map fun table => .text table.name)).written)
      let result ← (m.bucketWork index bucket condition).attempt
      (m.worker index).announce (finished index result)
      pure result) := by
  unfold runBucket
  congr 1
  funext _
  congr 1
  funext result
  cases result <;> rfl

/-- A bucket as a whole never fails, but may end in a failure. Its end is announced last, to all who listen. -/
theorem ensures_runBucket_told (m : Migration σ) (condition : Option String) (index : Nat) (bucket : List SizedTable)
    (world : World σ) :
    (m.runBucket condition index bucket).Ensures world fun outcome events _ =>
      ∃ result work, outcome = .ok result ∧ m.Handled condition index bucket result work ∧
        events = work ++
          List.replicate ((m.worker index).listeners.count .recorder) (.announced (finished index result)) := by
  rw [runBucket_eq]
  apply Job.ensures_bind
  rw [Job.ensures_note]
  apply Job.ensures_bind
  rw [Job.ensures_attempt]
  apply (ensures_bucketWork m condition index bucket _).imp
  intro result work middle handled
  apply Job.ensures_bind
  apply (Job.ensures_announce (m.worker index).listeners (finished index result) middle).imp
  intro _ events final outcome
  rcases outcome with ⟨rfl, rfl, _⟩
  refine (Job.ensures_pure _).mpr ⟨result, work, rfl, handled, ?_⟩
  rw [List.append_nil, List.nil_append]

theorem recorded_worker (recorded : m.listeners.count .recorder = 1) (index : Nat) :
    (m.worker index).listeners.count .recorder = 1 := by
  change (m.listeners ++ [Listener.reporter]).count Listener.recorder = 1
  rw [List.count_append, recorded]
  rfl

theorem ensures_runBucket (recorded : m.listeners.count .recorder = 1) (index : Nat) (world : World σ) :
    (m.runBucket condition index bucket).Ensures world fun outcome events _ =>
      ∃ result work, outcome = .ok result ∧ m.Handled condition index bucket result work ∧
        events = work ++ [.announced (finished index result)] := by
  apply (ensures_runBucket_told m condition index bucket world).imp
  intro outcome events final met
  rwa [recorded_worker recorded index] at met

section Blind

variable {fits : Request → Prop} {relation : Bool → World σ → List Event → World σ → Prop}

theorem follows_bucketWork (blind : Job.Blind fits relation) (sends : ∀ request, fits request) (index : Nat)
    {names : String → Prop}
    (announces : ∀ event : Lifecycle, event.Concerns names → ((m.worker index).announce event).Follows relation)
    (named : ∀ table ∈ bucket, names table.name) : (m.bucketWork index bucket condition).Follows relation := by
  apply blind.withConnection (fun _ _ => blind.send _ (sends _)) (blind.answer _)
  apply blind.withTransaction _ _ fun _ _ => sends _
  apply blind.bind (Worker.follows_moveTables blind announces (fun _ _ => sends _) _ _ named)
  intro _
  exact blind.pure ()

theorem follows_runBucket (blind : Job.Blind fits relation) (sends : ∀ request, fits request) (index : Nat)
    (announces : ∀ event : Lifecycle, ((m.worker index).announce event).Follows relation) :
    (m.runBucket condition index bucket).Follows relation := by
  rw [runBucket_eq]
  apply blind.bind (blind.note _ _)
  intro _
  have announcesAny (event : Lifecycle) (_ : event.Concerns fun _ => True) := announces event
  have work : (m.bucketWork index bucket condition).Follows relation :=
    follows_bucketWork blind sends index announcesAny fun _ _ => trivial
  apply blind.bind (work.attempt blind.mends)
  intro result
  apply blind.bind (announces _)
  intro _
  exact blind.pure _

end Blind

/-! All buckets. -/

/-- What is of one bucket, out of what is of all, in order. -/
def ofBucket {α : Type} (index : Nat) (mixed : List (Nat × α)) : List α :=
  mixed.filterMap fun entry => if entry.1 = index then some entry.2 else none

theorem mem_ofBucket {α : Type} {index : Nat} {mixed : List (Nat × α)} {value : α} :
    value ∈ ofBucket index mixed ↔ (index, value) ∈ mixed := by
  rw [ofBucket, List.mem_filterMap]
  constructor
  · rintro ⟨⟨number, found⟩, among, given⟩
    split at given
    · rename_i own
      cases own
      cases given
      exact among
    · cases given
  · intro among
    exact ⟨_, among, if_pos rfl⟩

theorem ofBucket_append {α : Type} (index : Nat) (mixed more : List (Nat × α)) :
    ofBucket index (mixed ++ more) = ofBucket index mixed ++ ofBucket index more :=
  List.filterMap_append

theorem ofBucket_own {α : Type} (index : Nat) (entries : List α) :
    ofBucket index (entries.map fun entry => (index, entry)) = entries := by
  simp [ofBucket, List.filterMap_map]

theorem ofBucket_absent {α : Type} {index : Nat} {mixed : List (Nat × α)}
    (absent : ∀ entry ∈ mixed, entry.1 ≠ index) : ofBucket index mixed = [] := by
  rw [ofBucket, List.filterMap_eq_nil_iff]
  intro entry member
  exact if_neg (absent entry member)

/-- The buckets ran side by side: in the mixture of their events each has the events that it has when it is run
alone, from a world that is its own, and each ended once. The ends may be in any order. The world of a bucket may hold
all that the databases are going to answer it, also where other buckets had a part in that. -/
structure SideBySide (m : Migration σ) (condition : Option String) (buckets : List (List SizedTable))
    (worlds : Nat → World σ) (ends : Ends) (mixed : List (Nat × Event)) : Prop where
  ended : (ends.map (·.1)).Perm (List.range buckets.length)
  within : ∀ entry ∈ mixed, entry.1 < buckets.length
  runs : ∀ index (below : index < buckets.length), ∃ result last, (index, result) ∈ ends ∧
    (m.runBucket condition index buckets[index]).Runs (worlds index) (.ok result) (ofBucket index mixed) last

/-- The failures of the first `count` buckets, in the order of the buckets. -/
def failuresUpTo (count : Nat) (result : Nat → Except Fault Unit) : List (Nat × String) :=
  (List.range count).filterMap fun index =>
    match result index with
    | .ok _ => none
    | .error fault => some (index, fault.text)

theorem pairwise_failuresUpTo (count : Nat) (result : Nat → Except Fault Unit) :
    (failuresUpTo count result).Pairwise fun a b => a.1 < b.1 := by
  apply List.Pairwise.filterMap _ _ List.pairwise_lt_range
  intro index other before entry given later given_later
  cases ended : result index with
  | ok => rw [ended] at given; cases given
  | error fault =>
      cases ended_later : result other with
      | ok => rw [ended_later] at given_later; cases given_later
      | error fault =>
          rw [ended] at given
          rw [ended_later] at given_later
          cases given
          cases given_later
          exact before

theorem isOk_of_failuresUpTo {count : Nat} {result : Nat → Except Fault Unit}
    (none_failed : failuresUpTo count result = []) {index : Nat} (below : index < count) :
    (result index).isOk = true := by
  have passed := List.filterMap_eq_nil_iff.mp none_failed index (List.mem_range.mpr below)
  cases ended : result index with
  | ok value => rfl
  | error fault =>
      rw [ended] at passed
      cases passed

/-- Ends that cover the buckets are those of the buckets in some order. -/
theorem perm_of_ended {count : Nat} {ends : Ends} {result : Nat → Except Fault Unit}
    (ended : (ends.map (·.1)).Perm (List.range count))
    (found : ∀ index, index < count → (index, result index) ∈ ends) :
    ends.Perm ((List.range count).map fun index => (index, result index)) := by
  have apart : (ends.map (·.1)).Nodup := ended.nodup_iff.mpr List.nodup_range
  have apart_there : ((List.range count).map fun index => (index, result index)).Nodup := by
    apply List.Nodup.of_map (·.1)
    rw [List.map_map]
    exact (List.map_id (List.range count)).symm ▸ List.nodup_range
  apply (List.perm_ext_iff_of_nodup apart.of_map apart_there).mpr
  intro entry
  rw [List.mem_map]
  constructor
  · intro member
    have below : entry.1 < count := List.mem_range.mp (ended.mem_iff.mp (List.mem_map_of_mem member))
    exact ⟨entry.1, List.mem_range.mpr below, List.inj_on_of_nodup_map apart (found entry.1 below) member rfl⟩
  · rintro ⟨index, member, rfl⟩
    exact found index (List.mem_range.mp member)

/-- The failures of a run are in the order of the buckets, whatever the order of the ends. -/
theorem failures_eq {count : Nat} {ends : Ends} {result : Nat → Except Fault Unit}
    (ended : (ends.map (·.1)).Perm (List.range count))
    (found : ∀ index, index < count → (index, result index) ∈ ends) :
    failures ends = failuresUpTo count result := by
  have sorted := pairwise_failuresUpTo count result
  have perm : (failures ends).Perm (failuresUpTo count result) := by
    apply (List.mergeSort_perm _ _).trans
    have listed := (perm_of_ended ended found).filterMap fun entry =>
      match entry.2 with
      | .ok _ => none
      | .error fault => some (entry.1, fault.text)
    rwa [List.filterMap_map] at listed
  have keys : ((failuresUpTo count result).map (·.1)).Nodup := by
    rw [List.Nodup, List.pairwise_map]
    exact sorted.imp fun below => Nat.ne_of_lt below
  have ordered : (failures ends).Pairwise fun a b => a.1 ≤ b.1 := by
    unfold failures
    apply (List.pairwise_mergeSort _ _ _).imp
    · intro a b below
      exact of_decide_eq_true below
    · intro a b c below above
      exact decide_eq_true (Nat.le_trans (of_decide_eq_true below) (of_decide_eq_true above))
    · intro a b
      simpa using Nat.le_total a.1 b.1
  apply perm.eq_of_pairwise _ ordered (sorted.imp fun below => Nat.le_of_lt below)
  intro a b left right below above
  exact List.inj_on_of_nodup_map keys (perm.mem_iff.mp left) right (Nat.le_antisymm below above)

theorem failures_eq_nil {ends : Ends} : failures ends = [] ↔ ∀ entry ∈ ends, entry.2.isOk = true := by
  rw [failures, ← List.length_eq_zero_iff, List.length_mergeSort, List.length_eq_zero_iff, List.filterMap_eq_nil_iff]
  apply forall₂_congr
  intro entry _
  cases entry.2 <;> simp [Except.isOk, Except.toBool]

/-! Whole runs. -/

/-- What a run does before its buckets begin. -/
def opening (m : Migration σ) (tables buckets : Nat) : Job σ Unit := do
  beginReport
  m.noteStart tables buckets

/-- The events of the opening: a pool is only made for buckets. -/
def poolEvents (buckets : Nat) : List Event := if buckets ≠ 0 then [.pool buckets] else []

theorem ensures_beginReport (world : World σ) :
    (beginReport : Job σ Unit).Ensures world fun result events final =>
      result = .ok () ∧ events = [] ∧ final.report = Report.begin (world.now world.state) := by
  apply Job.ensures_bind
  rw [Job.ensures_clock]
  exact (Job.ensures_modify rfl).mpr ⟨rfl, rfl, rfl⟩

theorem ensures_opening (m : Migration σ) (tables buckets : Nat) (world : World σ) :
    (m.opening tables buckets).Ensures world fun result events final =>
      result = .ok () ∧ events = poolEvents buckets ∧ final.report = Report.begin (world.now world.state) := by
  apply Job.ensures_bind
  apply (ensures_beginReport world).imp
  intro result events middle outcome
  rcases outcome with ⟨rfl, rfl, begun⟩
  apply Job.ensures_bind
  rw [Job.ensures_note]
  dsimp only
  unfold poolEvents
  split
  · exact (Job.ensures_trace _).mpr ⟨rfl, rfl, begun⟩
  · exact (Job.ensures_pure ()).mpr ⟨rfl, rfl, begun⟩

/-- How a run of buckets ends. -/
def verdict (buckets : Nat) (failed : List (Nat × String)) (report : Report) : Except Fault Report :=
  if failed.isEmpty then .ok report
  else .error (.single (.runFailed failed report) s!"{failed.length} of {buckets} worker bucket(s) failed")

theorem verdict_eq_ok {buckets : Nat} {failed : List (Nat × String)} {report given : Report}
    (passed : verdict buckets failed report = .ok given) : failed = [] ∧ given = report := by
  cases failed with
  | nil =>
      cases passed
      exact ⟨rfl, rfl⟩
  | cons => cases passed

theorem ensures_endReport (world : World σ) :
    (endReport : Job σ Report).Ensures world fun result events final =>
      result = .ok final.report ∧ events = [] ∧ final.report = world.report.finish (world.now world.state) := by
  apply Job.ensures_bind
  rw [Job.ensures_clock]
  apply Job.ensures_bind
  apply (Job.ensures_modify rfl).mpr
  apply Job.ensures_bind
  rw [Job.ensures_get]
  exact (Job.ensures_pure _).mpr ⟨rfl, rfl, rfl⟩

theorem ensures_conclude (buckets : Nat) (ends : Ends) (world : World σ) :
    (conclude buckets ends).Ensures world fun result events final =>
      events = [] ∧ final.report = world.report.finish (world.now world.state) ∧
        result = verdict buckets (failures ends) final.report := by
  apply Job.ensures_bind
  apply (ensures_endReport world).imp
  intro result events middle outcome
  rcases outcome with ⟨rfl, rfl, report⟩
  apply Job.ensures_bind
  rw [Job.ensures_note]
  unfold verdict
  dsimp only
  split
  · exact (Job.ensures_pure _).mpr ⟨rfl, report, rfl⟩
  · exact (Job.ensures_throw _).mpr ⟨rfl, report, rfl⟩

/-- A whole run from what its pool does. -/
theorem ensures_runOn {pool : List (List SizedTable) → Job σ Ends} {tables : List SizedTable} {workers : Int}
    {world : World σ} {post : Ends → List Event → World σ → Prop}
    (ran : (pool (partition tables workers)).Ensures
      ((m.opening tables.length (partition tables workers).length).run world).2
      fun result events middle => ∃ ends, result = .ok ends ∧ post ends events middle) :
    (m.runOn pool tables workers).Ensures world fun result events final =>
      ∃ ends inner middle, post ends inner middle ∧
        events = poolEvents (partition tables workers).length ++ inner ∧
        final.report = middle.report.finish (middle.now middle.state) ∧
        result = verdict (partition tables workers).length (failures ends) final.report := by
  have opened : m.runOn pool tables workers =
      m.opening tables.length (partition tables workers).length >>= fun _ =>
        pool (partition tables workers) >>= conclude (partition tables workers).length :=
    (bind_assoc _ _ _).symm
  rw [opened]
  apply Job.ensures_bind
  apply (ensures_opening m tables.length (partition tables workers).length world).runs.imp
  intro result events start outcome
  rcases outcome with ⟨runs, rfl, rfl, _⟩
  rw [runs.1] at ran
  apply Job.ensures_bind
  apply ran.imp
  intro result inner middle outcome
  rcases outcome with ⟨ends, rfl, met⟩
  apply (ensures_conclude _ ends middle).imp
  intro result events final outcome
  rcases outcome with ⟨rfl, report, rfl⟩
  refine ⟨ends, inner, middle, met, ?_, report, rfl⟩
  rw [List.append_nil]

/-- On the pool, from the world behind the opening, the buckets run side by side. -/
def Concurrent (m : Migration σ) (condition : Option String) (pool : List (List SizedTable) → Job σ Ends)
    (worlds : Nat → World σ) (buckets : List (List SizedTable)) (world : World σ) : Prop :=
  (pool buckets).Ensures world fun result events _ =>
    ∃ ends, result = .ok ends ∧
      ∃ mixed, events = mixed.map (·.2) ∧ m.SideBySide condition buckets worlds ends mixed

/-- What the events of a run tell of its buckets. Each has the events that it has alone, whatever the others do, and
is announced once as finished. -/
structure Attended (m : Migration σ) (condition : Option String) (buckets : List (List SizedTable))
    (worlds : Nat → World σ) (ended : Nat → Except Fault Unit) (mixed : List (Nat × Event)) : Prop where
  within : ∀ entry ∈ mixed, entry.1 < buckets.length
  alone : ∀ index (below : index < buckets.length), ∃ last,
    (m.runBucket condition index buckets[index]).Runs (worlds index) (.ok (ended index)) (ofBucket index mixed) last
  handled : ∀ index (below : index < buckets.length), ∃ work,
    m.Handled condition index buckets[index] (ended index) work ∧
      ofBucket index mixed = work ++ [.announced (finished index (ended index))]

theorem SideBySide.attended (recorded : m.listeners.count .recorder = 1) {buckets : List (List SizedTable)}
    {worlds : Nat → World σ} {ends : Ends} {mixed : List (Nat × Event)}
    (sideBySide : m.SideBySide condition buckets worlds ends mixed) :
    ∃ ended : Nat → Except Fault Unit, m.Attended condition buckets worlds ended mixed ∧
      failures ends = failuresUpTo buckets.length ended := by
  choose! ended last found runs using sideBySide.runs
  refine ⟨ended, ⟨sideBySide.within, fun index below => ⟨last index below, runs index below⟩, ?_⟩,
    failures_eq sideBySide.ended found⟩
  intro index below
  obtain ⟨result, work, same, handled, events⟩ :=
    (runs index below).met (ensures_runBucket recorded index (worlds index))
  cases same
  exact ⟨work, handled, events⟩

/-! Runs on a target that goes along with transactions. -/

theorem Handled.transacted_of (transacts : m.target.db.Transacts) {index : Nat} {result : Except Fault Unit}
    {work : List Event} (handled : m.Handled condition index bucket result work) :
    m.Transacted condition index bucket result work := by
  cases handled with
  | transacted transacted => exact transacted
  | unconnected fault state refused =>
      rw [transacts.connect] at refused
      cases refused
  | unbegun fault state refused =>
      rw [transacts.begin] at refused
      cases refused

theorem Transacted.frames (transacts : m.target.db.Transacts) {index : Nat} {result : Except Fault Unit}
    {work : List Event} (transacted : m.Transacted condition index bucket result work) :
    work.filter Event.isFrame =
      [.sent m.target.db.label .begin, .sent m.target.db.label (if result.isOk then .commit else .rollback)] := by
  rcases transacted with ⟨start, moved, inner, middle, _, rfl, inside, rfl⟩
  have none_inside : inner.filter Event.isFrame = [] := by
    rw [List.filter_eq_nil_iff]
    intro event member
    rw [inside event member]
    exact Bool.false_ne_true
  rw [List.filter_append, List.filter_append, none_inside]
  cases moved with
  | ok count =>
      rw [Database.ending, transacts.commit]
      rfl
  | error fault =>
      rw [Database.ending]
      cases (m.target.db.rollback middle.state).1 <;> rfl

/-- What the events of a run tell of its buckets on a target that goes along with transactions: those of a bucket are
those of one transaction, which is committed exactly if the bucket did not fail, and one announcement of its end. -/
structure Committed (m : Migration σ) (condition : Option String) (buckets : List (List SizedTable))
    (worlds : Nat → World σ) (ended : Nat → Except Fault Unit) (mixed : List (Nat × Event)) : Prop
    extends m.Attended condition buckets worlds ended mixed where
  transacted : ∀ index (below : index < buckets.length), ∃ work,
    m.Transacted condition index buckets[index] (ended index) work ∧
      ofBucket index mixed = work ++ [.announced (finished index (ended index))]
  frames : ∀ index, index < buckets.length →
    (ofBucket index mixed).filter Event.isFrame =
      [.sent m.target.db.label .begin,
        .sent m.target.db.label (if (ended index).isOk then .commit else .rollback),
        .announced (finished index (ended index))]

theorem Attended.committed (transacts : m.target.db.Transacts) {buckets : List (List SizedTable)}
    {worlds : Nat → World σ} {ended : Nat → Except Fault Unit} {mixed : List (Nat × Event)}
    (attended : m.Attended condition buckets worlds ended mixed) :
    m.Committed condition buckets worlds ended mixed := by
  have transacted (index : Nat) (below : index < buckets.length) : ∃ work,
      m.Transacted condition index buckets[index] (ended index) work ∧
        ofBucket index mixed = work ++ [.announced (finished index (ended index))] := by
    obtain ⟨work, handled, events⟩ := attended.handled index below
    exact ⟨work, handled.transacted_of transacts, events⟩
  refine ⟨attended, transacted, ?_⟩
  intro index below
  obtain ⟨work, framed, events⟩ := transacted index below
  rw [events, List.filter_append, framed.frames transacts]
  cases ended index with
  | ok value => rfl
  | error fault => rfl

/-- Runs buckets, each with its number, one after the other. -/
def inOrder (m : Migration σ) (condition : Option String) (jobs : List (List SizedTable × Nat)) : Job σ Ends :=
  jobs.mapM fun (bucket, index) => do
    let result ← m.runBucket condition index bucket
    pure (index, result)

theorem inOrder_cons (index : Nat) (rest : List (List SizedTable × Nat)) :
    m.inOrder condition ((bucket, index) :: rest) = (do
      let result ← m.runBucket condition index bucket
      let ends ← m.inOrder condition rest
      pure ((index, result) :: ends)) := by
  unfold inOrder
  rw [List.mapM_cons, bind_assoc]
  rfl

/-- The world from which each of the buckets runs. -/
def startsOf (m : Migration σ) (condition : Option String) :
    List (List SizedTable × Nat) → World σ → Nat → World σ
  | [], world, _ => world
  | (bucket, index) :: rest, world, asked =>
    if asked = index then world
    else m.startsOf condition rest ((m.runBucket condition index bucket).run world).2 asked

/-- The mixture of buckets that ran one after the other. -/
structure OneByOne (m : Migration σ) (condition : Option String) (jobs : List (List SizedTable × Nat))
    (world : World σ) (ends : Ends) (mixed : List (Nat × Event)) : Prop where
  ended : ends.map (·.1) = jobs.map (·.2)
  within : ∀ entry ∈ mixed, entry.1 ∈ jobs.map (·.2)
  runs : ∀ job ∈ jobs, ∃ result last, (job.2, result) ∈ ends ∧
    (m.runBucket condition job.2 job.1).Runs (m.startsOf condition jobs world job.2) (.ok result)
      (ofBucket job.2 mixed) last

theorem OneByOne.cons {jobs : List (List SizedTable × Nat)} {index : Nat} {world middle : World σ}
    {result : Except Fault Unit} {events : List Event} {ends : Ends} {mixed : List (Nat × Event)}
    (later : m.OneByOne condition jobs middle ends mixed) (apart : index ∉ jobs.map (·.2))
    (runs : (m.runBucket condition index bucket).Runs world (.ok result) events middle) :
    m.OneByOne condition ((bucket, index) :: jobs) world ((index, result) :: ends)
      (events.map (fun event => (index, event)) ++ mixed) where
  ended := congrArg (index :: ·) later.ended
  within := by
    intro entry member
    rcases List.mem_append.mp member with own | other
    · obtain ⟨event, _, rfl⟩ := List.mem_map.mp own
      exact List.mem_cons_self
    · exact List.mem_cons_of_mem _ (later.within entry other)
  runs := by
    intro job member
    rcases List.mem_cons.mp member with rfl | behind
    · have absent : ofBucket index mixed = [] :=
        ofBucket_absent fun entry among same => apart (same ▸ later.within entry among)
      refine ⟨result, middle, List.mem_cons_self, ?_⟩
      rw [ofBucket_append, ofBucket_own, absent, List.append_nil, startsOf, if_pos rfl]
      exact runs
    · have other : job.2 ≠ index := fun same => apart (same ▸ List.mem_map_of_mem behind)
      have absent : ofBucket job.2 (events.map fun event => (index, event)) = [] := by
        apply ofBucket_absent
        intro entry among
        obtain ⟨event, _, rfl⟩ := List.mem_map.mp among
        exact other.symm
      obtain ⟨result, last, found, alone⟩ := later.runs job behind
      refine ⟨result, last, List.mem_cons_of_mem _ found, ?_⟩
      rw [ofBucket_append, absent, List.nil_append, startsOf, if_neg other, runs.1]
      exact alone

theorem ensures_inOrder (jobs : List (List SizedTable × Nat)) (apart : (jobs.map (·.2)).Nodup) (world : World σ) :
    (m.inOrder condition jobs).Ensures world fun result events _ =>
      ∃ ends mixed, result = .ok ends ∧ events = mixed.map (·.2) ∧
        m.OneByOne condition jobs world ends mixed := by
  induction jobs generalizing world with
  | nil => exact (Job.ensures_pure _).mpr ⟨[], [], rfl, rfl, rfl, nofun, nofun⟩
  | cons job rest ih =>
      rcases job with ⟨bucket, index⟩
      rw [List.map_cons, List.nodup_cons] at apart
      rw [inOrder_cons]
      apply Job.ensures_bind
      apply (ensures_runBucket_told m condition index bucket world).runs.imp
      intro _ events middle outcome
      rcases outcome with ⟨runs, result, _, rfl, _⟩
      apply Job.ensures_bind
      apply (ih apart.2 middle).imp
      intro _ more final outcome
      rcases outcome with ⟨ends, mixed, rfl, rfl, later⟩
      refine (Job.ensures_pure _).mpr ⟨_, _, rfl, ?_, later.cons apart.1 runs⟩
      simp [Function.comp_def]

/-- Buckets that run one after the other, in any order, are buckets that run side by side. -/
theorem concurrent_inOrder (m : Migration σ) (condition : Option String) {buckets : List (List SizedTable)}
    (arrange : List (List SizedTable) → List (List SizedTable × Nat)) (perm : (arrange buckets).Perm buckets.zipIdx)
    (world : World σ) :
    m.Concurrent condition (fun buckets => m.inOrder condition (arrange buckets))
      (m.startsOf condition (arrange buckets) world) buckets world := by
  have numbers : (buckets.zipIdx.map (·.2)) = List.range buckets.length := by
    rw [List.zipIdx_map_snd, List.range_eq_range']
  have ended := (perm.map (·.2)).trans (.of_eq numbers)
  have apart : ((arrange buckets).map (·.2)).Nodup := ended.nodup_iff.mpr List.nodup_range
  apply (ensures_inOrder (arrange buckets) apart world).imp
  intro result events final outcome
  rcases outcome with ⟨ends, mixed, rfl, rfl, oneByOne⟩
  refine ⟨ends, rfl, mixed, rfl, ?_, ?_, ?_⟩
  · rw [oneByOne.ended]
    exact ended
  · intro entry member
    exact List.mem_range.mp (ended.mem_iff.mp (oneByOne.within entry member))
  · intro index below
    have present : (buckets[index], index) ∈ arrange buckets :=
      perm.mem_iff.mpr (List.mem_zipIdx_iff_getElem?.mpr (List.getElem?_eq_getElem below))
    exact oneByOne.runs _ present

/-- The run of a migration takes the buckets one after the other. -/
theorem run_eq (m : Migration σ) (tables : List SizedTable) (workers : Int) :
    m.run tables workers condition = m.runOn (fun buckets => m.inOrder condition buckets.zipIdx) tables workers :=
  rfl

/-- A migration whose source refuses all connections, and which leaves large tables alone. -/
def refusing : Migration Unit :=
  let w := Worker.refusedWorker
  { source := w.source, target := w.target, compiler := w.compiler, listeners := [.recorder],
    strategy := { w.strategy with maxRows := some 8 } }

def refusingTables : List SizedTable := [⟨"orders", some 9⟩, ⟨"items", none⟩, ⟨"notes", none⟩]

theorem partition_refusingTables :
    partition refusingTables 3 = [[⟨"orders", some 9⟩], [⟨"items", none⟩], [⟨"notes", none⟩]] := by
  unfold partition
  rw [List.mergeSort_of_pairwise (by decide)]
  rfl

theorem moveTables_large (world : World Unit) :
    (((refusing.worker 0).moveTables [⟨"orders", some 9⟩] none).run world).1 = .ok 0 :=
  rfl

theorem moveTables_refused (index : Nat) (name : String) (world : World Unit) :
    (((refusing.worker index).moveTables [⟨name, none⟩] none).run world).1 =
      .error (.single .database "refused") :=
  rfl

/-- The target accepts how a transaction is ended. -/
theorem Transacted.ended_refusing {index : Nat} {result : Except Fault Unit} {work : List Event}
    {moved : Except Fault Nat} (transacted : refusing.Transacted none index bucket result work)
    (moves : ∀ world, (((refusing.worker index).moveTables bucket none).run world).1 = moved) :
    moved.map (fun _ => ()) = result := by
  rcases transacted with ⟨start, given, inner, middle, runs, rfl, _, _⟩
  have same : given = moved := (congrArg Prod.fst runs.1).symm.trans (moves start)
  rw [same]
  cases moved <;> rfl

end Migration

end TableFerry
