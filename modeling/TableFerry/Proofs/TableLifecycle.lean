import TableFerry.Proofs.Requests
/-! The course of the tables of a bucket. Of all that a worker announces, the marks are what begins a table and
what ends it. A run leaves for every table that it begins one such pair, in the order of the bucket, and stops
behind the first failure only where failures are not passed over. -/

namespace TableFerry

/-- Whether an event begins or ends a table. -/
def Lifecycle.isMark : Lifecycle → Bool
  | started .. | skipped .. | succeeded .. | tolerated .. | failed .. => true
  | created .. | pageCopied .. | bucketFinished .. => false

def Lifecycle.isFailure : Lifecycle → Bool
  | failed .. => true
  | _ => false

def Event.mark? : Event → Option Lifecycle
  | .announced event => if event.isMark then some event else none
  | _ => none

def Event.marks (events : List Event) : List Lifecycle := events.filterMap mark?

theorem Event.marks_append (before after : List Event) : marks (before ++ after) = marks before ++ marks after :=
  List.filterMap_append

/-- How a table ends. -/
inductive Ending where
  | skipped (reason : String)
  | succeeded (rows : Int) (elapsed : Value)
  | tolerated (stage : Stage) (error : String)
  | failed (stage : Stage) (fault : Fault)

namespace Ending

def isFailed : Ending → Bool
  | failed .. => true
  | _ => false

/-- How an ending is announced. -/
def event (bucket : Int) (name : String) (position total : Int) : Ending → Lifecycle
  | skipped reason => .skipped bucket name reason
  | succeeded rows elapsed => .succeeded bucket name position total rows elapsed
  | tolerated stage error => .tolerated bucket name stage error
  | failed stage fault => .failed bucket name stage fault.text

theorem isFailure_event (bucket : Int) (name : String) (position total : Int) (ending : Ending) :
    (ending.event bucket name position total).isFailure = ending.isFailed := by
  cases ending <;> rfl

end Ending

namespace Job

variable {σ α β : Type} {job : Job σ α} {good : α → Prop}

/-- An event that neither begins nor ends a table. -/
def Quiet (event : Event) : Prop := event.mark? = none

/-- The result of every run meets `post` together with the marks that the run leaves. -/
def Marks (job : Job σ α) (post : Except Fault α → List Lifecycle → Prop) : Prop :=
  ∀ world, job.Ensures world fun result events _ => post result (Event.marks events)

variable {post : Except Fault α → List Lifecycle → Prop}

theorem marks_pure {value : α} (met : post (.ok value) []) : (pure value : Job σ α).Marks post :=
  fun _ => (ensures_pure value).mpr met

theorem marks_throw {fault : Fault} (met : post (.error fault) []) : (throw fault : Job σ α).Marks post :=
  fun _ => (ensures_throw fault).mpr met

theorem Marks.bind {next : α → Job σ β} {last : Except Fault β → List Lifecycle → Prop}
    (first : job.Marks post) (error : ∀ fault marks, post (.error fault) marks → last (.error fault) marks)
    (ok : ∀ value marks, post (.ok value) marks →
      (next value).Marks fun result more => last result (marks ++ more)) :
    (job >>= next).Marks last := by
  intro world
  apply (first world).bind
  · intro value events middle met
    apply (ok value _ met middle).imp
    intro result more _ reached
    rwa [Event.marks_append]
  · intro fault events middle met
    exact error fault _ met

/-- A job that keeps quiet leaves no marks. -/
theorem Keeps.marks (quiet : job.Keeps Quiet good) :
    job.Marks fun result marks => marks = [] ∧ ∀ value, result = .ok value → good value := by
  intro world
  apply (quiet world).imp
  intro result events _ outcome
  rcases outcome with ⟨events_quiet, value_good⟩
  exact ⟨List.filterMap_eq_nil_iff.mpr events_quiet, value_good⟩

theorem Keeps.marks_bind {next : α → Job σ β} {last : Except Fault β → List Lifecycle → Prop}
    (quiet : job.Keeps Quiet good) (error : ∀ fault, last (.error fault) [])
    (ok : ∀ value, good value → (next value).Marks last) : (job >>= next).Marks last := by
  apply quiet.marks.bind
  · intro fault _ outcome
    rcases outcome with ⟨rfl, _⟩
    exact error fault
  · intro value _ outcome
    rcases outcome with ⟨rfl, value_good⟩
    exact ok value (value_good value rfl)

/-- A step that adds no event and cannot fail. -/
theorem marks_step {next : α → Job σ β} {last : Except Fault β → List Lifecycle → Prop}
    (silent : ∀ world, job.Ensures world fun result events _ => events = [] ∧ ∃ value, result = .ok value)
    (ok : ∀ value, (next value).Marks last) : (job >>= next).Marks last := by
  intro world
  apply ensures_bind
  apply (silent world).imp
  intro result events middle outcome
  rcases outcome with ⟨rfl, value, rfl⟩
  exact ok value middle

theorem marks_announce {listeners : List Listener} (recorded : listeners.count .recorder = 1)
    {event : Lifecycle} (mark : event.isMark = true) :
    (announce listeners event : Job σ Unit).Marks fun result marks => result = .ok () ∧ marks = [event] := by
  intro world
  apply (ensures_announce listeners event world).imp
  intro result events _ outcome
  rcases outcome with ⟨rfl, rfl, _⟩
  refine ⟨rfl, ?_⟩
  rw [recorded]
  simp [Event.marks, Event.mark?, mark]

/-- Announcing a mark, and what follows. -/
theorem marks_announce_bind {listeners : List Listener} (recorded : listeners.count .recorder = 1)
    {event : Lifecycle} (mark : event.isMark = true) {next : Unit → Job σ β}
    {last : Except Fault β → List Lifecycle → Prop}
    (then_ : (next ()).Marks fun result marks => last result (event :: marks)) :
    (announce listeners event >>= next).Marks last := by
  apply (marks_announce recorded mark).bind
  · intro fault marks outcome
    rcases outcome with ⟨given, _⟩
    cases given
  · intro value _ outcome
    rcases outcome with ⟨_, rfl⟩
    exact then_

theorem Marks.attempt (marked : job.Marks post) :
    job.attempt.Marks fun result marks => ∃ inner, result = .ok inner ∧ post inner marks := by
  intro world
  rw [ensures_attempt]
  apply (marked world).imp
  intro result events _ met
  exact ⟨result, rfl, met⟩

theorem Marks.attempt_bind {next : Except Fault α → Job σ β} {last : Except Fault β → List Lifecycle → Prop}
    (marked : job.Marks post)
    (then_ : ∀ result marks, post result marks →
      (next result).Marks fun final more => last final (marks ++ more)) :
    (job.attempt >>= next).Marks last := by
  apply marked.attempt.bind
  · intro fault marks outcome
    rcases outcome with ⟨inner, given, _⟩
    cases given
  · intro value marks outcome
    rcases outcome with ⟨_, ⟨⟩, met⟩
    exact then_ value marks met

end Job

namespace Worker

variable {σ : Type} {w : Worker σ} {condition : Option String}

open Job (Marks Quiet)

theorem allows_quiet (w : Worker σ) (condition : Option String) : w.Allows condition Quiet where
  asks := fun _ _ => rfl
  tends := fun _ _ => rfl
  created := fun _ _ => rfl
  pageCopied := fun _ _ _ _ => rfl

theorem marks_inSavepoint {α : Type} {job : Job σ α} {post : Except Fault α → List Lifecycle → Prop}
    (marked : job.Marks post) : (w.inSavepoint job).Marks post := by
  intro world
  unfold inSavepoint
  split
  · apply Database.ensures_bracket
    apply (marked _).imp
    intro result events final met
    have same (request : Request) :
        Event.marks (.sent w.target.db.label .savepoint :: events ++ [.sent w.target.db.label request]) =
          Event.marks events := by
      rw [Event.marks_append]
      exact List.append_nil _
    cases result with
    | ok value =>
        dsimp only
        rwa [same]
    | error fault =>
        dsimp only
        rwa [same]
  · exact marked world

/-- A table that is skipped has its mark; any other result comes without one. -/
def MarksSkip (w : Worker σ) (name : String) (result : Except Fault (Option Nat)) (marks : List Lifecycle) :
    Prop :=
  (result = .ok none ∧ ∃ reason, marks = [.skipped w.bucket name reason]) ∨ (result ≠ .ok none ∧ marks = [])

theorem marks_moveContents (recorded : w.listeners.count .recorder = 1) (table : SizedTable) :
    (w.moveContents table condition).Marks (w.MarksSkip table.name) := by
  have allows := w.allows_quiet condition
  have skip (reason : String) : (do
      w.announce (.skipped w.bucket table.name reason)
      pure none : Job σ (Option Nat)).Marks (w.MarksSkip table.name) :=
    Job.marks_announce_bind recorded rfl (Job.marks_pure (Or.inl ⟨rfl, reason, rfl⟩))
  have failing (fault : Fault) : w.MarksSkip table.name (.error fault) [] := Or.inr ⟨nofun, rfl⟩
  apply (Job.keeps_enter _).marks_bind failing
  intro _ _
  apply (allows.keeps_withConnection (allows.keeps_findSource _ _)).marks_bind failing
  intro found _
  cases found with
  | none =>
      apply (Job.keeps_note _ _).marks_bind failing
      intro _ _
      exact skip _
  | some source =>
      apply (Job.keeps_enter _).marks_bind failing
      intro _ _
      apply (allows.keeps_findTarget _ _).marks_bind failing
      intro existing _
      split
      · apply (Job.keeps_note _ _).marks_bind failing
        intro _ _
        exact skip _
      · apply (Job.keeps_enter _).marks_bind failing
        intro _ _
        apply (allows.keeps_rebuild source existing (fun _ _ _ _ => rfl) (fun _ _ _ _ _ => rfl)).marks_bind
          failing
        intro target _
        split
        · exact Job.marks_pure (Or.inr ⟨nofun, rfl⟩)
        · apply (Job.keeps_enter _).marks_bind failing
          intro _ _
          apply (allows.keeps_copyRows table source target fun _ _ => rfl).marks_bind failing
          intro rows _
          apply (Job.keeps_enter _).marks_bind failing
          intro _ _
          exact Job.marks_pure (Or.inr ⟨nofun, rfl⟩)

/-- What a table that ended gives: a failure that is not passed over is raised as it is. -/
def resultOf (w : Worker σ) : Ending → Except Fault Bool
  | .failed _ fault => if w.strategy.continueOnError.truthy then .ok false else .error fault
  | _ => .ok true

/-- The marks of one table: its beginning and its end. Only an error that workers do not handle goes without
an end. -/
def Ended (w : Worker σ) (table : SizedTable) (position total : Int) (result : Except Fault Bool)
    (marks : List Lifecycle) : Prop :=
  (∃ ending : Ending, result = w.resultOf ending ∧
    marks = [.started w.bucket table.name position total,
      ending.event w.bucket table.name position total]) ∨
  ∃ fault, fault.kind.isHandled = false ∧ result = .error fault ∧
    marks = [.started w.bucket table.name position total]

theorem marks_endFailed (recorded : w.listeners.count .recorder = 1) (table : SizedTable)
    (position total : Int) (fault : Fault) :
    (w.endFailed table.name fault).Marks fun result marks =>
      w.Ended table position total result (.started w.bucket table.name position total :: marks) := by
  unfold endFailed
  cases handled : fault.kind.isHandled with
  | false => exact Job.marks_throw (Or.inr ⟨fault, handled, rfl, rfl⟩)
  | true =>
      apply Job.marks_step fun world => Job.ensures_get.mpr ⟨rfl, world, rfl⟩
      intro world
      apply Job.marks_step fun _ => (Job.ensures_noteAll _).mpr ⟨rfl, (), rfl⟩
      intro _
      split
      · apply Job.marks_announce_bind recorded rfl
        exact Job.marks_pure (Or.inl ⟨.tolerated world.stage fault.text, rfl, rfl⟩)
      · apply Job.marks_announce_bind recorded rfl
        have failed : w.resultOf (.failed world.stage fault) =
            if w.strategy.continueOnError.truthy then .ok false else .error fault := rfl
        cases continues : w.strategy.continueOnError.truthy with
        | true =>
            rw [continues] at failed
            exact Job.marks_pure (Or.inl ⟨.failed world.stage fault, failed.symm, rfl⟩)
        | false =>
            rw [continues] at failed
            exact Job.marks_throw (Or.inl ⟨.failed world.stage fault, failed.symm, rfl⟩)

theorem marks_moveTable (recorded : w.listeners.count .recorder = 1) (table : SizedTable)
    (position total : Int) :
    (w.moveTable table position total condition).Marks (w.Ended table position total) := by
  apply Job.marks_step fun _ => (Job.ensures_enter _).mpr ⟨rfl, (), rfl⟩
  intro _
  apply Job.marks_announce_bind recorded rfl
  split
  · rename_i reason _
    apply Job.marks_announce_bind recorded rfl
    exact Job.marks_pure (Or.inl ⟨.skipped reason, rfl, rfl⟩)
  · apply Job.marks_step fun world => Job.ensures_clock.mpr ⟨rfl, _, rfl⟩
    intro started
    apply (marks_inSavepoint (marks_moveContents recorded table)).attempt_bind
    intro result marks outcome
    rcases outcome with ⟨rfl, reason, rfl⟩ | ⟨moved, rfl⟩
    · exact Job.marks_pure (Or.inl ⟨.skipped reason, rfl, rfl⟩)
    · cases result with
      | error fault => exact marks_endFailed recorded table position total fault
      | ok rows =>
          cases rows with
          | none => exact absurd rfl moved
          | some rows =>
              apply Job.marks_step fun world => Job.ensures_clock.mpr ⟨rfl, _, rfl⟩
              intro now
              apply Job.marks_announce_bind recorded rfl
              exact Job.marks_pure (Or.inl ⟨.succeeded rows _, rfl, rfl⟩)

theorem resultOf_ok {ending : Ending} {passed : Bool} (given : w.resultOf ending = .ok passed) :
    passed = !ending.isFailed ∧ (w.strategy.continueOnError.truthy = false → ending.isFailed = false) := by
  cases ending with
  | failed stage fault =>
      rw [resultOf] at given
      cases continues : w.strategy.continueOnError.truthy with
      | true =>
          rw [continues] at given
          cases given
          exact ⟨rfl, nofun⟩
      | false =>
          rw [continues] at given
          cases given
  | skipped reason => cases given; exact ⟨rfl, fun _ => rfl⟩
  | succeeded rows elapsed => cases given; exact ⟨rfl, fun _ => rfl⟩
  | tolerated stage error => cases given; exact ⟨rfl, fun _ => rfl⟩

theorem resultOf_error {ending : Ending} {fault : Fault} (given : w.resultOf ending = .error fault) :
    w.strategy.continueOnError.truthy = false ∧ ∃ stage, ending = .failed stage fault := by
  cases ending with
  | failed stage raised =>
      rw [resultOf] at given
      cases continues : w.strategy.continueOnError.truthy with
      | true =>
          rw [continues] at given
          cases given
      | false =>
          rw [continues] at given
          cases given
          exact ⟨rfl, stage, rfl⟩
  | skipped reason => cases given
  | succeeded rows elapsed => cases given
  | tolerated stage error => cases given

/-! Whole buckets. -/

/-- The marks of tables that ended, the first of them at `position`. -/
def courseOf (w : Worker σ) (total : Int) : Int → List (SizedTable × Ending) → List Lifecycle
  | _, [] => []
  | position, (table, ending) :: rest =>
    .started w.bucket table.name position total :: ending.event w.bucket table.name position total ::
      courseOf w total (position + 1) rest

theorem countP_courseOf (w : Worker σ) (total position : Int) (attempted : List (SizedTable × Ending)) :
    (w.courseOf total position attempted).countP Lifecycle.isFailure =
      attempted.countP fun entry => entry.2.isFailed := by
  induction attempted generalizing position with
  | nil => rfl
  | cons head tail ih =>
      rcases head with ⟨table, ending⟩
      rw [courseOf, List.countP_cons_of_neg (by simp [Lifecycle.isFailure]), List.countP_cons,
        List.countP_cons, ih, Ending.isFailure_event]

/-- All tables ended, or else the run stopped with the error of the first that failed. -/
def Concluded (w : Worker σ) (tables : List SizedTable) (attempted : List (SizedTable × Ending))
    (result : Except Fault Nat) : Prop :=
  (attempted.map (·.1) = tables ∧ result = .ok (attempted.countP fun entry => entry.2.isFailed) ∧
    (w.strategy.continueOnError.truthy = false → ∀ entry ∈ attempted, entry.2.isFailed = false)) ∨
  (w.strategy.continueOnError.truthy = false ∧ attempted.map (·.1) <+: tables ∧
    ∃ before table stage fault, attempted = before ++ [(table, .failed stage fault)] ∧
      (∀ entry ∈ before, entry.2.isFailed = false) ∧ result = .error fault)

theorem Concluded.cons {tables : List SizedTable} {attempted : List (SizedTable × Ending)} {failed : Nat}
    (concluded : w.Concluded tables attempted (.ok failed)) (table : SizedTable) {ending : Ending}
    {passed : Bool} (given : w.resultOf ending = .ok passed) :
    w.Concluded (table :: tables) ((table, ending) :: attempted) (.ok (failed + if passed then 0 else 1)) := by
  obtain ⟨rfl, none_failed⟩ := resultOf_ok given
  rcases concluded with ⟨all, count, passing⟩ | ⟨_, _, _, _, _, _, _, _, raised⟩
  · refine Or.inl ⟨by rw [List.map_cons, all], ?_, ?_⟩
    · cases count
      rw [List.countP_cons]
      cases ending.isFailed <;> rfl
    · intro stops entry member
      rcases List.mem_cons.mp member with rfl | later
      · exact none_failed stops
      · exact passing stops entry later
  · cases raised

theorem Concluded.cons_error {tables : List SizedTable} {attempted : List (SizedTable × Ending)}
    {fault : Fault} (concluded : w.Concluded tables attempted (.error fault)) (table : SizedTable)
    {ending : Ending} {passed : Bool} (given : w.resultOf ending = .ok passed) :
    w.Concluded (table :: tables) ((table, ending) :: attempted) (.error fault) := by
  obtain ⟨_, none_failed⟩ := resultOf_ok given
  rcases concluded with ⟨_, count, _⟩ | ⟨stops, some, before, last, stage, raised, rfl, passing, same⟩
  · cases count
  · refine Or.inr ⟨stops, ?_, (table, ending) :: before, last, stage, raised, rfl, ?_, same⟩
    · exact (List.prefix_cons_inj table).mpr some
    · intro entry member
      rcases List.mem_cons.mp member with rfl | later
      · exact none_failed stops
      · exact passing entry later

/-- The course of a run over tables. -/
def Course (w : Worker σ) (total position : Int) (tables : List SizedTable) (result : Except Fault Nat)
    (marks : List Lifecycle) : Prop :=
  (∃ attempted, marks = w.courseOf total position attempted ∧ w.Concluded tables attempted result) ∨
  ∃ fault, fault.kind.isHandled = false ∧ result = .error fault

/-- One table more in front of a run. -/
theorem Course.cons {total position : Int} {tables : List SizedTable} {result : Except Fault Nat}
    {marks : List Lifecycle} (course : w.Course total (position + 1) tables result marks)
    (table : SizedTable) {ending : Ending} {passed : Bool} (given : w.resultOf ending = .ok passed) :
    w.Course total position (table :: tables)
      (result.map fun failed => failed + if passed then 0 else 1)
      ([.started w.bucket table.name position total, ending.event w.bucket table.name position total] ++
        marks) := by
  rcases course with ⟨attempted, rfl, concluded⟩ | ⟨fault, unhandled, rfl⟩
  · refine Or.inl ⟨(table, ending) :: attempted, rfl, ?_⟩
    cases result with
    | ok failed => exact concluded.cons table given
    | error fault => exact concluded.cons_error table given
  · exact Or.inr ⟨fault, unhandled, rfl⟩

theorem marks_moveFrom (recorded : w.listeners.count .recorder = 1) (total position : Int)
    (tables : List SizedTable) :
    (w.moveFrom total condition position tables).Marks (w.Course total position tables) := by
  induction tables generalizing position with
  | nil => exact Job.marks_pure (Or.inl ⟨[], rfl, Or.inl ⟨rfl, rfl, fun _ => nofun⟩⟩)
  | cons table rest ih =>
      apply (marks_moveTable recorded table position total).bind
      · intro fault marks outcome
        rcases outcome with ⟨ending, raised, rfl⟩ | ⟨other, unhandled, given, _⟩
        · obtain ⟨stops, stage, rfl⟩ := resultOf_error raised.symm
          refine Or.inl ⟨[(table, .failed stage fault)], rfl, Or.inr ⟨stops, ?_, ?_⟩⟩
          · exact ⟨rest, rfl⟩
          · exact ⟨[], table, stage, fault, rfl, nofun, rfl⟩
        · cases given
          exact Or.inr ⟨fault, unhandled, rfl⟩
      · intro passed marks outcome
        rcases outcome with ⟨ending, given, rfl⟩ | ⟨_, _, given, _⟩
        · apply (ih (position + 1)).bind
          · intro fault marks course
            exact course.cons table given.symm
          · intro failed marks course
            apply Job.marks_pure
            rw [List.append_nil]
            exact course.cons table given.symm
        · cases given

/-- A worker whose source refuses every connection. -/
def refusedWorker : Worker Unit :=
  let still := Database.still "dst" "sqlite" (fun _ => none) fun _ => []
  let moving := between .sqlite
    { still with connect := fun state => (.error (.single .database "refused"), state) } still
  { moving with strategy := { moving.strategy with continueOnError := .bool false } }

end Worker

end TableFerry