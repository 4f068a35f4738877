import TableFerry.Proofs.Interleavings
import TableFerry.Proofs.TableTurns
/-! Tables that a run must leave alone: those that are too large or ignored, those that the source does not have, and
those that the target has already where such tables are passed over. In the turn of such a table nothing is sent but
reads of the catalogues and the savepoint of the table, and it is skipped, whatever the other tables of the bucket come
to. -/

namespace TableFerry

/-- Of what is announced only the marks of tables tell outcomes. -/
theorem Event.outcomes_heard (events : List Event) :
    (events.filterMap heard?).filterMap Lifecycle.outcome? = (marks events).filterMap Lifecycle.outcome? := by
  rw [marks, List.filterMap_filterMap, List.filterMap_filterMap]
  apply List.filterMap_congr
  intro event _
  cases event with
  | announced told => cases told <;> rfl
  | sent | pool | engine => rfl

/-- A report that hears how a table was begun and how it ended keeps the end. -/
theorem Report.Hears.lookup_of_marks {start final : Report} {events : List Event}
    (hears : Hears start (events.filterMap Event.heard?) final) {begun ended : Lifecycle} {name : String}
    {outcome : Outcome} (marks : Event.marks events = [begun, ended]) (silent : begun.outcome? = none)
    (tells : ended.outcome? = some (name, outcome)) :
    (final.outcomes.lookup name).map Outcome.timeless = some outcome := by
  have kept : final.timeless = putEntry name outcome start.timeless := by
    rw [hears.timeless_eq, Event.outcomes_heard, marks, List.filterMap_cons, silent, List.filterMap_cons, tells]
    rfl
  rw [← lookup_map, ← Report.timeless, kept, lookup_putEntry, if_pos rfl]

namespace Worker

variable {σ : Type} {w : Worker σ} {condition : Option String}

/-- The state in which a worker looks at a table that it begins in a state: there may be a savepoint in between. -/
def entered (w : Worker σ) (state : σ) : σ :=
  if w.compiler.transactional && w.inTransaction then w.target.db.savepoint state else state

/-- Why a table is not to be touched, by its name, by the rows that were counted, or by what the worker finds of it in
a state. -/
inductive Protected (w : Worker σ) (table : SizedTable) (state : σ) : Prop
  | large (exceeds : w.strategy.exceeds table.rows = true)
  | ignored (ignores : w.strategy.ignores table.name = true)
  | missing (found : w.finding table.name state = .ok .missing)
  | present (found : w.finding table.name state = .ok .present)

/-- What was found of a table does not lead on to a rebuild. -/
def Closed (found : Except Fault Finding) : Prop := ∀ source existing, found ≠ .ok (.open source existing)

/-- A table of which nothing else was found is left alone, and is skipped if it could be looked at. -/
def LeftAlone (w : Worker σ) (table : SizedTable) (found : Except Fault Finding) (result : Except Fault (Option Nat))
    (events : List Event) : Prop :=
  (∀ event ∈ events, w.Spares event) ∧
    (found.isOk = true → result = .ok none ∧
      ∃ reason, Event.marks events = [.skipped w.bucket table.name reason])

theorem ensures_moveContents_closed (recorded : w.listeners.count .recorder = 1) (table : SizedTable)
    (world : World σ) (closed : Closed (w.finding table.name world.state)) :
    (w.moveContents table condition).Ensures world fun result events _ =>
      w.LeftAlone table (w.finding table.name world.state) result events := by
  have skip (reason : String) (level : Level) (text : String) (events : List Event) (middle : World σ)
      (spares : ∀ event ∈ events, w.Spares event) (quiet : Event.marks events = []) :
      (do
        Job.note level text
        w.announce (.skipped w.bucket table.name reason)
        pure none : Job σ (Option Nat)).Ensures middle fun result more _ =>
          w.LeftAlone table (w.finding table.name world.state) result (events ++ more) := by
    apply Job.ensures_bind
    rw [Job.ensures_note]
    apply Job.ensures_bind
    apply (ensures_announced recorded _ _).imp
    intro result more final outcome
    rcases outcome with ⟨rfl, rfl, _⟩
    refine (Job.ensures_pure none).mpr ⟨?_, fun _ => ⟨rfl, reason, ?_⟩⟩
    · intro event member
      rcases List.mem_append.mp member with read | told
      · exact spares event read
      · cases List.mem_singleton.mp told
        exact trivial
    · rw [Event.marks_append, quiet]
      rfl
  rw [moveContents_eq]
  apply (w.ensures_inspect table.name world).bind
  · intro found events middle outcome
    rcases outcome with ⟨given, spares, quiet⟩
    cases found with
    | missing => exact skip _ _ _ events middle spares quiet
    | present => exact skip _ _ _ events middle spares quiet
    | «open» source existing => exact absurd given.symm (closed source existing)
  · intro fault events middle outcome
    rcases outcome with ⟨given, spares, _⟩
    refine ⟨spares, fun found => ?_⟩
    rw [← given] at found
    cases found

theorem ensures_inSavepoint_closed (recorded : w.listeners.count .recorder = 1) (table : SizedTable)
    (world : World σ) (closed : Closed (w.finding table.name (w.entered world.state))) :
    (w.inSavepoint (w.moveContents table condition)).Ensures world fun result events _ =>
      w.LeftAlone table (w.finding table.name (w.entered world.state)) result events := by
  have framed {result : Except Fault (Option Nat)} {events : List Event} {found : Except Fault Finding}
      {request : Request} (own : request = .release ∨ request = .rollbackTo)
      (alone : w.LeftAlone table found result events) :
      w.LeftAlone table found result
        (.sent w.target.db.label .savepoint :: events ++ [.sent w.target.db.label request]) := by
    refine ⟨?_, fun read => ?_⟩
    · intro event member
      rcases List.mem_append.mp member with inner | last
      · rcases List.mem_cons.mp inner with rfl | inside
        · exact Or.inr ⟨rfl, Or.inl rfl⟩
        · exact alone.1 event inside
      · cases List.mem_singleton.mp last
        exact Or.inr ⟨rfl, Or.inr (own.imp_right Or.inl)⟩
    · obtain ⟨skipped, reason, marks⟩ := alone.2 read
      refine ⟨skipped, reason, ?_⟩
      rw [Event.marks_append, ← marks]
      exact List.append_nil _
  unfold inSavepoint
  unfold entered at closed ⊢
  split
  · rename_i shielded
    rw [if_pos shielded] at closed
    apply Database.ensures_bracket
    apply (ensures_moveContents_closed recorded table _ closed).imp
    intro result events final alone
    cases result with
    | ok value => exact framed (Or.inl rfl) alone
    | error fault => exact framed (Or.inr rfl) alone
  · rename_i plain
    rw [if_neg plain] at closed
    exact ensures_moveContents_closed recorded table world closed

/-- The turn of a table of which nothing is found that leads on to a rebuild. -/
theorem ensures_moveTable_closed (recorded : w.listeners.count .recorder = 1) (table : SizedTable)
    (position total : Int) (world : World σ) (closed : Closed (w.finding table.name (w.entered world.state))) :
    (w.moveTable table position total condition).Ensures world fun result events _ =>
      (∀ event ∈ events, w.Spares event) ∧
        ((w.finding table.name (w.entered world.state)).isOk = true → result = .ok true ∧
          ∃ reason, Event.marks events =
            [.started w.bucket table.name position total, .skipped w.bucket table.name reason]) := by
  apply (ensures_moveTable recorded condition table position total world).imp
  intro result events final turn
  cases turn with
  | alone reason kept =>
      refine ⟨?_, fun _ => ⟨rfl, reason, rfl⟩⟩
      intro event member
      rcases List.mem_cons.mp member with rfl | last
      · exact trivial
      · cases List.mem_singleton.mp last
        exact trivial
  | @moved start middle _ moved _ inner closing begun runs kept closes =>
      rw [← begun] at closed ⊢
      obtain ⟨spares, skipped⟩ := runs.met (ensures_inSavepoint_closed recorded table start closed)
      refine ⟨?_, fun read => ?_⟩
      · intro event member
        rcases List.mem_append.mp member with before | told
        · rcases List.mem_cons.mp before with rfl | inside
          · exact trivial
          · exact spares event inside
        · obtain ⟨_, _, rfl⟩ := List.mem_map.mp told
          exact trivial
      · obtain ⟨rfl, reason, marks⟩ := skipped read
        cases closes
        refine ⟨rfl, reason, ?_⟩
        change Event.marks (.announced (.started w.bucket table.name position total) :: inner ++ []) = _
        rw [List.append_nil, ← marks]
        rfl

/-- A table with a reason to be skipped is never looked at. -/
theorem ensures_moveTable_reason (recorded : w.listeners.count .recorder = 1) {table : SizedTable} {reason : String}
    (skips : w.reasonToSkip table = some reason) (position total : Int) (world : World σ) :
    (w.moveTable table position total condition).Ensures world fun result events _ =>
      result = .ok true ∧
        events = [.announced (.started w.bucket table.name position total),
          .announced (.skipped w.bucket table.name reason)] := by
  apply Job.ensures_bind
  rw [Job.ensures_enter]
  apply Job.ensures_bind
  apply (ensures_announced recorded _ _).imp
  intro result events start outcome
  rcases outcome with ⟨rfl, rfl, _⟩
  dsimp only
  rw [skips]
  apply Job.ensures_bind
  apply (ensures_announced recorded _ _).imp
  intro result events final outcome
  rcases outcome with ⟨rfl, rfl, _⟩
  exact (Job.ensures_pure true).mpr ⟨rfl, rfl⟩

theorem reasonToSkip_isSome {table : SizedTable} (skips : w.strategy.skips table = true) :
    ∃ reason, w.reasonToSkip table = some reason := by
  unfold reasonToSkip
  unfold Strategy.skips at skips
  split
  · exact ⟨_, rfl⟩
  · rename_i within
    rw [Bool.not_eq_true] at within
    rw [within, Bool.false_or] at skips
    exact ⟨_, if_pos skips⟩

/-- A turn touches the table only if nothing protects it: a protected table is skipped, and neither for such a table
nor for one that cannot be looked at is anything sent but reads and the savepoint of the table. -/
structure Guards (w : Worker σ) (total : Int) (stint : Stint σ) : Prop where
  spares : w.Protected stint.table (w.entered stint.start.state) ∨
      (∃ fault, w.finding stint.table.name (w.entered stint.start.state) = .error fault) →
    ∀ event ∈ stint.events, w.Spares event
  skips : w.Protected stint.table (w.entered stint.start.state) →
    stint.result = .ok true ∧ ∃ reason,
      Event.marks stint.events =
        [.started w.bucket stint.table.name stint.position total, .skipped w.bucket stint.table.name reason] ∧
      (stint.final.report.outcomes.lookup stint.table.name).map Outcome.timeless =
        some { Report.outcome w.bucket stint.table.name .skipped with reason := some reason }

theorem Stint.Ran.hears (recorded : w.listeners.count .recorder = 1) (reported : w.listeners.count .reporter = 1)
    {total : Int} {stint : Stint σ} (ran : stint.Ran w total condition) :
    Report.Hears stint.start.report (stint.events.filterMap Event.heard?) stint.final.report := by
  have announces (event : Lifecycle) (_ : event.Concerns fun _ => True) :=
    Job.follows_announce_reports (σ := σ) recorded reported event
  exact ran.met (follows_moveTable Job.blind_reports announces (fun _ _ => trivial) condition stint.table
    stint.position total trivial stint.start)

theorem Stint.Ran.guards (recorded : w.listeners.count .recorder = 1) (reported : w.listeners.count .reporter = 1)
    {total : Int} {stint : Stint σ} (ran : stint.Ran w total condition) : w.Guards total stint := by
  have skipped (skips : w.strategy.skips stint.table = true) :
      (∀ event ∈ stint.events, w.Spares event) ∧ stint.result = .ok true ∧ ∃ reason, Event.marks stint.events =
        [.started w.bucket stint.table.name stint.position total, .skipped w.bucket stint.table.name reason] := by
    obtain ⟨reason, given⟩ := reasonToSkip_isSome skips
    obtain ⟨result, events⟩ := ran.met (ensures_moveTable_reason recorded given _ _ _)
    rw [events]
    refine ⟨?_, result, reason, rfl⟩
    intro event member
    rcases List.mem_cons.mp member with rfl | last
    · exact trivial
    · cases List.mem_singleton.mp last
      exact trivial
  have looked (closed : Closed (w.finding stint.table.name (w.entered stint.start.state))) :=
    ran.met (ensures_moveTable_closed recorded stint.table stint.position total stint.start closed)
  have closed_ok {found : Finding} (given : w.finding stint.table.name (w.entered stint.start.state) = .ok found)
      (closes : ∀ source existing, found ≠ .open source existing) :
      Closed (w.finding stint.table.name (w.entered stint.start.state)) := by
    intro source existing same
    rw [given] at same
    exact closes source existing (Except.ok.inj same)
  have alone (is_protected : w.Protected stint.table (w.entered stint.start.state)) :
      (∀ event ∈ stint.events, w.Spares event) ∧ stint.result = .ok true ∧ ∃ reason, Event.marks stint.events =
        [.started w.bucket stint.table.name stint.position total, .skipped w.bucket stint.table.name reason] := by
    cases is_protected with
    | large exceeds => exact skipped (Bool.or_eq_true_iff.mpr (Or.inl exceeds))
    | ignored ignores => exact skipped (Bool.or_eq_true_iff.mpr (Or.inr ignores))
    | missing found | present found =>
        obtain ⟨spares, skips⟩ := looked (closed_ok found (by intro _ _ same; cases same))
        exact ⟨spares, skips (by rw [found]; rfl)⟩
  constructor
  · rintro (is_protected | ⟨fault, unread⟩)
    · exact (alone is_protected).1
    · apply (looked _).1
      intro source existing same
      rw [unread] at same
      cases same
  · intro is_protected
    obtain ⟨_, result, reason, marks⟩ := alone is_protected
    exact ⟨result, reason, marks, (ran.hears recorded reported).lookup_of_marks marks rfl rfl⟩

end Worker

namespace Migration

variable {σ : Type} {m : Migration σ} {condition : Option String} {bucket : List SizedTable}

/-! Whole runs. -/

/-- What is sent and announced for a bucket as a whole: its connection, its transaction and its end. -/
def Framing (m : Migration σ) (index : Nat) (event : Event) : Prop :=
  (∃ request, event = .sent m.target.db.label request ∧
    (request.isTransaction = true ∨ request = .connect ∨ request = .close)) ∨
  ∃ result, event = .announced (finished index result)

/-- The events of a bucket: what frames it, and between that the stints of its tables, which are all of them if the
bucket ends well. -/
structure Divided (m : Migration σ) (condition : Option String) (index : Nat) (bucket : List SizedTable)
    (result : Except Fault Unit) (stints : List (Worker.Stint σ)) (events : List Event) : Prop where
  parts : ∃ opening closing, events = opening ++ stints.flatMap (·.events) ++ closing ∧
    ∀ event ∈ opening ++ closing, m.Framing index event
  ran : ∀ stint ∈ stints, stint.Ran (m.worker index) bucket.length condition
  tables : stints.map (·.table) <+: bucket
  complete : result.isOk = true → stints.map (·.table) = bucket

theorem Handled.divided {index : Nat} {result : Except Fault Unit} {work : List Event}
    (handled : m.Handled condition index bucket result work) :
    ∃ stints, m.Divided condition index bucket result stints (work ++ [.announced (finished index result)]) := by
  have ends : ∀ event ∈ [Event.announced (finished index result)], m.Framing index event := by
    intro event member
    rw [List.mem_singleton.mp member]
    exact Or.inr ⟨result, rfl⟩
  have sends {request : Request} (frames : request.isTransaction = true ∨ request = .connect ∨ request = .close) :
      m.Framing index (.sent m.target.db.label request) :=
    Or.inl ⟨request, rfl, frames⟩
  cases handled with
  | unconnected => exact ⟨[], ⟨[], _, rfl, ends⟩, by simp, List.nil_prefix, nofun⟩
  | unbegun =>
      refine ⟨[], ⟨[_, _, _], _, rfl, ?_⟩, by simp, List.nil_prefix, nofun⟩
      intro event member
      rcases List.mem_append.mp member with before | last
      · simp only [List.mem_cons, List.not_mem_nil, or_false] at before
        rcases before with rfl | rfl | rfl
        · exact sends (Or.inr (Or.inl rfl))
        · exact sends (Or.inl rfl)
        · exact sends (Or.inr (Or.inr rfl))
      · exact ends event last
  | transacted transacted =>
      rcases transacted with ⟨start, moved, inner, middle, runs, given, _, rfl⟩
      obtain ⟨stints, went, rfl⟩ :=
        runs.met (Worker.ensures_moveFrom (m.worker index) bucket.length condition 1 bucket start)
      refine ⟨stints, ⟨[.sent m.target.db.label .connect, .sent m.target.db.label .begin],
        [.sent m.target.db.label (if moved.isOk then .commit else .rollback), .sent m.target.db.label .close,
          .announced (finished index result)], by simp, ?_⟩, went.ran, went.tables_prefix, ?_⟩
      · intro event member
        simp only [List.mem_append, List.mem_cons, List.not_mem_nil, or_false] at member
        rcases member with (rfl | rfl) | rfl | rfl | rfl
        · exact sends (Or.inr (Or.inl rfl))
        · exact sends (Or.inl rfl)
        · cases moved <;> exact sends (Or.inl rfl)
        · exact sends (Or.inr (Or.inr rfl))
        · exact Or.inr ⟨_, rfl⟩
      · intro ended
        apply went.tables_eq
        rw [given] at ended
        cases moved with
        | ok => rfl
        | error fault =>
            cases answered : (m.target.db.rollback middle.state).1 <;>
              simp [Database.ending, answered, Except.bind, Except.map, Except.isOk, Except.toBool] at ended

theorem exceeds_none (strategy : Strategy) : strategy.exceeds none = false := by
  unfold Strategy.exceeds
  split
  · rename_i given
    cases given
  · rfl

theorem exceeds_ofCount {strategy : Strategy} {name : String} {count : Int} {table : SizedTable}
    (within : ¬ (decide (0 ≤ count) && strategy.exceeds (some count.toNat)) = true)
    (given : SizedTable.ofCount name count = .ok table) : strategy.exceeds table.rows = false := by
  unfold SizedTable.ofCount at given
  split at given
  · cases given
  · cases given
    dsimp only
    split
    · exact exceeds_none strategy
    · have counted : 0 ≤ count := by omega
      simpa [counted] using within

/-- Measuring a table counts its rows, or undoes the count that failed, and hands over no table of which it counted too
many rows. -/
theorem keeps_measured {allowed : Event → Prop} (m : Migration σ) (name : String)
    (counts : ∀ quoted, allowed (.sent m.source.db.label (.execute (Worker.query "count(*)" quoted none))))
    (undoes : allowed (.sent m.source.db.label .rollback)) :
    (m.measure name).Keeps allowed fun found => ∀ table ∈ found, m.strategy.exceeds table.rows = false := by
  unfold measure
  have counting : (do
      let quoted ← Job.ofExcept (m.source.qualifiedName name)
      m.source.db.number (Worker.query "count(*)" quoted none) : Job σ Int).Keeps allowed fun _ => True := by
    apply (Job.keeps_ofExcept fun _ _ => trivial).bind
    intro quoted _
    exact m.source.db.keeps_number (counts quoted)
  apply counting.attempt.bind
  intro counted _
  cases counted with
  | error fault =>
      dsimp only
      split
      · exact Job.keeps_throw_bind fault _
      · apply (Job.keeps_note _ _).bind
        intro _ _
        apply (Job.keeps_send undoes).bind
        intro _ _
        apply (Job.keeps_answer _).bind
        intro _ _
        apply Job.keeps_pure
        rintro _ ⟨⟩
        exact exceeds_none m.strategy
  | ok count =>
      dsimp only
      split
      · apply (Job.keeps_note _ _).bind
        intro _ _
        exact Job.keeps_pure nofun
      · rename_i within
        apply (Job.keeps_ofExcept fun table given => exceeds_ofCount within given).bind
        intro table small
        apply Job.keeps_pure
        rintro _ ⟨⟩
        exact small

/-- Measuring a table asks the source alone. -/
theorem keeps_measure (m : Migration σ) (name : String) :
    (m.measure name).Keeps (fun event => ∃ request, event = .sent m.source.db.label request) fun found =>
      ∀ table ∈ found, m.strategy.exceeds table.rows = false :=
  m.keeps_measured name (fun _ => ⟨_, rfl⟩) ⟨_, rfl⟩

/-- A migration that passes over large tables and over those that the target has, from a source that lacks one. -/
def sparing : Migration Unit :=
  let lone (name : String) := if name = "items" then some (Database.onlyId name) else none
  let w := Worker.between .sqlite (Database.still "src" "sqlite" lone fun _ => [])
    (Database.still "dst" "sqlite" (fun name => some (Database.onlyId name)) fun _ => [])
  { source := w.source, target := w.target, compiler := w.compiler, listeners := [.recorder],
    strategy := { w.strategy with maxRows := some 8, buildMode := .skipWhenExist } }

def sparingTables : List SizedTable := [⟨"orders", some 9⟩, ⟨"items", none⟩, ⟨"notes", none⟩]

end Migration

end TableFerry
