import TableFerry.Proofs.Transfers
/-! What is announced of tables that succeeded. A transfer that comes to an end gives the number of rows that it
inserted, and a table is announced as succeeded only behind such a transfer and with its number. -/

namespace TableFerry

/-- The number of rows that an event inserts. -/
def Event.insertedRows : Event → Nat
  | .sent _ (.insert _ rows) => rows.length
  | _ => 0

namespace Job

variable {σ α β : Type} {job : Job σ α} {post : α → Nat → Prop}

/-- The number of rows that events insert. -/
def rowsInserted : List Event → Nat
  | [] => 0
  | event :: rest => event.insertedRows + rowsInserted rest

theorem rowsInserted_append (before after : List Event) :
    rowsInserted (before ++ after) = rowsInserted before + rowsInserted after := by
  induction before with
  | nil => exact (Nat.zero_add _).symm
  | cons event rest ih => rw [List.cons_append, rowsInserted, rowsInserted, ih, Nat.add_assoc]

/-- A run that succeeds meets `post` with its value and the number of rows that it inserted. -/
def Inserts (job : Job σ α) (post : α → Nat → Prop) : Prop :=
  ∀ world, job.Ensures world fun result events _ => ∀ value, result = .ok value → post value (rowsInserted events)

theorem Inserts.bind {next : α → Job σ β} {last : β → Nat → Prop} (first : job.Inserts post)
    (then_ : ∀ value count, post value count →
      (next value).Inserts fun value more => last value (count + more)) : (job >>= next).Inserts last := by
  intro world
  apply (first world).bind
  · intro value events middle met
    apply (then_ value _ (met value rfl) middle).imp
    intro result more final reached value given
    rw [rowsInserted_append]
    exact reached value given
  · intro fault events middle _ value given
    cases given

theorem inserts_pure {value : α} (met : post value 0) : (pure value : Job σ α).Inserts post := by
  intro world
  rw [ensures_pure]
  intro _ given
  cases given
  exact met

theorem inserts_throw (fault : Fault) : (throw fault : Job σ α).Inserts post := by
  intro world
  rw [ensures_throw]
  intro _ given
  cases given

/-- An event that inserts nothing. -/
def Plain (_ : Bool) (_ : World σ) (events : List Event) (_ : World σ) : Prop :=
  ∀ event ∈ events, event.insertedRows = 0

theorem rowsInserted_plain {events : List Event} (plain : ∀ event ∈ events, event.insertedRows = 0) :
    rowsInserted events = 0 := by
  induction events with
  | nil => rfl
  | cons event rest ih =>
      rw [rowsInserted, plain event List.mem_cons_self,
        ih fun other among => plain other (List.mem_cons_of_mem event among)]

/-- A first step that inserts nothing. -/
theorem Follows.inserts_bind {next : α → Job σ β} {last : β → Nat → Prop} (plain : job.Follows Plain)
    (then_ : ∀ value, (next value).Inserts last) : (job >>= next).Inserts last := by
  have first : job.Inserts fun _ count => count = 0 := by
    intro world
    apply (plain world).imp
    intro result events final none_inserted value _
    exact rowsInserted_plain none_inserted
  apply first.bind
  intro value count none_inserted world
  apply (then_ value world).imp
  intro result more final reached value given
  rw [none_inserted, Nat.zero_add]
  exact reached value given

theorem Inserts.attempt_bind {next : Except Fault α → Job σ β} {last : β → Nat → Prop}
    (inserts : job.Inserts post) (error : ∀ fault, (next (.error fault)).Inserts fun _ _ => False)
    (ok : ∀ value count, post value count →
      (next (.ok value)).Inserts fun value more => last value (count + more)) :
    (job.attempt >>= next).Inserts last := by
  intro world
  apply ensures_bind
  rw [ensures_attempt]
  apply (inserts world).imp
  intro result events middle met
  cases result with
  | ok value =>
      apply (ok value _ (met value rfl) middle).imp
      intro result more final reached value given
      rw [rowsInserted_append]
      exact reached value given
  | error fault =>
      apply (error fault middle).imp
      intro result more final reached value given
      exact (reached value given).elim

end Job

namespace Worker

variable {σ : Type} {w : Worker σ} {condition : Option String}

theorem plain_announce (w : Worker σ) (event : Lifecycle) : (w.announce event).Follows Job.Plain :=
  Job.follows_announce_allowed _ rfl

/-- All that a worker does but insert inserts nothing. -/
theorem prepares_plain (w : Worker σ) : w.Prepares Job.Plain := by
  have announces (event : Lifecycle) (_ : event.Concerns fun _ => True) := w.plain_announce event
  apply prepares_of_blind (Job.blind_allowed fun event => event.insertedRows = 0) announces
  intro request _ plain label
  cases request <;> first | rfl | cases plain

/-- Inserting rows gives their number. -/
theorem inserts_insertRows (db : Database σ) (table : String) (rows : List Row) :
    (db.insertRows table rows).Inserts fun given inserted => inserted = given := by
  cases rows with
  | nil => exact Job.inserts_pure rfl
  | cons first rest =>
      intro world
      apply Job.ensures_bind
      rw [Job.ensures_send]
      apply Job.ensures_bind
      rw [Job.ensures_answer]
      split
      · refine (Job.ensures_pure _).mpr ?_
        intro _ given
        cases given
        simp [Job.rowsInserted, Event.insertedRows]
      · intro _ given
        cases given

theorem inserts_atPage {α : Type} {job : Job σ α} {post : α → Nat → Prop} (copying : Copying) (page : Nat)
    (inserts : job.Inserts post) : (atPage copying page job).Inserts post := by
  apply inserts.attempt_bind
  · intro fault
    dsimp only
    split
    · exact Job.inserts_throw _
    · exact Job.inserts_throw fault
  · intro value count met
    exact Job.inserts_pure met

theorem inserts_withConnection {α : Type} {job : Job σ α} {post : α → Nat → Prop} (db : Database σ)
    (inserts : job.Inserts post) : (db.withConnection job).Inserts post := by
  intro world
  apply Database.ensures_withConnection
  · intro fault state _ _ given
    cases given
  · intro state _
    apply (inserts _).imp
    intro result events final met value given
    have same : Job.rowsInserted (.sent db.label .connect :: events ++ [.sent db.label .close]) =
        Job.rowsInserted events := by
      rw [Job.rowsInserted_append]
      exact Nat.zero_add _
    rw [same]
    exact met value given

theorem inserts_inSavepoint {α : Type} {job : Job σ α} {post : α → Nat → Prop} (inserts : job.Inserts post) :
    (w.inSavepoint job).Inserts post := by
  unfold inSavepoint
  split
  · intro world
    apply Database.ensures_bracket
    apply (inserts _).imp
    intro result events final met
    cases result with
    | error fault =>
        intro _ given
        cases given
    | ok value =>
        have same : Job.rowsInserted
            (.sent w.target.db.label .savepoint :: events ++ [.sent w.target.db.label .release]) =
              Job.rowsInserted events := by
          rw [Job.rowsInserted_append]
          exact Nat.zero_add _
        dsimp only
        rw [same]
        exact met
  · exact inserts

theorem inserts_copyPage (w : Worker σ) (copying : Copying) (page pages : Nat) :
    (w.copyPage copying page pages).Inserts fun rows inserted => inserted = rows := by
  apply (w.prepares_plain.pages _ _ _ _).inserts_bind
  intro rows
  apply (inserts_insertRows _ _ _).bind
  intro given inserted same
  apply (w.plain_announce _).inserts_bind
  intro _
  exact Job.inserts_pure same

/-- The result of copying pages counts on from the rows of the pages before. -/
theorem inserts_copyPages (w : Worker σ) (copying : Copying) (pages left page copied : Nat) :
    (w.copyPages copying pages left page copied).Inserts fun total inserted => copied + inserted = total := by
  induction left generalizing page copied with
  | zero => exact Job.inserts_pure rfl
  | succ left ih =>
      apply (inserts_atPage copying page (w.inserts_copyPage copying page pages)).bind
      intro rows inserted same world
      apply (ih (page + 1) (copied + rows) world).imp
      intro result more final total value given
      rw [same, ← Nat.add_assoc]
      exact total value given

theorem inserts_fill (w : Worker σ) (copying : Copying) (count : Int) :
    (w.fill copying count).Inserts fun total inserted => inserted = total := by
  apply (w.prepares_plain.executes _).inserts_bind
  intro _
  split
  · apply (w.prepares_plain.note _ _).inserts_bind
    intro _
    exact Job.inserts_pure rfl
  · intro world
    apply (w.inserts_copyPages copying _ _ 0 0 world).imp
    intro result events final total value given
    rw [← total value given, Nat.zero_add]

theorem inserts_copyRows (w : Worker σ) (table : SizedTable) (source target : Table) (condition : Option String) :
    (w.copyRows table source target condition).Inserts fun total inserted => inserted = total := by
  apply (w.prepares_plain.ofExcept _).inserts_bind
  intro sourceName
  apply (w.prepares_plain.ofExcept _).inserts_bind
  intro order
  apply (w.prepares_plain.noteAll _).inserts_bind
  intro _
  apply inserts_atPage
  apply inserts_withConnection
  apply (w.prepares_plain.rowCount table sourceName condition).inserts_bind
  intro count
  exact w.inserts_fill _ count

/-- Moving the contents of a table gives the number of the rows that it inserted. -/
theorem inserts_moveContents (w : Worker σ) (table : SizedTable) (condition : Option String) :
    (w.moveContents table condition).Inserts fun moved inserted => ∀ rows, moved = some rows → inserted = rows := by
  have prepares := w.prepares_plain
  have skip (reason : String) : (do
      w.announce (.skipped w.bucket table.name reason)
      pure none : Job σ (Option Nat)).Inserts fun moved inserted =>
        ∀ rows, moved = some rows → inserted = rows := by
    apply (w.plain_announce _).inserts_bind
    intro _
    exact Job.inserts_pure nofun
  apply (prepares.enter _).inserts_bind
  intro _
  apply (prepares.connects (prepares.findTable prepares.looks _ _)).inserts_bind
  intro found
  cases found with
  | none =>
      apply (prepares.note _ _).inserts_bind
      intro _
      exact skip _
  | some source =>
      apply (prepares.enter _).inserts_bind
      intro _
      apply (prepares.findTable prepares.looksThere _ _).inserts_bind
      intro existing
      split
      · apply (prepares.note _ _).inserts_bind
        intro _
        exact skip _
      · apply (prepares.enter _).inserts_bind
        intro _
        apply (prepares.rebuild source existing).inserts_bind
        intro target
        split
        · apply Job.inserts_pure
          intro rows given
          cases given
          rfl
        · apply (prepares.enter _).inserts_bind
          intro _
          apply (w.inserts_copyRows table source target condition).bind
          intro rows inserted same
          apply (prepares.enter _).inserts_bind
          intro _
          apply Job.inserts_pure
          intro _ given
          cases given
          exact same

/-! What is announced of tables. -/

/-- Among the events are those of moving the contents of a table, which came to an end and inserted `rows` rows. -/
def Moved (w : Worker σ) (condition : Option String) (table : SizedTable) (rows : Nat) (events : List Event) : Prop :=
  ∃ before inner after start middle, events = before ++ inner ++ after ∧
    (w.inSavepoint (w.moveContents table condition)).Runs start (.ok (some rows)) inner middle ∧
    Job.rowsInserted inner = rows

theorem Moved.within {table : SizedTable} {rows : Nat} {events : List Event}
    (moved : w.Moved condition table rows events) (left right : List Event) :
    w.Moved condition table rows (left ++ events ++ right) := by
  rcases moved with ⟨before, inner, after, start, middle, rfl, runs, inserted⟩
  refine ⟨left ++ before, inner, after ++ right, start, middle, ?_, runs, inserted⟩
  simp only [List.append_assoc]

/-- Every table that is announced as succeeded is one of the tables, and its contents were moved with the rows that
are announced. -/
def Warrants (w : Worker σ) (condition : Option String) (tables : List SizedTable) (events : List Event) : Prop :=
  ∀ (bucket : Int) (name : String) (position total rows : Int) (elapsed : Value),
    .announced (.succeeded bucket name position total rows elapsed) ∈ events →
      bucket = w.bucket ∧ ∃ table ∈ tables, table.name = name ∧
        ∃ count : Nat, rows = count ∧ w.Moved condition table count events

theorem Warrants.append {tables others : List SizedTable} {events more : List Event}
    (first : w.Warrants condition tables events) (second : w.Warrants condition others more) :
    w.Warrants condition (tables ++ others) (events ++ more) := by
  intro bucket name position total rows elapsed member
  rcases List.mem_append.mp member with early | late
  · obtain ⟨own, table, among, named, count, same, moved⟩ := first bucket name position total rows elapsed early
    exact ⟨own, table, List.mem_append_left _ among, named, count, same, by simpa using moved.within [] more⟩
  · obtain ⟨own, table, among, named, count, same, moved⟩ := second bucket name position total rows elapsed late
    exact ⟨own, table, List.mem_append_right _ among, named, count, same, by simpa using moved.within events []⟩

theorem ensures_moveTable_warrants (recorded : w.listeners.count .recorder = 1) (table : SizedTable)
    (position total : Int) (world : World σ) :
    (w.moveTable table position total condition).Ensures world fun _ events _ =>
      w.Warrants condition [table] events := by
  apply (ensures_moveTable recorded condition table position total world).imp
  intro result events final turn bucket name place all rows elapsed member
  cases turn with
  | alone reason kept => simp at member
  | @moved start middle _ moved _ inner closing begun runs kept closes =>
      have marked := runs.met (marks_inSavepoint (marks_moveContents recorded table) start)
      have inserted := runs.met (inserts_inSavepoint (w.inserts_moveContents table condition) start)
      have not_inner : .announced (.succeeded bucket name place all rows elapsed) ∉ inner := by
        intro among
        have mark : .succeeded bucket name place all rows elapsed ∈ Event.marks inner :=
          List.mem_filterMap.mpr ⟨_, among, rfl⟩
        rcases marked with ⟨_, reason, only⟩ | ⟨_, none_left⟩
        · rw [only] at mark
          cases List.mem_singleton.mp mark
        · rw [none_left] at mark
          cases mark
      have closing_member : .succeeded bucket name place all rows elapsed ∈ closing := by
        simpa [not_inner] using member
      cases closes with
      | succeeded count spent =>
          cases List.mem_singleton.mp closing_member
          refine ⟨rfl, table, List.mem_cons_self, rfl, count, rfl, ?_⟩
          exact ⟨[_], inner, _, start, middle, rfl, runs, inserted _ rfl count rfl⟩
      | skipped | raised => cases closing_member
      | tolerated | failed => cases List.mem_singleton.mp closing_member

theorem ensures_moveTables_warrants (recorded : w.listeners.count .recorder = 1) (tables : List SizedTable)
    (world : World σ) :
    (w.moveTables tables condition).Ensures world fun _ events _ => w.Warrants condition tables events := by
  have from_ (total position : Int) (world : World σ) :
      (w.moveFrom total condition position tables).Ensures world fun _ events _ =>
        w.Warrants condition tables events := by
    induction tables generalizing position world with
    | nil => exact (Job.ensures_pure 0).mpr fun _ _ _ _ _ _ => nofun
    | cons table rest ih =>
        apply (ensures_moveTable_warrants recorded table position total world).bind
        · intro passed events middle first
          apply (ih (position + 1) middle).bind
          · intro failed more final second
            rw [Job.ensures_pure, List.append_nil]
            exact first.append second
          · intro fault more final second
            exact first.append second
        · intro fault events middle first
          have none_more : w.Warrants condition rest [] := fun _ _ _ _ _ _ => nofun
          simpa using first.append none_more
  exact from_ _ _ world

end Worker

end TableFerry
