import TableFerry.Proofs.Requests
/-! Savepoints. A database that can undo is read as a stack: a savepoint saves what the database holds, releasing
it keeps what was done since, and rolling back to it restores what was saved. The trace is read in the same way, so
that it tells of every statement whether what it did still stands. -/

namespace TableFerry

/-! What the trace tells. -/

/-- Something that was sent to change what a database holds, and whether what it did stands. -/
structure Change where
  request : Request
  stands : Bool

def Change.undone (change : Change) : Change := { change with stands := false }

/-- The changes since the innermost open savepoint, those between it and the next one, and so on. Closing what is
not open is an error. -/
def Request.meet : Request → List (List Change) → Option (List (List Change))
  | .savepoint, levels => some ([] :: levels)
  | .release, inner :: outer :: levels => some ((outer ++ inner) :: levels)
  | .rollbackTo, inner :: outer :: levels => some ((outer ++ inner.map Change.undone) :: levels)
  | .execute sql, level :: levels => some ((level ++ [⟨.execute sql, true⟩]) :: levels)
  | .insert statement rows, level :: levels => some ((level ++ [⟨.insert statement rows, true⟩]) :: levels)
  | .release, _ | .rollbackTo, _ | .execute _, _ | .insert _ _, _ => none
  | _, levels => some levels

/-- The request itself, if it is a statement or an insertion. -/
def Request.change? : Request → Option Request
  | .execute sql => some (.execute sql)
  | .insert statement rows => some (.insert statement rows)
  | _ => none

/-- All that was sent, from the first on. -/
def Change.requests (levels : List (List Change)) : List Request := levels.reverse.flatten.map (·.request)

/-- Reading a request forgets nothing that was sent. -/
theorem Request.requests_meet {request : Request} {before after : List (List Change)}
    (met : request.meet before = some after) :
    Change.requests after = Change.requests before ++ request.change?.toList := by
  unfold Change.requests
  cases request <;> rcases before with _ | ⟨inner, _ | ⟨outer, levels⟩⟩ <;> cases met <;>
    simp [change?, Change.undone, Function.comp_def]

namespace Event

def meet (label : String) (levels : List (List Change)) : Event → Option (List (List Change))
  | .sent asked request => if asked = label then request.meet levels else some levels
  | _ => some levels

/-- The statement or the insertion that is sent to a database. -/
def change? (label : String) : Event → Option Request
  | .sent asked request => if asked = label then request.change? else none
  | _ => none

theorem requests_meet {label : String} {event : Event} {before after : List (List Change)}
    (met : meet label before event = some after) :
    Change.requests after = Change.requests before ++ (change? label event).toList := by
  cases event with
  | sent asked request =>
      simp only [meet] at met
      simp only [change?]
      by_cases own : asked = label
      · rw [if_pos own] at met ⊢
        exact Request.requests_meet met
      · rw [if_neg own] at met ⊢
        cases met
        exact (List.append_nil _).symm
  | announced | pool | engine =>
      cases met
      exact (List.append_nil _).symm

theorem requests_foldlM {label : String} {events : List Event} {before after : List (List Change)}
    (read : events.foldlM (meet label) before = some after) :
    Change.requests after = Change.requests before ++ events.filterMap (change? label) := by
  induction events generalizing before with
  | nil =>
      cases read
      exact (List.append_nil _).symm
  | cons event events ih =>
      rw [List.foldlM_cons] at read
      obtain ⟨between, first, rest⟩ := Option.bind_eq_some_iff.mp read
      rw [ih rest, requests_meet first, List.filterMap_cons, List.append_assoc]
      cases change? label event <;> rfl

/-- Reads events as those of one database from when no savepoint was open. -/
def changeLevels (label : String) (events : List Event) : Option (List (List Change)) :=
  events.foldlM (meet label) [[]]

/-- Inside of whatever is open the events close all that they open, and these are their changes. -/
def Nested (label : String) (events : List Event) (changes : List Change) : Prop :=
  ∀ level levels, events.foldlM (meet label) (level :: levels) = some ((level ++ changes) :: levels)

section Nested

variable {label : String} {events more : List Event} {changes later : List Change}

theorem Nested.changeLevels (nested : Nested label events changes) : changeLevels label events = some [changes] :=
  nested [] []

/-- The changes are all that is sent to change what the database holds, in order. -/
theorem Nested.requests (nested : Nested label events changes) :
    changes.map (·.request) = events.filterMap (change? label) := by
  simpa [Change.requests] using requests_foldlM nested.changeLevels

theorem Nested.append (first : Nested label events changes) (second : Nested label more later) :
    Nested label (events ++ more) (changes ++ later) := by
  intro level levels
  rw [List.foldlM_append, first]
  change more.foldlM (meet label) _ = _
  rw [second, List.append_assoc]

theorem nested_nil (label : String) : Nested label [] [] := by
  intro level levels
  rw [List.append_nil]
  rfl

/-- Events that say nothing of savepoints and change nothing. -/
theorem nested_plain (plain : ∀ event ∈ events, ∀ levels, meet label levels event = some levels) :
    Nested label events [] := by
  induction events with
  | nil => exact nested_nil label
  | cons event events ih =>
      intro level levels
      rw [List.foldlM_cons, plain event List.mem_cons_self]
      exact ih (fun other member => plain other (List.mem_cons_of_mem event member)) level levels

theorem meet_own (label : String) (levels : List (List Change)) (request : Request) :
    meet label levels (.sent label request) = request.meet levels :=
  if_pos rfl

theorem meet_other {asked : String} (other : asked ≠ label) (levels : List (List Change)) (request : Request) :
    meet label levels (.sent asked request) = some levels :=
  if_neg other

theorem nested_announced (events : List Lifecycle) : Nested label (events.map .announced) [] := by
  apply nested_plain
  intro event member levels
  obtain ⟨_, _, rfl⟩ := List.mem_map.mp member
  rfl

theorem nested_execute (label sql : String) :
    Nested label [.sent label (.execute sql)] [⟨.execute sql, true⟩] := by
  intro level levels
  rw [List.foldlM_cons, meet_own]
  rfl

theorem nested_insert (label statement : String) (rows : List Row) :
    Nested label [.sent label (.insert statement rows)] [⟨.insert statement rows, true⟩] := by
  intro level levels
  rw [List.foldlM_cons, meet_own]
  rfl

theorem Nested.released (nested : Nested label events changes) :
    Nested label (.sent label .savepoint :: events ++ [.sent label .release]) changes := by
  intro level levels
  simp only [List.cons_append, List.foldlM_cons, List.foldlM_append, meet_own, Request.meet,
    Option.bind_eq_bind, Option.bind_some, nested [] (level :: levels)]
  rfl

theorem Nested.rolledBack (nested : Nested label events changes) :
    Nested label (.sent label .savepoint :: events ++ [.sent label .rollbackTo]) (changes.map Change.undone) := by
  intro level levels
  simp only [List.cons_append, List.foldlM_cons, List.foldlM_append, meet_own, Request.meet,
    Option.bind_eq_bind, Option.bind_some, nested [] (level :: levels)]
  rfl

end Nested

end Event

/-! What the database holds. -/

/-- What a database holds now and what it held at each of the savepoints that are open, the innermost first. -/
structure Held (τ : Type) where
  now : τ
  saved : List τ
  deriving DecidableEq, Repr

namespace Held

variable {τ : Type}

def push (held : Held τ) : Held τ := { held with saved := held.now :: held.saved }

def keep (held : Held τ) : Held τ := { held with saved := held.saved.tail }

def restore (held : Held τ) : Held τ := ⟨held.saved.headD held.now, held.saved.tail⟩

@[simp] theorem push_now (held : Held τ) : held.push.now = held.now := rfl

/-- Rolling back to a savepoint restores what was held when it was opened. -/
theorem restore_of_saved {before inside : Held τ} (same : inside.saved = before.push.saved) :
    inside.restore = before := by
  rw [restore, same]
  rfl

@[simp] theorem keep_now (held : Held τ) : held.keep.now = held.now := rfl

theorem keep_saved_of_saved {before inside : Held τ} (same : inside.saved = before.push.saved) :
    inside.keep.saved = before.saved := by
  rw [keep, same]
  rfl

end Held

namespace Database

variable {σ τ α : Type} {db : Database σ} {held : σ → Held τ}

/-- The savepoints of a database are a stack: statements and insertions change only what is held now, and looking
at tables changes nothing. -/
structure Nests (db : Database σ) (held : σ → Held τ) : Prop where
  savepoint : ∀ state, held (db.savepoint state) = (held state).push
  release : ∀ state, held (db.release state) = (held state).keep
  rollbackTo : ∀ state, held (db.rollbackTo state) = (held state).restore
  reflect : ∀ name schema state, held (db.reflect name schema state).2 = held state
  execute : ∀ sql state, (held (db.execute sql state).2).saved = (held state).saved
  insert : ∀ statement rows state, (held (db.insert statement rows state).2).saved = (held state).saved

/-- Reading from this database changes nothing of what the other one holds. -/
structure Spares (db : Database σ) (held : σ → Held τ) : Prop where
  connect : ∀ state, held (db.connect state).2 = held state
  reflect : ∀ name schema state, held (db.reflect name schema state).2 = held state
  execute : ∀ sql state, held (db.execute sql state).2 = held state
  page : ∀ query state, held (db.page query state).2 = held state

/-- What one change does to what a database holds. It does what the database did when it accepted the request, and
nothing if the statement failed in a way that is tolerated. -/
inductive Does (db : Database σ) (held : σ → Held τ) (tolerates : Fault → Bool) : Change → τ → τ → Prop
  | executed {sql : String} {value : Value} {state next : σ} (accepted : db.execute sql state = (.ok value, next)) :
      Does db held tolerates ⟨.execute sql, true⟩ (held state).now (held next).now
  | inserted {statement : String} {rows : List Row} {state next : σ}
      (accepted : db.insert statement rows state = (.ok (), next)) :
      Does db held tolerates ⟨.insert statement rows, true⟩ (held state).now (held next).now
  | tolerated {sql : String} {fault : Fault} {state next : σ} (refused : db.execute sql state = (.error fault, next))
      (isDatabase : fault.kind.isDatabase = true) (tolerated : tolerates fault = true) :
      Does db held tolerates ⟨.execute sql, false⟩ (held state).now (held state).now

/-- Changes one after the other. -/
inductive Leads (db : Database σ) (held : σ → Held τ) (tolerates : Fault → Bool) :
    List Change → τ → τ → Prop
  | none (now : τ) : Leads db held tolerates [] now now
  | next {change : Change} {changes : List Change} {now between final : τ}
      (does : db.Does held tolerates change now between) (leads : Leads db held tolerates changes between final) :
      Leads db held tolerates (change :: changes) now final

section Leads

variable {tolerates : Fault → Bool} {changes later : List Change} {now between final : τ}

theorem Does.leads {change : Change} (does : db.Does held tolerates change now final) :
    db.Leads held tolerates [change] now final :=
  .next does (.none final)

theorem Leads.append (first : db.Leads held tolerates changes now between)
    (second : db.Leads held tolerates later between final) : db.Leads held tolerates (changes ++ later) now final := by
  induction first with
  | none => exact second
  | next does _ ih => exact .next does (ih second)

end Leads

/-- The events of a run close all savepoints that they open and leave those that were open as they were. If the run
succeeds, their changes lead from what was held before to what is held behind. -/
def Accounts (db : Database σ) (held : σ → Held τ) (tolerates : Fault → Bool) (ok : Bool) (world : World σ)
    (events : List Event) (final : World σ) : Prop :=
  ∃ changes, Event.Nested db.label events changes ∧ (held final.state).saved = (held world.state).saved ∧
    (ok = true → db.Leads held tolerates changes (held world.state).now (held final.state).now)

/-- What a job in a savepoint leaves: what its changes did if it stands, and nothing if it does not. -/
def Leaves (db : Database σ) (held : σ → Held τ) (tolerates : Fault → Bool) (stands : Bool) (world : World σ)
    (changes : List Change) (final : World σ) : Prop :=
  if stands then
    (held final.state).saved = (held world.state).saved ∧
      db.Leads held tolerates changes (held world.state).now (held final.state).now
  else held final.state = held world.state ∧ ∀ change ∈ changes, change.stands = false

section Accounts

variable {tolerates : Fault → Bool}

/-- Events without changes. -/
theorem accounts_plain {ok : Bool} {world final : World σ} {events : List Event}
    (nested : Event.Nested db.label events []) (same : held final.state = held world.state) :
    db.Accounts held tolerates ok world events final := by
  refine ⟨[], nested, congrArg Held.saved same, ?_⟩
  intro _
  rw [same]
  exact .none _

theorem closed_accounts (db : Database σ) (held : σ → Held τ) (tolerates : Fault → Bool) :
    Job.Closed (db.Accounts held tolerates) where
  quiet := fun _ _ _ => accounts_plain (Event.nested_nil _) rfl
  breaks := by
    intro world events final accounts
    rcases accounts with ⟨changes, nested, saved, _⟩
    exact ⟨changes, nested, saved, nofun⟩
  trans := by
    intro first second world events middle more final related goes_on
    rcases related with ⟨changes, nested, saved, leads⟩
    rcases goes_on with ⟨later, nested_later, saved_later, leads_later⟩
    refine ⟨changes ++ later, nested.append nested_later, saved_later.trans saved, ?_⟩
    intro succeeded
    rw [Bool.and_eq_true] at succeeded
    exact (leads succeeded.1).append (leads_later succeeded.2)

/-- A job in a savepoint stands exactly if it succeeds. -/
theorem ensures_withSavepoint (nests : db.Nests held) {job : Job σ α}
    (follows : job.Follows (db.Accounts held tolerates)) (world : World σ) :
    (db.withSavepoint job).Ensures world fun result events final =>
      ∃ changes, Event.Nested db.label events changes ∧
        db.Leaves held tolerates result.isOk world changes final := by
  apply ensures_bracket
  apply (follows _).imp
  intro result events final accounts
  rcases accounts with ⟨changes, nested, saved, leads⟩
  dsimp only at saved leads
  rw [nests.savepoint] at saved leads
  cases result with
  | ok value =>
      refine ⟨changes, nested.released, ?_, ?_⟩
      · dsimp only
        rw [nests.release, Held.keep_saved_of_saved saved]
      · dsimp only
        rw [nests.release]
        exact leads rfl
  | error fault =>
      refine ⟨changes.map Change.undone, nested.rolledBack, ?_, ?_⟩
      · dsimp only
        rw [nests.rollbackTo, Held.restore_of_saved saved]
      · intro change member
        obtain ⟨_, _, rfl⟩ := List.mem_map.mp member
        rfl

/-- Something is sent that changes nothing. -/
theorem follows_send {asked : Database σ} {request : Request}
    (plain : ∀ levels, Event.meet db.label levels (.sent asked.label request) = some levels) :
    (asked.send request).Follows (db.Accounts held tolerates) := by
  intro world
  rw [Job.ensures_send]
  apply accounts_plain _ rfl
  apply Event.nested_plain
  intro event member
  cases List.mem_singleton.mp member
  exact plain

/-- An answer that changes nothing. -/
theorem follows_answer {f : Answer σ α} (same : ∀ state, held (f state).2 = held state) :
    (Job.answer f).Follows (db.Accounts held tolerates) := by
  intro world
  rw [Job.ensures_answer]
  exact accounts_plain (Event.nested_nil _) (same world.state)

theorem ensures_run (db : Database σ) (sql : String) (world : World σ) :
    (db.run sql).Ensures world fun result events final =>
      events = [.sent db.label (.execute sql)] ∧ db.execute sql world.state = (result, final.state) ∧
        final.draft.drawn = world.draft.drawn := by
  apply Job.ensures_bind
  rw [Job.ensures_note]
  apply Job.ensures_bind
  rw [Job.ensures_send, Job.ensures_answer]
  exact ⟨rfl, rfl, rfl⟩

/-- A statement outside of any savepoint of its own. -/
theorem follows_run (nests : db.Nests held) (sql : String) :
    (db.run sql).Follows (db.Accounts held tolerates) := by
  intro world
  apply (ensures_run db sql world).imp
  intro result events final outcome
  rcases outcome with ⟨rfl, answered, _⟩
  have kept := nests.execute sql world.state
  rw [answered] at kept
  refine ⟨_, Event.nested_execute db.label sql, kept, ?_⟩
  intro succeeded
  cases result with
  | ok value => exact (Does.executed answered).leads
  | error fault => cases succeeded

theorem follows_insertRows (nests : db.Nests held) (table : String) (rows : List Row) :
    (db.insertRows table rows).Follows (db.Accounts held tolerates) := by
  have closed := closed_accounts db held tolerates
  unfold insertRows
  cases rows with
  | nil => exact closed.pure 0
  | cons first rest =>
      intro world
      apply Job.ensures_bind
      rw [Job.ensures_send]
      apply Job.ensures_bind
      rw [Job.ensures_answer]
      let statement := insertText table first.names
      let bound := (first :: rest).map (bindRow first.names)
      have kept := nests.insert statement bound world.state
      have nested := Event.nested_insert db.label statement bound
      cases answered : db.insert statement bound world.state with
      | mk result next =>
          rw [answered] at kept
          cases result with
          | error fault => exact ⟨_, nested, kept, nofun⟩
          | ok value => exact (Job.ensures_pure _).mpr ⟨_, nested, kept, fun _ => (Does.inserted answered).leads⟩

/-! Batches with a savepoint for every statement. -/

/-- What one statement in a savepoint leaves. -/
theorem ensures_statement (nests : db.Nests held) (sql : String) (world : World σ) :
    (db.withSavepoint (do let _ ← db.run sql)).Ensures world fun result events final =>
      (held final.state).saved = (held world.state).saved ∧
        match result with
        | .ok _ =>
          Event.Nested db.label events [⟨.execute sql, true⟩] ∧
            db.Does held tolerates ⟨.execute sql, true⟩ (held world.state).now (held final.state).now
        | .error fault =>
          Event.Nested db.label events [⟨.execute sql, false⟩] ∧ held final.state = held world.state ∧
            ∃ next, db.execute sql (db.savepoint world.state) = (.error fault, next) := by
  apply ensures_bracket
  apply Job.ensures_bind
  apply (ensures_run db sql _).imp
  intro result events final outcome
  rcases outcome with ⟨rfl, answered, _⟩
  dsimp only at answered
  have opened := nests.savepoint world.state
  have saved := nests.execute sql (db.savepoint world.state)
  rw [answered, opened] at saved
  have nested := Event.nested_execute db.label sql
  cases result with
  | error fault =>
      have restored : held (db.rollbackTo final.state) = held world.state := by
        rw [nests.rollbackTo, Held.restore_of_saved saved]
      exact ⟨congrArg Held.saved restored, nested.rolledBack, restored, final.state, answered⟩
  | ok value =>
      have does : db.Does held tolerates ⟨.execute sql, true⟩ (held (db.savepoint world.state)).now
          (held final.state).now :=
        .executed answered
      rw [opened, Held.push_now] at does
      refine (Job.ensures_pure ()).mpr ⟨?_, ?_, ?_⟩
      · dsimp only
        rw [nests.release, Held.keep_saved_of_saved saved]
      · simpa using nested.released
      · dsimp only
        rw [nests.release, Held.keep_now]
        exact does

/-- One statement of a batch, which counts what comes of it. Nothing of a tolerated failure is left. -/
theorem follows_counted (nests : db.Nests held) (tolerance : Tolerance) (sql : String) (count : BatchResult) :
    ((db.withSavepoint (do let _ ← db.run sql)).attempt >>= settle tolerance sql count).Follows
      (db.Accounts held fun fault => (tolerance fault).1) := by
  intro world
  apply Job.ensures_bind
  rw [Job.ensures_attempt]
  apply (ensures_statement nests sql world).imp
  intro result events final outcome
  rcases outcome with ⟨saved, met⟩
  dsimp only
  unfold settle
  cases result with
  | ok value =>
      rcases met with ⟨nested, does⟩
      rw [Job.ensures_pure, List.append_nil]
      exact ⟨_, nested, saved, fun _ => does.leads⟩
  | error fault =>
      rcases met with ⟨nested, restored, next, refused⟩
      rw [← List.append_nil events] at nested
      dsimp only
      split
      · apply Job.ensures_bind
        rw [Job.ensures_throw]
        exact ⟨_, nested, saved, nofun⟩
      · rename_i isDatabase
        apply Job.ensures_bind
        rw [Job.ensures_noteAll]
        dsimp only
        split
        · rename_i tolerated
          apply Job.ensures_bind
          rw [Job.ensures_note, Job.ensures_pure]
          have does : db.Does held (fun fault => (tolerance fault).1) ⟨.execute sql, false⟩
              (held (db.savepoint world.state)).now (held (db.savepoint world.state)).now :=
            .tolerated refused (by simpa using isDatabase) tolerated
          rw [nests.savepoint, Held.push_now, ← restored] at does
          refine ⟨_, nested, saved, fun _ => ?_⟩
          rw [← restored]
          exact does.leads
        · rw [Job.ensures_throw]
          exact ⟨_, nested, saved, nofun⟩

theorem follows_runBatch (nests : db.Nests held) (tolerance : Tolerance) (statements : List String)
    (count : BatchResult) :
    (db.runBatch tolerance true statements count).Follows
      (db.Accounts held fun fault => (tolerance fault).1) := by
  have closed := closed_accounts db held fun fault => (tolerance fault).1
  induction statements generalizing count with
  | nil => exact closed.pure count
  | cons sql rest ih =>
      have first_then_rest : db.runBatch tolerance true (sql :: rest) count =
          ((db.withSavepoint (do let _ ← db.run sql)).attempt >>= settle tolerance sql count) >>=
            db.runBatch tolerance true rest :=
        (bind_assoc _ _ _).symm
      rw [first_then_rest]
      exact closed.bind (follows_counted nests tolerance sql count) ih

end Accounts

end Database

end TableFerry
