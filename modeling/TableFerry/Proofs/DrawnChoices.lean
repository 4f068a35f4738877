import TableFerry.Dialect.Ddl
/-! What the statements that create a table owe to random choices. A draft draws its choices by number, one after the
other, and looks at nothing else of what came before; so the statements are a function of the choices from the first
number on that they draw. -/

namespace TableFerry

namespace Drafting

variable {α β : Type} {ahead : Nat}

/-- One computation does from `ahead` draws more what the other does; the logs do not matter. -/
def Shifted (ahead : Nat) (late early : Drafting α) : Prop :=
  ∀ drawn log other, (late.run ⟨ahead + drawn, log⟩).1 = (early.run ⟨drawn, other⟩).1 ∧
    (late.run ⟨ahead + drawn, log⟩).2.drawn = ahead + (early.run ⟨drawn, other⟩).2.drawn

theorem shifted_pure (value : α) : Shifted ahead (pure value) (pure value) := fun _ _ _ => ⟨rfl, rfl⟩

theorem shifted_throw (fault : Fault) : Shifted ahead (throw fault : Drafting α) (throw fault) :=
  fun _ _ _ => ⟨rfl, rfl⟩

theorem shifted_lift (result : Except Fault α) : Shifted ahead (result : Drafting α) result := by
  intro drawn log other
  cases result <;> exact ⟨rfl, rfl⟩

theorem shifted_note (level : Level) (text : String) : Shifted ahead (note level text) (note level text) :=
  fun _ _ _ => ⟨rfl, rfl⟩

theorem Shifted.bind {late early : Drafting α} {after before : α → Drafting β} (first : Shifted ahead late early)
    (then_ : ∀ value, Shifted ahead (after value) (before value)) :
    Shifted ahead (late >>= after) (early >>= before) := by
  intro drawn log other
  obtain ⟨same, further⟩ := first drawn log other
  change (ExceptT.bindCont after (late.run _).1 (late.run _).2).1 =
      (ExceptT.bindCont before (early.run _).1 (early.run _).2).1 ∧
    (ExceptT.bindCont after (late.run _).1 (late.run _).2).2.drawn =
      ahead + (ExceptT.bindCont before (early.run _).1 (early.run _).2).2.drawn
  rw [same]
  cases (early.run ⟨drawn, other⟩).1 with
  | error fault => exact ⟨rfl, further⟩
  | ok value =>
      have next := then_ value (early.run ⟨drawn, other⟩).2.drawn (late.run ⟨ahead + drawn, log⟩).2.log
        (early.run ⟨drawn, other⟩).2.log
      rw [← further] at next
      exact next

/-- The numbers of the next draws differ by the draws ahead. -/
theorem shifted_next {after before : Nat → Drafting β}
    (then_ : ∀ number, Shifted ahead (after (ahead + number)) (before number)) :
    Shifted ahead (next >>= after) (next >>= before) :=
  fun drawn log other => then_ drawn (drawn + 1) log other

theorem shifted_mapM {late early : α → Drafting β} (items : List α)
    (each : ∀ item, Shifted ahead (late item) (early item)) : Shifted ahead (items.mapM late) (items.mapM early) := by
  induction items with
  | nil => exact shifted_pure []
  | cons head tail ih =>
      rw [List.mapM_cons, List.mapM_cons]
      apply (each head).bind
      intro value
      apply ih.bind
      intro values
      exact shifted_pure _

end Drafting

namespace Compiler

open Drafting (Shifted)

/-- The compiler with other random choices. -/
def choosing (c : Compiler) (picks : Nat → Nat) : Compiler := { c with picks := picks }

/-- The choices of a compiler from number `ahead` on. -/
def choicesFrom (c : Compiler) (ahead : Nat) : Nat → Nat := fun number => c.picks (ahead + number)

variable (c : Compiler) (table : Table) (ahead : Nat)

theorem shifted_truncate (name label : String) (reserved : Int) :
    Shifted ahead (c.truncate name label reserved)
      ((c.choosing (c.choicesFrom ahead)).truncate name label reserved) := by
  apply Drafting.shifted_next
  intro first
  apply Drafting.shifted_next
  intro second
  apply (Drafting.shifted_note _ _).bind
  intro _
  exact Drafting.shifted_pure _

theorem shifted_indexName (label owner : String) (columns : List String) :
    Shifted ahead (c.indexName label owner columns)
      ((c.choosing (c.choicesFrom ahead)).indexName label owner columns) := by
  by_cases long : ((c.fullIndexName owner columns).length : Int) > (c.maxNameLength : Int) - c.engine.indexPrefix.length
  · rw [show c.indexName label owner columns = _ from if_pos long,
      show (c.choosing (c.choicesFrom ahead)).indexName label owner columns = _ from if_pos long]
    exact c.shifted_truncate ahead _ label _
  · rw [show c.indexName label owner columns = _ from if_neg long,
      show (c.choosing (c.choicesFrom ahead)).indexName label owner columns = _ from if_neg long]
    exact Drafting.shifted_pure _

theorem shifted_createIndexName (index : Index) :
    Shifted ahead (c.createIndexName table index)
      ((c.choosing (c.choicesFrom ahead)).createIndexName table index) := by
  have named (owner : String) (columns : List String) :
      Shifted ahead (c.indexName owner owner columns >>= fun name => pure (c.qualify name))
        ((c.choosing (c.choicesFrom ahead)).indexName owner owner columns >>= fun name => pure (c.qualify name)) :=
    (c.shifted_indexName ahead owner owner columns).bind fun name => Drafting.shifted_pure _
  unfold createIndexName
  rw [show (c.choosing (c.choicesFrom ahead)).engine = c.engine from rfl]
  cases c.engine with
  | kingbase => exact c.shifted_indexName ahead _ _ _
  | _ => exact named _ _

theorem shifted_createIndexDdl (index : Index) :
    Shifted ahead (c.createIndexDdl table index)
      ((c.choosing (c.choicesFrom ahead)).createIndexDdl table index) := by
  unfold createIndexDdl
  rw [show (c.choosing (c.choicesFrom ahead)).wrap = c.wrap from rfl]
  dsimp only
  split
  · exact Drafting.shifted_pure none
  · apply (c.shifted_createIndexName table ahead index).bind
    intro name
    exact Drafting.shifted_pure _

theorem shifted_searchIndexDdl (column : Column) :
    Shifted ahead (c.searchIndexDdl table column)
      ((c.choosing (c.choicesFrom ahead)).searchIndexDdl table column) := by
  unfold searchIndexDdl
  rw [show (c.choosing (c.choicesFrom ahead)).maxNameLength = c.maxNameLength from rfl,
    show (c.choosing (c.choicesFrom ahead)).engine = c.engine from rfl]
  dsimp only
  split
  · apply (c.shifted_truncate ahead _ _ _).bind
    intro name
    exact Drafting.shifted_pure _
  · exact Drafting.shifted_pure _

theorem shifted_afterwardsDdl :
    Shifted ahead (c.afterwardsDdl table) ((c.choosing (c.choicesFrom ahead)).afterwardsDdl table) := by
  unfold afterwardsDdl
  rw [show (c.choosing (c.choicesFrom ahead)).engine = c.engine from rfl,
    show (c.choosing (c.choicesFrom ahead)).searchesJson = c.searchesJson from rfl]
  cases c.engine with
  | oracle =>
      cases c.searchesJson with
      | true =>
          apply (Drafting.shifted_mapM _ (c.shifted_searchIndexDdl table ahead)).bind
          intro searches
          exact Drafting.shifted_pure _
      | false => exact Drafting.shifted_pure _
  | _ => exact Drafting.shifted_pure []

/-- CREATE TABLE itself draws nothing. -/
theorem shifted_structureDdl :
    Shifted ahead (c.structureDdl table) ((c.choosing (c.choicesFrom ahead)).structureDdl table) := by
  have columns (column : Column) : Shifted ahead (c.columnDdl column table)
      ((c.choosing (c.choicesFrom ahead)).columnDdl column table) := by
    apply (Drafting.shifted_lift (c.mapType column)).bind
    intro type
    exact Drafting.shifted_pure _
  have tablespace : Shifted ahead c.tablespaceText (c.choosing (c.choicesFrom ahead)).tablespaceText := by
    unfold tablespaceText
    rw [show (c.choosing (c.choicesFrom ahead)).destination = c.destination from rfl]
    split
    · exact Drafting.shifted_pure ""
    · split
      · exact Drafting.shifted_pure ""
      · split
        · exact Drafting.shifted_pure _
        · exact Drafting.shifted_throw _
  unfold structureDdl
  cases table.isPresent with
  | false => exact Drafting.shifted_throw _
  | true =>
      apply (Drafting.shifted_mapM table.columns columns).bind
      intro written
      apply tablespace.bind
      intro place
      exact Drafting.shifted_pure _

theorem shifted_createDdl :
    Shifted ahead (c.createDdl table) ((c.choosing (c.choicesFrom ahead)).createDdl table) := by
  apply (c.shifted_structureDdl table ahead).bind
  intro head
  apply (Drafting.shifted_mapM _ (c.shifted_createIndexDdl table ahead)).bind
  intro indexes
  apply (c.shifted_afterwardsDdl table ahead).bind
  intro afterwards
  exact Drafting.shifted_pure _

/-- The statements that create a table under random choices. -/
def statements (picks : Nat → Nat) : Except Fault (List String) := (((c.choosing picks).createDdl table).run {}).1

/-- A draft writes the statements under the choices from its next number on. -/
theorem run_createDdl (draft : Draft) :
    ((c.createDdl table).run draft).1 = c.statements table (c.choicesFrom draft.drawn) :=
  (c.shifted_createDdl table draft.drawn 0 draft.log []).1

end Compiler

end TableFerry
