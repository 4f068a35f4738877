import Mathlib.Data.List.Induction
import Mathlib.Data.List.Nodup
import TableFerry.Transfer.Report
/-! Entries by key. Putting an entry replaces what stood under its key and leaves all others where they are, so that of
many entries the last one of every key stands in the end, whatever was put between them under other keys. -/

namespace TableFerry

variable {κ α β : Type} [DecidableEq κ]

theorem lookup_head (head : κ × α) (rest : List (κ × α)) (key : κ) :
    (head :: rest).lookup key = if key = head.1 then some head.2 else rest.lookup key := by
  rw [List.lookup_cons]
  split
  · rename_i same
    rw [if_pos (eq_of_beq same)]
  · rename_i differs
    rw [if_neg (ne_of_beq_false differs)]

theorem mem_putEntry {key : κ} {value : α} {entries : List (κ × α)} {entry : κ × α}
    (member : entry ∈ putEntry key value entries) : entry = (key, value) ∨ entry ∈ entries := by
  induction entries with
  | nil => exact Or.inl (List.mem_singleton.mp member)
  | cons head rest ih =>
      rw [putEntry] at member
      split at member
      · rcases List.mem_cons.mp member with rfl | behind
        · rename_i same
          exact Or.inl (by rw [same])
        · exact Or.inr (List.mem_cons_of_mem head behind)
      · rcases List.mem_cons.mp member with rfl | behind
        · exact Or.inr List.mem_cons_self
        · exact (ih behind).imp_right (List.mem_cons_of_mem head)

theorem mem_keys_putEntry {key other : κ} {value : α} {entries : List (κ × α)} :
    other ∈ (putEntry key value entries).map (·.1) ↔ other = key ∨ other ∈ entries.map (·.1) := by
  induction entries with
  | nil => simp [putEntry]
  | cons head rest ih =>
      rw [putEntry]
      split
      · rename_i same
        simp [same]
      · rw [List.map_cons, List.mem_cons, ih, List.map_cons, List.mem_cons]
        exact or_left_comm

theorem lookup_putEntry (key : κ) (value : α) (entries : List (κ × α)) (other : κ) :
    (putEntry key value entries).lookup other = if other = key then some value else entries.lookup other := by
  induction entries with
  | nil => rw [putEntry, lookup_head]
  | cons head rest ih =>
      rw [putEntry]
      split
      · rename_i found
        rw [lookup_head, lookup_head, found]
        split <;> rfl
      · rename_i differs
        rw [lookup_head, lookup_head, ih]
        by_cases same : other = head.1
        · rw [if_pos same, if_pos same, if_neg (same ▸ differs)]
        · rw [if_neg same, if_neg same]

theorem nodup_keys_putEntry {key : κ} {value : α} {entries : List (κ × α)} (distinct : (entries.map (·.1)).Nodup) :
    ((putEntry key value entries).map (·.1)).Nodup := by
  induction entries with
  | nil => simp [putEntry]
  | cons head rest ih =>
      rw [List.map_cons, List.nodup_cons] at distinct
      rw [putEntry]
      split
      · rename_i same
        rw [List.map_cons, List.nodup_cons]
        exact ⟨same ▸ distinct.1, distinct.2⟩
      · rename_i differs
        rw [List.map_cons, List.nodup_cons, mem_keys_putEntry]
        exact ⟨not_or.mpr ⟨differs, distinct.1⟩, ih distinct.2⟩

theorem putEntry_fresh {key : κ} (value : α) {entries : List (κ × α)} (fresh : key ∉ entries.map (·.1)) :
    putEntry key value entries = entries ++ [(key, value)] := by
  induction entries with
  | nil => rfl
  | cons head rest ih =>
      rw [List.map_cons, List.mem_cons, not_or] at fresh
      rw [putEntry, if_neg (Ne.symm fresh.1), ih fresh.2]
      rfl

theorem map_putEntry (change : α → β) (key : κ) (value : α) (entries : List (κ × α)) :
    (putEntry key value entries).map (fun entry => (entry.1, change entry.2)) =
      putEntry key (change value) (entries.map fun entry => (entry.1, change entry.2)) := by
  induction entries with
  | nil => rfl
  | cons head rest ih =>
      rw [putEntry, List.map_cons, putEntry]
      split
      · rfl
      · rw [List.map_cons, ih]

theorem mem_iff_lookup {entries : List (κ × α)} (distinct : (entries.map (·.1)).Nodup) {key : κ} {value : α} :
    (key, value) ∈ entries ↔ entries.lookup key = some value := by
  induction entries with
  | nil => simp
  | cons head rest ih =>
      rw [List.map_cons, List.nodup_cons] at distinct
      rw [lookup_head, List.mem_cons]
      by_cases same : key = head.1
      · have behind : (key, value) ∉ rest := fun member => distinct.1 (same ▸ List.mem_map_of_mem member)
        rw [if_pos same, or_iff_left behind, Option.some.injEq, Prod.ext_iff, and_iff_right same, eq_comm]
      · rw [if_neg same, or_iff_right fun meets => same (congrArg Prod.fst meets), ih distinct.2]

theorem lookup_eq_of_perm {entries other : List (κ × α)} (distinct : (entries.map (·.1)).Nodup)
    (perm : entries.Perm other) (key : κ) : entries.lookup key = other.lookup key := by
  apply Option.ext
  intro value
  rw [← mem_iff_lookup distinct, ← mem_iff_lookup ((perm.map _).nodup_iff.mp distinct), perm.mem_iff]

theorem lookup_map (change : α → β) (entries : List (κ × α)) (key : κ) :
    (entries.map fun entry => (entry.1, change entry.2)).lookup key = (entries.lookup key).map change := by
  induction entries with
  | nil => rfl
  | cons head rest ih =>
      rw [List.map_cons, lookup_head, lookup_head, ih]
      split <;> rfl

/-- The entries after more were told, in the order in which they were told. -/
def putAll (told entries : List (κ × α)) : List (κ × α) :=
  told.foldl (fun kept entry => putEntry entry.1 entry.2 kept) entries

theorem nodup_keys_putAll (told : List (κ × α)) {entries : List (κ × α)} (distinct : (entries.map (·.1)).Nodup) :
    ((putAll told entries).map (·.1)).Nodup := by
  induction told generalizing entries with
  | nil => exact distinct
  | cons entry rest ih => exact ih (nodup_keys_putEntry distinct)

theorem mem_putAll {told entries : List (κ × α)} {entry : κ × α} (member : entry ∈ putAll told entries) :
    entry ∈ told ∨ entry ∈ entries := by
  induction told generalizing entries with
  | nil => exact Or.inr member
  | cons first rest ih =>
      rcases ih member with later | put
      · exact Or.inl (List.mem_cons_of_mem first later)
      · rcases mem_putEntry put with rfl | before
        · exact Or.inl List.mem_cons_self
        · exact Or.inr before

/-- What stands under a key in the end is decided by what was told of that key. -/
theorem lookup_putAll_congr {told other entries : List (κ × α)} {key : κ}
    (same : told.filter (·.1 = key) = other.filter (·.1 = key)) :
    (putAll told entries).lookup key = (putAll other entries).lookup key := by
  have filtered (told entries : List (κ × α)) :
      (putAll told entries).lookup key = (putAll (told.filter (·.1 = key)) entries).lookup key := by
    induction told using List.reverseRecOn with
    | nil => rfl
    | append_singleton rest entry ih =>
        rw [putAll, List.foldl_append, List.foldl_cons, List.foldl_nil, lookup_putEntry, List.filter_append]
        by_cases own : entry.1 = key
        · rw [if_pos own.symm, List.filter_cons_of_pos (by simpa using own), List.filter_nil, putAll,
            List.foldl_append, List.foldl_cons, List.foldl_nil, lookup_putEntry, if_pos own.symm]
        · rw [if_neg (Ne.symm own), List.filter_cons_of_neg (by simpa using own), List.filter_nil, List.append_nil]
          exact ih
  rw [filtered told, filtered other, same]

theorem perm_putAll {told other : List (κ × α)}
    (same : ∀ key, told.filter (·.1 = key) = other.filter (·.1 = key)) : (putAll told []).Perm (putAll other []) := by
  have empty : (([] : List (κ × α)).map (·.1)).Nodup := List.nodup_nil
  have one := nodup_keys_putAll told empty
  have two := nodup_keys_putAll other empty
  apply (List.perm_ext_iff_of_nodup one.of_map two.of_map).mpr
  rintro ⟨key, value⟩
  rw [mem_iff_lookup one, mem_iff_lookup two, lookup_putAll_congr (same key)]

end TableFerry
