import Mathlib.Data.List.Perm.Subperm
import Mathlib.Data.List.Range
import Mathlib.Logic.Relation
import TableFerry.Fault
/-! Root causes in every graph of errors. Errors may refer to each other in chains and in circles, and the walk to the
root ends because it never passes an error twice. It ends where a chain does, or else on the circle into which the chain
leads; from there it comes back to where it began. -/

namespace TableFerry.Fault

open Relation (ReflTransGen TransGen)

variable {fault : Fault} {error next root start : Nat} {seen : List Nat}

/-! Links. -/

/-- Error `next` stands behind `error`: the cause of `error` refers to it, or its origin does where the cause does not
count as set. -/
def Behind (fault : Fault) (error next : Nat) : Prop :=
  ∃ node, fault.nodes[error]? = some node ∧ next < fault.nodes.length ∧
    ((node.cause.truthy = true ∧ node.cause = .error next) ∨ (node.cause.truthy = false ∧ node.origin = .error next))

theorem next?_node_iff (node : ErrorNode) (next : Nat) : node.next? = some next ↔
    (node.cause.truthy = true ∧ node.cause = .error next) ∨ (node.cause.truthy = false ∧ node.origin = .error next) := by
  unfold ErrorNode.next?
  cases set : node.cause.truthy with
  | true => cases node.cause <;> simp
  | false => cases node.origin <;> simp

theorem next?_eq_some_iff : fault.next? error = some next ↔ fault.Behind error next := by
  have there (other : Nat) : (∃ node, fault.nodes[other]? = some node) ↔ other < fault.nodes.length := by
    rw [← Option.isSome_iff_exists, isSome_getElem?]
  unfold Fault.next? node? Behind
  simp only [Option.bind_eq_bind, Option.bind_eq_some_iff, Option.pure_def, Option.some.injEq, next?_node_iff]
  constructor
  · rintro ⟨node, found, next, link, other, present, rfl⟩
    exact ⟨node, found, (there next).mp ⟨other, present⟩, link⟩
  · rintro ⟨node, found, below, link⟩
    obtain ⟨other, present⟩ := (there next).mpr below
    exact ⟨node, found, next, link, other, present, rfl⟩

theorem Behind.unique {other : Nat} (link : fault.Behind error next) (same : fault.Behind error other) :
    next = other := by
  rw [← next?_eq_some_iff] at link same
  exact Option.some.inj (link.symm.trans same)

theorem Behind.below (link : fault.Behind error next) : next < fault.nodes.length := by
  obtain ⟨_, _, below, _⟩ := link
  exact below

def Reaches (fault : Fault) : Nat → Nat → Prop := ReflTransGen fault.Behind

/-- Nothing stands behind the last error of a chain. -/
def Last (fault : Fault) (error : Nat) : Prop := ∀ next, ¬ fault.Behind error next

/-- The errors stand behind each other. -/
def Circle (fault : Fault) (error other : Nat) : Prop :=
  TransGen fault.Behind error other ∧ TransGen fault.Behind other error

theorem Circle.not_last {other : Nat} (circle : fault.Circle error other) : ¬ fault.Last error := by
  intro last
  obtain ⟨next, link, _⟩ := TransGen.head'_iff.mp circle.1
  exact last next link

/-- Whatever a member of a circle reaches is on the circle as well. -/
theorem Circle.reaches {other : Nat} (circle : fault.Circle error error) (reached : fault.Reaches error other) :
    fault.Circle error other := by
  induction reached with
  | refl => exact circle
  | tail _ link ih =>
      refine ⟨ih.1.tail link, ?_⟩
      obtain ⟨next, first, rest⟩ := TransGen.head'_iff.mp ih.2
      rw [link.unique first]
      rcases ReflTransGen.cases_head rest with same | ⟨_, step, more⟩
      · rw [same]
        exact circle.1
      · exact TransGen.head' step more

/-! The walk. -/

/-- How the walk goes on that has passed the errors of `seen` and is at `error`: after so many turns it ends at `root`.
It ends when it comes to an error again, or behind the last error of a chain. -/
inductive Walks (fault : Fault) : List Nat → Nat → Nat → Nat → Prop
  | again {seen : List Nat} {error : Nat} (met : error ∈ seen) : fault.Walks seen error 0 error
  | ended {seen : List Nat} {error : Nat} (fresh : error ∉ seen) (last : fault.Last error) :
      fault.Walks seen error 1 error
  | passed {seen : List Nat} {error next turns root : Nat} (fresh : error ∉ seen) (link : fault.Behind error next)
      (rest : fault.Walks (error :: seen) next turns root) : fault.Walks seen error (turns + 1) root

/-- Distinct errors of a fault are no more than the fault has. -/
theorem length_le_of_below (distinct : seen.Nodup) (below : ∀ error ∈ seen, error < fault.nodes.length) :
    seen.length ≤ fault.nodes.length := by
  have among : seen ⊆ List.range fault.nodes.length := fun error member => List.mem_range.mpr (below error member)
  simpa using (distinct.subperm among).length_le

/-- The errors that the walk has passed are distinct errors of the fault, and so is the one that it is at. -/
structure Within (fault : Fault) (seen : List Nat) (error : Nat) : Prop where
  distinct : seen.Nodup
  below : ∀ other ∈ seen, other < fault.nodes.length
  present : error < fault.nodes.length

theorem Within.onward (within : fault.Within seen error) (fresh : error ∉ seen) (below : next < fault.nodes.length) :
    fault.Within (error :: seen) next where
  distinct := List.nodup_cons.mpr ⟨fresh, within.distinct⟩
  below := List.forall_mem_cons.mpr ⟨within.present, within.below⟩
  present := below

/-- As long as no error comes again there is one left that was not passed. -/
theorem Within.room (within : fault.Within seen error) (fresh : error ∉ seen) : seen.length < fault.nodes.length := by
  have more := within.onward fresh within.present
  exact length_le_of_below more.distinct more.below

theorem Walks.turns_le {turns : Nat} (walks : fault.Walks seen error turns root) (within : fault.Within seen error) :
    turns + seen.length ≤ fault.nodes.length := by
  induction walks with
  | again =>
      rw [Nat.zero_add]
      exact length_le_of_below within.distinct within.below
  | ended fresh =>
      rw [Nat.add_comm]
      exact within.room fresh
  | passed fresh link _ ih =>
      have bound := ih (within.onward fresh link.below)
      rw [List.length_cons] at bound
      omega

/-- With a unit of fuel for every error that is left the walk comes to its end. -/
theorem follow_walks {fuel : Nat} (within : fault.Within seen error) (enough : fault.nodes.length ≤ fuel + seen.length) :
    ∃ turns, fault.Walks seen error turns (fault.follow fuel seen error) := by
  -- Every turn takes a unit of fuel and passes one error more, so that both together stay enough.
  induction fuel generalizing seen error with
  | zero =>
      have met : error ∈ seen := by
        by_contra fresh
        have room := within.room fresh
        omega
      exact ⟨0, .again met⟩
  | succ fuel ih =>
      unfold follow
      by_cases met : error ∈ seen
      · rw [if_pos (List.contains_iff_mem.mpr met)]
        exact ⟨0, .again met⟩
      · rw [if_neg (mt List.contains_iff_mem.mp met)]
        cases behind : fault.next? error with
        | none =>
            have last : fault.Last error := by
              intro next link
              rw [next?_eq_some_iff.mpr link] at behind
              cases behind
            exact ⟨1, .ended met last⟩
        | some next =>
            have link := next?_eq_some_iff.mp behind
            have left : fault.nodes.length ≤ fuel + (error :: seen).length := by
              rw [List.length_cons]
              omega
            obtain ⟨turns, walks⟩ := ih (within.onward met link.below) left
            exact ⟨turns + 1, .passed met link walks⟩

/-! The way that the walk takes. -/

/-- The way from `start` to an error passes the errors of `seen`, the last of them first. -/
inductive Way (fault : Fault) (start : Nat) : List Nat → Nat → Prop
  | start : fault.Way start [] start
  | onward {seen : List Nat} {error next : Nat} (way : fault.Way start seen error) (link : fault.Behind error next) :
      fault.Way start (error :: seen) next

namespace Way

theorem reaches (way : fault.Way start seen error) : fault.Reaches start error := by
  induction way with
  | start => exact .refl
  | onward _ link ih => exact ih.tail link

/-- All that was passed lies in front of the error at hand. -/
theorem behind (way : fault.Way start seen error) {other : Nat} (passed : other ∈ seen) :
    TransGen fault.Behind other error := by
  induction way with
  | start => cases passed
  | onward _ link ih =>
      rcases List.mem_cons.mp passed with rfl | earlier
      · exact .single link
      · exact (ih earlier).tail link

theorem start_mem (way : fault.Way start seen error) : error = start ∨ start ∈ seen := by
  induction way with
  | start => exact Or.inl rfl
  | onward _ _ ih =>
      rcases ih with rfl | earlier
      · exact Or.inr List.mem_cons_self
      · exact Or.inr (List.mem_cons_of_mem _ earlier)

/-- A way that passes an error is a way to it and a way from it. -/
theorem split {front back : List Nat} {middle : Nat} (way : fault.Way start (front ++ middle :: back) error) :
    fault.Way start back middle ∧ fault.Way middle (front ++ [middle]) error := by
  induction front generalizing error with
  | nil =>
      cases way with
      | onward way link => exact ⟨way, .onward .start link⟩
  | cons head front ih =>
      cases way with
      | onward way link =>
          obtain ⟨there, back⟩ := ih way
          exact ⟨there, .onward back link⟩

/-- Behind what a way has passed stands what it has passed or the error at its end. -/
theorem next_mem (way : fault.Way start seen error) {other : Nat} (passed : other ∈ seen)
    (link : fault.Behind other next) : next = error ∨ next ∈ seen := by
  induction way with
  | start => cases passed
  | onward _ step ih =>
      rcases List.mem_cons.mp passed with rfl | earlier
      · exact Or.inl (link.unique step)
      · rcases ih earlier with rfl | among
        · exact Or.inr List.mem_cons_self
        · exact Or.inr (List.mem_cons_of_mem _ among)

/-- A way that comes back to where it began has passed all that can be reached from there. -/
theorem mem_of_reaches (way : fault.Way start seen start) (begun : start ∈ seen) (reached : fault.Reaches start error) :
    error ∈ seen := by
  induction reached with
  | refl => exact begun
  | tail _ link ih =>
      rcases way.next_mem ih link with rfl | among
      · exact begun
      · exact among

/-- A way that passes no error twice comes again first to the error from which it began, if it can come there again. -/
theorem eq_start (way : fault.Way start seen error) (distinct : seen.Nodup) (met : error ∈ seen)
    (back : fault.Reaches error start) : error = start := by
  obtain ⟨front, behind, rfl⟩ := List.append_of_mem met
  obtain ⟨first, round⟩ := way.split
  -- Otherwise the round from the error back to it goes past the start as well, which was passed before.
  rcases first.start_mem with same | earlier
  · exact same
  · have passed := round.mem_of_reaches (by simp) back
    rcases List.mem_append.mp passed with later | here
    · exact absurd rfl (List.nodup_append.mp distinct |>.2.2 _ later _ (List.mem_cons_of_mem _ earlier))
    · exact (List.mem_singleton.mp here).symm

end Way

/-- Where a walk from `start` may end: where the way there goes round, or behind the last error. -/
theorem Walks.way {turns : Nat} (walks : fault.Walks seen error turns root) (way : fault.Way start seen error)
    (distinct : seen.Nodup) :
    ∃ passed, fault.Way start passed root ∧ passed.Nodup ∧ (root ∈ passed ∨ fault.Last root) := by
  induction walks with
  | again met => exact ⟨_, way, distinct, Or.inl met⟩
  | ended _ last => exact ⟨_, way, distinct, Or.inr last⟩
  | passed fresh link _ ih => exact ih (way.onward link) (List.nodup_cons.mpr ⟨fresh, distinct⟩)

theorem walks_rootFrom (present : error < fault.nodes.length) :
    ∃ turns, turns ≤ fault.nodes.length ∧ fault.Walks [] error turns (fault.rootFrom error) := by
  have within : fault.Within [] error := ⟨List.nodup_nil, nofun, present⟩
  obtain ⟨turns, walks⟩ := follow_walks within (Nat.le_succ fault.nodes.length)
  exact ⟨turns, walks.turns_le within, walks⟩

theorem way_rootFrom (present : error < fault.nodes.length) :
    ∃ passed, fault.Way error passed (fault.rootFrom error) ∧ passed.Nodup ∧
      (fault.rootFrom error ∈ passed ∨ fault.Last (fault.rootFrom error)) := by
  obtain ⟨_, _, walks⟩ := walks_rootFrom present
  exact walks.way .start List.nodup_nil

/-! Roots. -/

theorem Last.eq_of_reaches (last : fault.Last error) {other : Nat} (reached : fault.Reaches error other) :
    other = error := by
  rcases ReflTransGen.cases_head reached with same | ⟨next, link, _⟩
  · exact same.symm
  · exact absurd link (last next)

theorem Reaches.below {other : Nat} (reached : fault.Reaches error other) (present : error < fault.nodes.length) :
    other < fault.nodes.length := by
  rcases ReflTransGen.cases_tail reached with same | ⟨_, _, link⟩
  · rwa [same]
  · exact link.below

theorem reaches_rootFrom (present : error < fault.nodes.length) : fault.Reaches error (fault.rootFrom error) := by
  obtain ⟨_, way, _⟩ := way_rootFrom present
  exact way.reaches

theorem rootFrom_last_or_circle (present : error < fault.nodes.length) :
    fault.Last (fault.rootFrom error) ∨ fault.Circle (fault.rootFrom error) (fault.rootFrom error) := by
  obtain ⟨_, way, _, met | last⟩ := way_rootFrom present
  · exact Or.inr ⟨way.behind met, way.behind met⟩
  · exact Or.inl last

theorem rootFrom_of_last (last : fault.Last error) (present : error < fault.nodes.length) :
    fault.rootFrom error = error :=
  last.eq_of_reaches (reaches_rootFrom present)

/-- On a circle the walk goes round once, to where it began. -/
theorem rootFrom_of_circle (circle : fault.Circle error error) (present : error < fault.nodes.length) :
    fault.rootFrom error = error := by
  obtain ⟨_, way, distinct, ending⟩ := way_rootFrom present
  have around := circle.reaches way.reaches
  have met := ending.resolve_right (Circle.not_last ⟨around.2, around.1⟩)
  exact way.eq_start distinct met around.2.to_reflTransGen

/-- The links have no forks, so that every circle which the error leads to is the one of its root. -/
theorem circle_rootFrom {other : Nat} (present : error < fault.nodes.length) (reached : fault.Reaches error other)
    (circle : fault.Circle other other) : fault.Circle other (fault.rootFrom error) := by
  have forkless : Relator.RightUnique fault.Behind := fun _ _ _ link same => link.unique same
  -- Of two errors that one leads to, one leads to the other.
  rcases ReflTransGen.total_of_right_unique forkless reached (reaches_rootFrom present) with onward | back
  · exact circle.reaches onward
  · rcases rootFrom_last_or_circle present with last | around
    · rw [last.eq_of_reaches back] at circle
      exact absurd last circle.not_last
    · have met := around.reaches back
      exact ⟨met.2, met.1⟩

/-- The walk from any error of a fault takes at most as many turns as there are errors. It ends at an error that it
reaches: at the last of the chain if it comes to no circle, and else on the circle; walking on from there comes back
there. -/
theorem rootFrom_settles (present : error < fault.nodes.length) :
    (∃ turns, turns ≤ fault.nodes.length ∧ fault.Walks [] error turns (fault.rootFrom error)) ∧
      fault.Reaches error (fault.rootFrom error) ∧
      ((∀ other, fault.Reaches error other → ¬ fault.Circle other other) → fault.Last (fault.rootFrom error)) ∧
      (∀ other, fault.Reaches error other → fault.Circle other other → fault.Circle other (fault.rootFrom error)) ∧
      fault.rootFrom (fault.rootFrom error) = fault.rootFrom error := by
  have reached := reaches_rootFrom present
  have settled := rootFrom_last_or_circle present
  refine ⟨walks_rootFrom present, reached, ?chain, fun _ => circle_rootFrom present, ?again⟩
  case chain =>
    intro straight
    exact settled.resolve_right (straight _ reached)
  case again =>
    rcases settled with last | circle
    · exact rootFrom_of_last last (reached.below present)
    · exact rootFrom_of_circle circle (reached.below present)

/-- Three errors stand behind each other in a circle, and a fourth in front of one of them. -/
def entangled : Fault where
  nodes := [1, 2, 3, 1].map fun next => { kind := .native, args := [], cause := .error next }

theorem rootFrom_settles_entangled :
    0 < entangled.nodes.length ∧ entangled.Reaches 0 1 ∧ entangled.Circle 1 1 ∧
      (∃ turns, turns ≤ entangled.nodes.length ∧ entangled.Walks [] 0 turns (entangled.rootFrom 0)) ∧
      entangled.Circle 1 (entangled.rootFrom 0) ∧
      entangled.rootFrom (entangled.rootFrom 0) = entangled.rootFrom 0 := by
  have link (error next : Nat) (follows : entangled.next? error = some next) : entangled.Behind error next :=
    next?_eq_some_iff.mp follows
  have reached : entangled.Reaches 0 1 := .single (link 0 1 (by decide))
  have around : TransGen entangled.Behind 1 1 :=
    .tail (.tail (.single (link 1 2 (by decide))) (link 2 3 (by decide))) (link 3 1 (by decide))
  have present : 0 < entangled.nodes.length := by decide
  obtain ⟨walks, _, _, circles, again⟩ := rootFrom_settles present
  exact ⟨present, reached, ⟨around, around⟩, walks, circles 1 reached ⟨around, around⟩, again⟩

end TableFerry.Fault
