import TableFerry.Pattern.Syntax
/-!
The least and the greatest number of characters that a pattern can take, up to a common bound.
-/
namespace TableFerry.Pattern

def widthBound : Nat := 1 <<< 64

/-- Widths of the groups that are closed, by number. -/
abbrev GroupWidths := List (Nat × (Nat × Nat))

mutual

def width (groups : GroupWidths) : Node → Nat × Nat
  | .char _ => (1, 1)
  | .set _ _ => (1, 1)
  | .any => (1, 1)
  | .anchor _ => (0, 0)
  | .group _ _ _ body => widthOfAll groups body
  | .alternatives branches => widthOfSome groups branches
  | .repeated least most _ body =>
    let (low, high) := widthOfAll groups body
    (low * least, match most with
      | some most => high * most
      | none => if high = 0 then 0 else widthBound)
  | .reference number => (groups.lookup number).getD (0, 0)
  | .look _ _ _ => (0, 0)
  | .conditional _ present absent =>
    let (low, high) := widthOfAll groups present
    let (low', high') := widthOfAll groups absent
    (min low low', max high high')
  | .atomic body => widthOfAll groups body

def widthOfAll (groups : GroupWidths) : List Node → Nat × Nat
  | [] => (0, 0)
  | node :: nodes =>
    let (low, high) := width groups node
    let (low', high') := widthOfAll groups nodes
    (min (low + low') widthBound, min (high + high') widthBound)

def widthOfSome (groups : GroupWidths) : List (List Node) → Nat × Nat
  | [] => (widthBound, 0)
  | nodes :: rest =>
    let (low, high) := widthOfAll groups nodes
    let (low', high') := widthOfSome groups rest
    (min low low', max high high')

end

mutual

/-- Every look behind takes a fixed number of characters. -/
def looksFixed (groups : GroupWidths) : Node → Bool
  | .group _ _ _ body => allLooksFixed groups body
  | .alternatives branches => someLooksFixed groups branches
  | .repeated _ _ _ body => allLooksFixed groups body
  | .look behind _ body =>
    (behind.isNone || (let (low, high) := widthOfAll groups body; low == high)) && allLooksFixed groups body
  | .conditional _ present absent => allLooksFixed groups present && allLooksFixed groups absent
  | .atomic body => allLooksFixed groups body
  | _ => true

def allLooksFixed (groups : GroupWidths) : List Node → Bool
  | [] => true
  | node :: nodes => looksFixed groups node && allLooksFixed groups nodes

def someLooksFixed (groups : GroupWidths) : List (List Node) → Bool
  | [] => true
  | nodes :: rest => allLooksFixed groups nodes && someLooksFixed groups rest

end

end TableFerry.Pattern
