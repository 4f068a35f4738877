import TableFerry.Proofs.ReflectedDefaults
/-! How a text between marks is read: the mark that ends it, written twice, stands for itself. The last theorem says that
a literal is read as the text that it was made of and that nothing behind it is taken in, unless a quote stands there. -/

namespace TableFerry

namespace Text

variable {mark opening : Char} {cs inside rest : List Char}

/-- A text in which one character is written twice. -/
def doubleMark (mark : Char) (cs : List Char) : List Char :=
  cs.flatMap fun c => if c = mark then [mark, mark] else [c]

theorem doubleMark_cons (mark c : Char) (cs : List Char) :
    doubleMark mark (c :: cs) = (if c = mark then [mark, mark] else [c]) ++ doubleMark mark cs := rfl

theorem length_doubleMark (mark : Char) (cs : List Char) :
    (doubleMark mark cs).length = cs.length + cs.count mark := by
  induction cs with
  | nil => rfl
  | cons c cs ih =>
      rw [doubleMark_cons, List.length_append, ih, List.count_cons, List.length_cons]
      by_cases same : c = mark <;> simp [same] <;> omega

theorem doubleMark_free (free : mark ∉ cs) : doubleMark mark cs = cs := by
  induction cs with
  | nil => rfl
  | cons c cs ih =>
      rw [List.mem_cons, not_or] at free
      rw [doubleMark_cons, if_neg (Ne.symm free.1), ih free.2]
      rfl

/-- What stands in front of the mark that ends a text, and what follows that mark. -/
def readMarked (mark : Char) : List Char → Option (List Char × List Char)
  | [] => none
  | [c] => if c = mark then some ([], []) else none
  | c :: d :: rest =>
    if c = mark then
      if d = mark then (readMarked mark rest).map fun read => (mark :: read.1, read.2)
      else some ([], d :: rest)
    else (readMarked mark (d :: rest)).map fun read => (c :: read.1, read.2)

theorem readMarked_end (apart : rest.head? ≠ some mark) : readMarked mark (mark :: rest) = some ([], rest) := by
  cases rest with
  | nil => simp [readMarked]
  | cons c rest =>
      have other : c ≠ mark := fun same => apart (congrArg some same)
      simp [readMarked, other]

theorem readMarked_twice (mark : Char) (cs : List Char) :
    readMarked mark (mark :: mark :: cs) = (readMarked mark cs).map fun read => (mark :: read.1, read.2) := by
  simp [readMarked]

theorem readMarked_other {c : Char} (other : c ≠ mark) (cs : List Char) :
    readMarked mark (c :: cs) = (readMarked mark cs).map fun read => (c :: read.1, read.2) := by
  cases cs <;> simp [readMarked, other]

theorem readMarked_doubleMark (apart : rest.head? ≠ some mark) (inside : List Char) :
    readMarked mark (doubleMark mark inside ++ mark :: rest) = some (inside, rest) := by
  induction inside with
  | nil => exact readMarked_end apart
  | cons c inside ih =>
      rw [doubleMark_cons]
      split
      next same =>
        subst same
        rw [List.append_assoc, List.cons_append, List.cons_append, List.nil_append, readMarked_twice, ih]
        rfl
      next other =>
        rw [List.append_assoc, List.singleton_append, readMarked_other other, ih]
        rfl

theorem eq_of_readMarked (found : readMarked mark cs = some (inside, rest)) :
    cs = doubleMark mark inside ++ mark :: rest ∧ rest.head? ≠ some mark := by
  fun_induction readMarked mark cs generalizing inside with
  | case1 => cases found
  | case2 => simp_all [doubleMark]
  | case3 => cases found
  | case4 tail ih =>
      simp only [Option.map_eq_some_iff, Prod.mk.injEq, Prod.exists] at found
      obtain ⟨before, behind, deeper, rfl, rfl⟩ := found
      obtain ⟨written, apart⟩ := ih deeper
      exact ⟨by rw [written]; simp [doubleMark_cons], apart⟩
  | case5 d tail other =>
      cases found
      exact ⟨rfl, by simpa using other⟩
  | case6 c d tail other ih =>
      simp only [Option.map_eq_some_iff, Prod.mk.injEq, Prod.exists] at found
      obtain ⟨before, behind, deeper, rfl, rfl⟩ := found
      obtain ⟨written, apart⟩ := ih deeper
      exact ⟨by rw [written]; simp [doubleMark_cons, other], apart⟩

/-- A text is read up to its mark exactly where it is written with its marks doubled and no mark follows. -/
theorem readMarked_eq_some_iff : readMarked mark cs = some (inside, rest) ↔
    cs = doubleMark mark inside ++ mark :: rest ∧ rest.head? ≠ some mark :=
  ⟨eq_of_readMarked, fun ⟨written, apart⟩ => written ▸ readMarked_doubleMark apart inside⟩

/-- A text between two marks, and what follows it. -/
def readBetween (opening closing : Char) : List Char → Option (List Char × List Char)
  | [] => none
  | c :: cs => if c = opening then readMarked closing cs else none

theorem readBetween_eq_some_iff {closing : Char} : readBetween opening closing cs = some (inside, rest) ↔
    cs = opening :: doubleMark closing inside ++ closing :: rest ∧ rest.head? ≠ some closing := by
  cases cs with
  | nil => simp [readBetween]
  | cons c cs =>
      by_cases opens : c = opening
      · rw [readBetween, if_pos opens, readMarked_eq_some_iff, opens, List.cons_append, List.cons_inj_right]
      · simp [readBetween, opens]

end Text

namespace Literal

open Text

variable {cs inside rest : List Char}

/-- A text literal and what follows it. -/
def read : List Char → Option (List Char × List Char) := readBetween '\'' '\''

/-- A text literal that may have an N in front of it: whether it has, its text and what follows. -/
def readNational : List Char → Option (Bool × List Char × List Char)
  | [] => none
  | c :: cs => if c = 'N' then (read cs).map (true, ·) else (read (c :: cs)).map (false, ·)

/-- The characters of a text that a literal keeps. -/
def kept (dropSemicolons : Bool) (text : String) : List Char :=
  if dropSemicolons then text.toList.filter (· ≠ ';') else text.toList

theorem toList_quote_kept (text : String) (drop : Bool) :
    (quote text drop).toList = '\'' :: doubleMark '\'' (kept drop text) ++ ['\''] := String.toList_ofList

theorem quote_filled (text : String) (drop : Bool) : quote text drop ≠ "" := by
  intro empty
  have chars := toList_quote_kept text drop
  rw [empty] at chars
  cases chars

theorem read_quote_iff (text : String) (drop : Bool) (rest : List Char) :
    read ((quote text drop).toList ++ rest) = some (kept drop text, rest) ↔ rest.head? ≠ some '\'' := by
  rw [read, readBetween_eq_some_iff, toList_quote_kept, List.append_assoc, List.singleton_append]
  exact and_iff_right rfl

theorem readNational_marked (cs : List Char) : readNational ('N' :: cs) = (read cs).map (true, ·) := rfl

theorem readNational_quote (text : String) (rest : List Char) :
    readNational ((quote text).toList ++ rest) = (read ((quote text).toList ++ rest)).map (false, ·) := by
  rw [toList_quote]
  rfl

/-- Whether a character of a text is not ASCII. -/
def beyondAscii (text : String) : Bool := text.toList.any fun c => 128 ≤ c.toNat

theorem isAsciiText_eq (text : String) : isAsciiText text = !beyondAscii text := by
  rw [beyondAscii, List.not_any_eq_all_not, isAsciiText]
  congr 1
  funext c
  simp [isAscii, ← decide_not]

theorem readNational_national_iff (text : String) (rest : List Char) :
    readNational ((national text).toList ++ rest) = some (beyondAscii text, text.toList, rest) ↔
      rest.head? ≠ some '\'' := by
  rw [← read_quote_iff text false rest, national, isAsciiText_eq]
  cases beyondAscii text with
  | false =>
      rw [Bool.not_false, if_pos rfl, readNational_quote]
      simp [kept]
  | true =>
      rw [Bool.not_true, if_neg Bool.false_ne_true, String.toList_append, List.append_assoc]
      have letter : "N".toList = ['N'] := by decide
      rw [letter, List.singleton_append, readNational_marked]
      simp [kept]

/-- Read in front of any text, a literal denotes what it was made of and ends where it ends, exactly if no quote follows;
a national one is marked exactly if its text is not ASCII alone. -/
theorem quote_reads (text : String) (rest : List Char) :
    (∀ drop, read ((quote text drop).toList ++ rest) = some (kept drop text, rest) ↔ rest.head? ≠ some '\'') ∧
    (readNational ((national text).toList ++ rest) = some (beyondAscii text, text.toList, rest) ↔
      rest.head? ≠ some '\'') :=
  ⟨fun drop => read_quote_iff text drop rest, readNational_national_iff text rest⟩

end Literal

end TableFerry
