import Mathlib.Data.List.Infix
import Mathlib.Data.List.TakeWhile

namespace StateFlow.Text

/-- A text splits in one way at the first letter that fails a test. -/
theorem span_unique {test : Char → Bool} {first second later others : List Char}
    {mark other : Char} (passed : ∀ letter ∈ first, test letter = true)
    (also : ∀ letter ∈ second, test letter = true) (failed : test mark = false)
    (fails : test other = false) (same : first ++ mark :: later = second ++ other :: others) :
    first = second ∧ mark = other ∧ later = others := by
  induction first generalizing second with
  | nil =>
      cases second with
      | nil => exact ⟨rfl, List.cons.inj same⟩
      | cons head tail =>
          have passes := also head List.mem_cons_self
          rw [← (List.cons.inj same).1, failed] at passes
          cases passes
  | cons letter rest ih =>
      cases second with
      | nil =>
          have passes := passed letter List.mem_cons_self
          rw [(List.cons.inj same).1, fails] at passes
          cases passes
      | cons head tail =>
          rw [List.cons_append, List.cons_append] at same
          obtain ⟨start, ends⟩ := List.cons.inj same
          obtain ⟨front, back⟩ := ih (fun other inside => passed other (List.mem_cons_of_mem _ inside))
            (fun other inside => also other (List.mem_cons_of_mem _ inside)) ends
          exact ⟨by rw [start, front], back⟩

/-- A text splits in one way at the first of its marks. -/
theorem splitAt_unique {first second later others : List Char} {mark : Char}
    (free : mark ∉ first) (also : mark ∉ second)
    (same : first ++ mark :: later = second ++ mark :: others) :
    first = second ∧ later = others := by
  have split := @span_unique (fun letter => letter ≠ mark) _ _ _ _ _ _
    (fun letter inside => decide_eq_true fun marked => free (marked ▸ inside))
    (fun letter inside => decide_eq_true fun marked => also (marked ▸ inside))
    (decide_eq_false (not_not.mpr rfl)) (decide_eq_false (not_not.mpr rfl)) same
  exact ⟨split.1, split.2.2⟩

/-- A mark that a front lacks stands behind the front. -/
theorem append_of_mark {front back early late : List Char} {mark : Char} (free : mark ∉ front)
    (same : front ++ back = early ++ mark :: late) :
    ∃ inner, early = front ++ inner ∧ back = inner ++ mark :: late := by
  rcases List.append_eq_append_iff.mp same with behind | ⟨beyond, cut, ends⟩
  · exact behind
  · cases beyond with
    | nil => exact ⟨[], by rw [cut, List.append_nil, List.append_nil], ends.symm⟩
    | cons letter beyond =>
        rw [cut, (List.cons.inj ends).1] at free
        exact absurd (List.mem_append_right early List.mem_cons_self) free

/-- The left-most pairs of two letters become one letter each. -/
def replacePair (first second new : Char) : List Char → List Char
  | [] => []
  | [letter] => [letter]
  | letter :: next :: rest =>
      if letter = first ∧ next = second then new :: replacePair first second new rest
      else letter :: replacePair first second new (next :: rest)

section Replace
variable {first second new : Char}

theorem replacePair_hit (rest : List Char) :
    replacePair first second new (first :: second :: rest) =
      new :: replacePair first second new rest := by
  rw [replacePair, if_pos ⟨rfl, rfl⟩]

/-- A letter stays when another one follows it than in the pair. -/
theorem replacePair_keep {letter : Char} {rest : List Char}
    (misses : letter = first → rest.head? ≠ some second) :
    replacePair first second new (letter :: rest) =
      letter :: replacePair first second new rest := by
  cases rest with
  | nil => rfl
  | cons next rest =>
      rw [replacePair, if_neg]
      rintro ⟨same, also⟩
      exact misses same (congrArg some also)

end Replace

/-- The letters that end a line. -/
def isLineBreak (letter : Char) : Bool :=
  let point := letter.toNat
  (10 ≤ point && point ≤ 13) || (28 ≤ point && point ≤ 30) || point = 133 || point = 8232
    || point = 8233

/-- The lines of a text after a started line. A return and a line feed end one line. -/
def splitFrom : List Char → List Char → List (List Char)
  | line, [] => if line = [] then [] else [line]
  | line, '\r' :: '\n' :: rest => line :: splitFrom [] rest
  | line, letter :: rest =>
      if isLineBreak letter then line :: splitFrom [] rest else splitFrom (line ++ [letter]) rest

/-- `splitlines` leaves no empty line after a last line break. -/
def splitlines (text : String) : List String := (splitFrom [] text.toList).map String.ofList

theorem splitFrom_letter {letter : Char} (inside : isLineBreak letter = false)
    (line rest : List Char) :
    splitFrom line (letter :: rest) = splitFrom (line ++ [letter]) rest := by
  conv_lhs => unfold splitFrom
  split
  · cases ‹_ = []›
  · rename_i same
    rw [(List.cons.inj same).1] at inside
    exact absurd inside (by decide)
  · rename_i same
    obtain ⟨rfl, rfl⟩ := List.cons.inj same
    rw [inside, if_neg Bool.false_ne_true]

/-- Letters that end no line extend the started line. -/
theorem splitFrom_append {front : List Char} (plain : ∀ letter ∈ front, isLineBreak letter = false)
    (line rest : List Char) : splitFrom line (front ++ rest) = splitFrom (line ++ front) rest := by
  induction front generalizing line with
  | nil => rw [List.nil_append, List.append_nil]
  | cons letter front ih =>
      rw [List.cons_append, splitFrom_letter (plain letter List.mem_cons_self),
        ih (fun other member => plain other (List.mem_cons_of_mem _ member)), List.append_assoc]
      rfl

/-- A line break ends the started line. -/
theorem splitFrom_break {letter : Char} (ends : isLineBreak letter = true) (line rest : List Char) :
    ∃ later, splitFrom line (letter :: rest) = line :: later := by
  unfold splitFrom
  split
  · cases ‹_ = []›
  · exact ⟨_, rfl⟩
  · rename_i same
    obtain ⟨rfl, rfl⟩ := List.cons.inj same
    exact ⟨_, if_pos ends⟩

/-- A line feed ends a line, whatever stands before it. -/
theorem splitFrom_feed (line front rest : List Char) :
    ∃ early, splitFrom line (front ++ '\n' :: rest) = early ++ splitFrom [] rest := by
  induction line, front using splitFrom.induct with
  | case1 => exact ⟨[[]], rfl⟩
  | case2 line => exact ⟨[line], rfl⟩
  | case3 line front ih =>
      obtain ⟨early, same⟩ := ih
      exact ⟨line :: early, congrArg (line :: ·) same⟩
  | case4 line letter front paired ends ih =>
      obtain ⟨early, same⟩ := ih
      by_cases last : letter = '\r' ∧ front = []
      · rw [last.1, last.2]
        exact ⟨[line], rfl⟩
      · refine ⟨line :: early, ?_⟩
        rw [List.cons_append, List.cons_append, ← same]
        conv_lhs => unfold splitFrom
        split
        · cases ‹_ = []›
        · rename_i others
          obtain ⟨head, tail⟩ := List.cons.inj others
          cases front with
          | nil => exact absurd ⟨head, rfl⟩ last
          | cons next front =>
              exact absurd (congrArg (· :: front) (List.cons.inj tail).1) (paired front head)
        · rename_i others
          obtain ⟨rfl, rfl⟩ := List.cons.inj others
          exact if_pos ends
  | case5 line letter front paired inside ih =>
      obtain ⟨early, same⟩ := ih
      exact ⟨early, (splitFrom_letter (Bool.eq_false_iff.mpr inside) line _).trans same⟩

/-- A text splits at its first letter that passes a test. -/
theorem exists_first {test : Char → Bool} {letters : List Char}
    (found : ∃ letter ∈ letters, test letter = true) :
    ∃ front mark rest, letters = front ++ mark :: rest ∧ test mark = true ∧
      ∀ letter ∈ front, test letter = false := by
  obtain ⟨mark, first⟩ := Option.isSome_iff_exists.mp (List.find?_isSome.mpr found)
  obtain ⟨passed, front, rest, split, before⟩ := List.find?_eq_some_iff_append.mp first
  refine ⟨front, mark, rest, split, passed, fun letter inside => ?_⟩
  simpa using before letter inside

/-- The lines of a text that ends each of them with a line feed. -/
def terminated (lines : List (List Char)) : List Char := lines.flatMap fun line => line ++ ['\n']

theorem terminated_cons (line : List Char) (lines : List (List Char)) :
    terminated (line :: lines) = line ++ '\n' :: terminated lines := by
  rw [terminated, List.flatMap_cons, List.append_assoc]
  rfl

theorem terminated_append (lines others : List (List Char)) :
    terminated (lines ++ others) = terminated lines ++ terminated others := List.flatMap_append

/-- Lines without line breaks are read back. -/
theorem splitFrom_terminated {lines : List (List Char)}
    (plain : ∀ line ∈ lines, ∀ letter ∈ line, isLineBreak letter = false) :
    splitFrom [] (terminated lines) = lines := by
  induction lines with
  | nil => rfl
  | cons line rest ih =>
      rw [terminated_cons, splitFrom_append (plain line List.mem_cons_self),
        show ∀ started, splitFrom started ('\n' :: terminated rest) =
          started :: splitFrom [] (terminated rest) from fun _ => rfl,
        ih fun other member => plain other (List.mem_cons_of_mem _ member)]
      rfl

/-- A line that a line break cuts is read up to its first line break. -/
theorem mem_splitFrom {prior : List (List Char)} {front rest : List Char} {letter : Char}
    (plain : ∀ other ∈ front, isLineBreak other = false) (ends : isLineBreak letter = true) :
    front ∈ splitFrom [] (terminated prior ++ (front ++ letter :: rest)) := by
  induction prior with
  | nil =>
      obtain ⟨later, same⟩ := splitFrom_break ends front rest
      rw [show terminated [] = [] from rfl, List.nil_append, splitFrom_append plain,
        List.nil_append, same]
      exact List.mem_cons_self
  | cons line prior ih =>
      obtain ⟨early, same⟩ :=
        splitFrom_feed [] line (terminated prior ++ (front ++ letter :: rest))
      rw [terminated_cons, List.append_assoc, List.cons_append, same]
      exact List.mem_append_right early ih

end StateFlow.Text
