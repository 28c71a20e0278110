import Mathlib.Data.List.Basic

namespace StateFlow.Regex

/-- The expressions of a backtracking matcher. A group has a number. -/
inductive Pattern where
  | empty
  | letter (test : Char → Bool)
  | seq (first second : Pattern)
  | alt (first second : Pattern)
  | many (item : Pattern)
  | group (number : Nat) (item : Pattern)
  | finish

abbrev Groups := List (Nat × List Char)

/-- The part of a text before its rest. -/
def taken (text rest : List Char) : List Char := text.take (text.length - rest.length)

/-- A greedy repetition tries one more item before it stops. -/
def iterate {R : Type}
    (item : List Char → Groups → (List Char → Groups → Option R) → Option R) :
    Nat → List Char → Groups → (List Char → Groups → Option R) → Option R
  | 0, text, groups, next => next text groups
  | fuel + 1, text, groups, next =>
      (item text groups fun rest found =>
        if rest.length < text.length then iterate item fuel rest found next else none).or
        (next text groups)

/-- The first way to match that the continuation accepts. The end may precede a last line feed. -/
def attempt {R : Type} :
    Pattern → List Char → Groups → (List Char → Groups → Option R) → Option R
  | .empty, text, groups, next => next text groups
  | .letter _, [], _, _ => none
  | .letter test, letter :: rest, groups, next => if test letter then next rest groups else none
  | .seq first second, text, groups, next =>
      attempt first text groups fun rest found => attempt second rest found next
  | .alt first second, text, groups, next =>
      (attempt first text groups next).or (attempt second text groups next)
  | .many item, text, groups, next => iterate (attempt item) text.length text groups next
  | .group number item, text, groups, next =>
      attempt item text groups fun rest found => next rest ((number, taken text rest) :: found)
  | .finish, text, groups, next =>
      if text = [] ∨ text = ['\n'] then next text groups else none

/-- A match at the start of a text leaves a rest and some groups. -/
def Pattern.matchStart (pattern : Pattern) (text : List Char) : Option (List Char × Groups) :=
  attempt pattern text [] fun rest groups => some (rest, groups)

/-- A single letter. -/
def Pattern.exact (letter : Char) : Pattern := .letter fun other => other = letter

def Pattern.plus (item : Pattern) : Pattern := .seq item (.many item)

def Pattern.optional (item : Pattern) : Pattern := .alt item .empty

theorem taken_append (front rest : List Char) : taken (front ++ rest) rest = front := by
  rw [taken, List.length_append, Nat.add_sub_cancel, List.take_left]

/-- A pattern can match a text up to a rest and capture some groups. -/
inductive Way : Pattern → List Char → List Char → Groups → Prop
  | empty (text : List Char) : Way .empty text text []
  | letter {test : Char → Bool} {letter : Char} (rest : List Char) (passed : test letter = true) :
      Way (.letter test) (letter :: rest) rest []
  | seq {first second : Pattern} {text middle rest : List Char} {early late : Groups}
      (before : Way first text middle early) (after : Way second middle rest late) :
      Way (.seq first second) text rest (late ++ early)
  | left {first second : Pattern} {text rest : List Char} {found : Groups}
      (way : Way first text rest found) : Way (.alt first second) text rest found
  | right {first second : Pattern} {text rest : List Char} {found : Groups}
      (way : Way second text rest found) : Way (.alt first second) text rest found
  | stop (item : Pattern) (text : List Char) : Way (.many item) text text []
  | more {item : Pattern} {text middle rest : List Char} {early late : Groups}
      (before : Way item text middle early) (after : Way (.many item) middle rest late) :
      Way (.many item) text rest (late ++ early)
  | group {number : Nat} {item : Pattern} {text rest : List Char} {found : Groups}
      (way : Way item text rest found) :
      Way (.group number item) text rest ((number, taken text rest) :: found)
  | finish {text : List Char} (ended : text = [] ∨ text = ['\n']) : Way .finish text text []

/-- An accepted repetition repeats a way of its item. -/
theorem iterate_way {R : Type} {item : Pattern}
    (sound : ∀ (text : List Char) (groups : Groups) (next : List Char → Groups → Option R)
      (result : R), attempt item text groups next = some result →
        ∃ rest found, Way item text rest found ∧ next rest (found ++ groups) = some result)
    (fuel : Nat) (text : List Char) (groups : Groups) (next : List Char → Groups → Option R)
    (result : R) (accepted : iterate (attempt item) fuel text groups next = some result) :
    ∃ rest found, Way (.many item) text rest found ∧
      next rest (found ++ groups) = some result := by
  induction fuel generalizing text groups with
  | zero => exact ⟨text, [], .stop item text, accepted⟩
  | succ fuel ih =>
      rw [iterate, Option.or_eq_some_iff] at accepted
      rcases accepted with again | ⟨_, stopped⟩
      · obtain ⟨middle, early, before, continued⟩ := sound _ _ _ _ again
        split at continued
        · obtain ⟨rest, late, after, final⟩ := ih _ _ continued
          exact ⟨rest, late ++ early, .more before after, by rwa [List.append_assoc]⟩
        · cases continued
      · exact ⟨text, [], .stop item text, stopped⟩

/-- An accepted attempt follows a way of its pattern. -/
theorem attempt_way {R : Type} (pattern : Pattern) (text : List Char) (groups : Groups)
    (next : List Char → Groups → Option R) (result : R)
    (accepted : attempt pattern text groups next = some result) :
    ∃ rest found, Way pattern text rest found ∧ next rest (found ++ groups) = some result := by
  induction pattern generalizing text groups next result with
  | empty => exact ⟨text, [], .empty text, accepted⟩
  | letter test =>
      cases text with
      | nil => cases accepted
      | cons letter rest =>
          rw [attempt] at accepted
          split at accepted
          · exact ⟨rest, [], .letter rest ‹_›, accepted⟩
          · cases accepted
  | seq first second ihFirst ihSecond =>
      obtain ⟨middle, early, before, continued⟩ := ihFirst _ _ _ _ accepted
      obtain ⟨rest, late, after, final⟩ := ihSecond _ _ _ _ continued
      exact ⟨rest, late ++ early, .seq before after, by rwa [List.append_assoc]⟩
  | alt first second ihFirst ihSecond =>
      rw [attempt, Option.or_eq_some_iff] at accepted
      rcases accepted with chosen | ⟨_, chosen⟩
      · obtain ⟨rest, found, way, final⟩ := ihFirst _ _ _ _ chosen
        exact ⟨rest, found, .left way, final⟩
      · obtain ⟨rest, found, way, final⟩ := ihSecond _ _ _ _ chosen
        exact ⟨rest, found, .right way, final⟩
  | many item ih => exact iterate_way ih _ _ _ _ _ accepted
  | group number item ih =>
      obtain ⟨rest, found, way, final⟩ := ih _ _ _ _ accepted
      exact ⟨rest, _, .group way, final⟩
  | finish =>
      rw [attempt] at accepted
      split at accepted
      · exact ⟨text, [], .finish ‹_›, accepted⟩
      · cases accepted

/-- A match is a way of its pattern. -/
theorem matchStart_way {pattern : Pattern} {text rest : List Char} {groups : Groups}
    (matched : pattern.matchStart text = some (rest, groups)) : Way pattern text rest groups := by
  obtain ⟨last, found, way, final⟩ := attempt_way _ _ _ _ _ matched
  cases final
  rwa [List.append_nil]

theorem way_seq {first second : Pattern} {text rest : List Char} {found : Groups} :
    Way (.seq first second) text rest found ↔ ∃ middle early late,
      Way first text middle early ∧ Way second middle rest late ∧ found = late ++ early := by
  constructor
  · intro way
    cases way with
    | seq before after => exact ⟨_, _, _, before, after, rfl⟩
  · rintro ⟨middle, early, late, before, after, rfl⟩
    exact .seq before after

theorem way_alt {first second : Pattern} {text rest : List Char} {found : Groups} :
    Way (.alt first second) text rest found ↔
      Way first text rest found ∨ Way second text rest found := by
  constructor
  · intro way
    cases way with
    | left way => exact Or.inl way
    | right way => exact Or.inr way
  · exact fun either => either.elim .left .right

theorem way_letter {test : Char → Bool} {text rest : List Char} {found : Groups} :
    Way (.letter test) text rest found ↔
      ∃ letter, text = letter :: rest ∧ test letter = true ∧ found = [] := by
  constructor
  · intro way
    cases way with
    | letter rest passed => exact ⟨_, rfl, passed, rfl⟩
  · rintro ⟨letter, rfl, passed, rfl⟩
    exact .letter rest passed

theorem way_exact {letter : Char} {text rest : List Char} {found : Groups} :
    Way (.exact letter) text rest found ↔ text = letter :: rest ∧ found = [] := by
  rw [Pattern.exact, way_letter]
  constructor
  · rintro ⟨other, rfl, passed, rfl⟩
    exact ⟨by rw [of_decide_eq_true passed], rfl⟩
  · rintro ⟨rfl, rfl⟩
    exact ⟨letter, rfl, decide_eq_true rfl, rfl⟩

theorem way_empty {text rest : List Char} {found : Groups} :
    Way .empty text rest found ↔ text = rest ∧ found = [] := by
  constructor
  · intro way
    cases way with
    | empty text => exact ⟨rfl, rfl⟩
  · rintro ⟨rfl, rfl⟩
    exact .empty text

theorem way_group {number : Nat} {item : Pattern} {text rest : List Char} {found : Groups} :
    Way (.group number item) text rest found ↔
      ∃ inner, Way item text rest inner ∧ found = (number, taken text rest) :: inner := by
  constructor
  · intro way
    cases way with
    | group way => exact ⟨_, way, rfl⟩
  · rintro ⟨inner, way, rfl⟩
    exact .group way

/-- A repetition stops or takes one item first. -/
theorem way_many {item : Pattern} {text rest : List Char} {found : Groups} :
    Way (.many item) text rest found ↔ (text = rest ∧ found = []) ∨
      ∃ middle early late, Way item text middle early ∧ Way (.many item) middle rest late ∧
        found = late ++ early := by
  constructor
  · intro way
    cases way with
    | stop item text => exact Or.inl ⟨rfl, rfl⟩
    | more before after => exact Or.inr ⟨_, _, _, before, after, rfl⟩
  · rintro (⟨rfl, rfl⟩ | ⟨middle, early, late, before, after, rfl⟩)
    · exact .stop item text
    · exact .more before after

/-- A repeated letter takes a front of letters that pass. -/
theorem way_letters {test : Char → Bool} {text rest : List Char} {found : Groups}
    (way : Way (.many (.letter test)) text rest found) :
    found = [] ∧ ∃ front, text = front ++ rest ∧ ∀ letter ∈ front, test letter = true := by
  induction text generalizing found with
  | nil =>
      rcases way_many.mp way with ⟨rfl, rfl⟩ | ⟨_, _, _, before, _, _⟩
      · exact ⟨rfl, [], rfl, nofun⟩
      · obtain ⟨letter, same, _⟩ := way_letter.mp before
        cases same
  | cons head tail ih =>
      rcases way_many.mp way with ⟨rfl, rfl⟩ | ⟨_, _, late, before, after, rfl⟩
      · exact ⟨rfl, [], rfl, nofun⟩
      · obtain ⟨letter, same, passed, rfl⟩ := way_letter.mp before
        cases same
        obtain ⟨rfl, front, rfl, all⟩ := ih after
        exact ⟨rfl, head :: front, rfl, List.forall_mem_cons.mpr ⟨passed, all⟩⟩

/-- The numbers of the groups in a pattern. -/
def Pattern.numbers : Pattern → List Nat
  | .empty | .letter _ | .finish => []
  | .seq first second | .alt first second => first.numbers ++ second.numbers
  | .many item => item.numbers
  | .group number item => number :: item.numbers

/-- A way captures only the groups of its pattern. -/
theorem way_numbers {pattern : Pattern} {text rest : List Char} {found : Groups}
    (way : Way pattern text rest found) : ∀ entry ∈ found, entry.1 ∈ pattern.numbers := by
  induction way with
  | empty | letter | stop | finish => nofun
  | seq before after ihBefore ihAfter =>
      intro entry member
      rcases List.mem_append.mp member with late | early
      · exact List.mem_append_right _ (ihAfter entry late)
      · exact List.mem_append_left _ (ihBefore entry early)
  | left way ih => exact fun entry member => List.mem_append_left _ (ih entry member)
  | right way ih => exact fun entry member => List.mem_append_right _ (ih entry member)
  | more before after ihBefore ihAfter =>
      intro entry member
      rcases List.mem_append.mp member with late | early
      · exact ihAfter entry late
      · exact ihBefore entry early
  | group way ih =>
      intro entry member
      rcases List.mem_cons.mp member with same | inner
      · rw [same]
        exact List.mem_cons_self
      · exact List.mem_cons_of_mem _ (ih entry inner)

/-- A continuation that accepts the rest gets it first. -/
def Takes (pattern : Pattern) (text rest : List Char) (found : Groups) : Prop :=
  ∀ (R : Type) (groups : Groups) (next : List Char → Groups → Option R) (result : R),
    next rest (found ++ groups) = some result → attempt pattern text groups next = some result

/-- No way to match starts a text. -/
def Blocks (pattern : Pattern) (text : List Char) : Prop :=
  ∀ (R : Type) (groups : Groups) (next : List Char → Groups → Option R),
    attempt pattern text groups next = none

/-- A token has one way to match, whatever follows it. -/
def Consumes (item : Pattern) (token : List Char) : Prop :=
  ∀ (rest : List Char) (R : Type) (groups : Groups) (next : List Char → Groups → Option R),
    attempt item (token ++ rest) groups next = next rest groups

theorem Takes.matchStart {pattern : Pattern} {text rest : List Char} {found : Groups}
    (takes : Takes pattern text rest found) : pattern.matchStart text = some (rest, found) := by
  apply takes
  rw [List.append_nil]

theorem Blocks.matchStart {pattern : Pattern} {text : List Char} (blocked : Blocks pattern text) :
    pattern.matchStart text = none := blocked _ _ _

theorem blocks_of_no_way {pattern : Pattern} {text : List Char}
    (none : ∀ rest found, ¬ Way pattern text rest found) : Blocks pattern text := by
  intro R groups next
  by_contra accepted
  obtain ⟨result, accepted⟩ := Option.ne_none_iff_exists'.mp accepted
  obtain ⟨rest, found, way, _⟩ := attempt_way _ _ _ _ _ accepted
  exact none rest found way

theorem blocks_letter {test : Char → Bool} {text : List Char}
    (fails : ∀ letter ∈ text.head?, test letter = false) : Blocks (.letter test) text := by
  apply blocks_of_no_way
  intro rest found way
  obtain ⟨letter, rfl, passed, _⟩ := way_letter.mp way
  rw [fails letter rfl] at passed
  cases passed

theorem blocks_exact {letter : Char} {text : List Char} (other : text.head? ≠ some letter) :
    Blocks (.exact letter) text := by
  apply blocks_letter
  intro head first
  exact decide_eq_false fun same => other (same ▸ first)

theorem Blocks.seq {first second : Pattern} {text : List Char} (blocked : Blocks first text) :
    Blocks (.seq first second) text := fun R groups _ => blocked R groups _

theorem consumes_letter {test : Char → Bool} {letter : Char} (passed : test letter = true) :
    Consumes (.letter test) [letter] := fun _ _ _ _ => if_pos passed

theorem takes_empty (text : List Char) : Takes .empty text text [] := fun _ _ _ _ final => final

theorem takes_letter {test : Char → Bool} {letter : Char} (passed : test letter = true)
    (rest : List Char) : Takes (.letter test) (letter :: rest) rest [] :=
  fun _ _ _ _ final => (if_pos passed).trans final

theorem takes_exact (letter : Char) (rest : List Char) :
    Takes (.exact letter) (letter :: rest) rest [] := takes_letter (decide_eq_true rfl) rest

theorem takes_finish : Takes .finish [] [] [] :=
  fun _ _ _ _ final => (if_pos (Or.inl rfl)).trans final

section Rules
variable {first second : Pattern} {text middle rest : List Char} {early late found : Groups}

theorem Takes.seq (before : Takes first text middle early) (after : Takes second middle rest late) :
    Takes (.seq first second) text rest (late ++ early) := by
  intro R groups next result final
  apply before
  apply after
  rwa [← List.append_assoc]

theorem Takes.left (takes : Takes first text rest found) :
    Takes (.alt first second) text rest found := by
  intro R groups next result final
  rw [attempt, takes R groups next result final, Option.some_or]

theorem Takes.right (blocked : Blocks first text) (takes : Takes second text rest found) :
    Takes (.alt first second) text rest found := by
  intro R groups next result final
  rw [attempt, blocked, Option.none_or]
  exact takes R groups next result final

theorem Takes.group {front : List Char} (takes : Takes first (front ++ rest) rest found)
    (number : Nat) :
    Takes (.group number first) (front ++ rest) rest ((number, front) :: found) := by
  intro R groups next result final
  apply takes
  rw [taken_append]
  exact final

end Rules

section Tokens
variable {item : Pattern} {back : List Char}

/-- The tokens of a repetition are not empty. -/
def Tokens (item : Pattern) (tokens : List (List Char)) : Prop :=
  ∀ token ∈ tokens, token ≠ [] ∧ Consumes item token

/-- A repetition fails when its continuation rejects every boundary between tokens. -/
theorem iterate_none {R : Type} (blocked : Blocks item back) {tokens : List (List Char)}
    (each : Tokens item tokens) (fuel : Nat) (groups : Groups)
    (next : List Char → Groups → Option R)
    (rejects : ∀ done left, tokens = done ++ left → next (left.flatten ++ back) groups = none) :
    iterate (attempt item) fuel (tokens.flatten ++ back) groups next = none := by
  induction tokens generalizing fuel with
  | nil =>
      cases fuel with
      | zero => exact rejects [] [] rfl
      | succ fuel =>
          rw [List.flatten_nil, List.nil_append, iterate, blocked, Option.none_or]
          exact rejects [] [] rfl
  | cons token left ih =>
      cases fuel with
      | zero => exact rejects [] _ rfl
      | succ fuel =>
          have rejected := ih (fun other member => each other (List.mem_cons_of_mem _ member)) fuel
            fun done rest split => rejects (token :: done) rest (congrArg (token :: ·) split)
          have final := rejects [] _ rfl
          rw [List.flatten_cons, List.append_assoc] at final ⊢
          rw [iterate, (each token List.mem_cons_self).2, rejected, final, ite_self, Option.or_none]

/-- A repetition stops at the last boundary that its continuation accepts. -/
theorem iterate_last {R : Type} (blocked : Blocks item back) {done left : List (List Char)}
    (each : Tokens item (done ++ left)) (fuel : Nat)
    (enough : ((done ++ left).flatten ++ back).length ≤ fuel) (groups : Groups)
    (next : List Char → Groups → Option R) (result : R)
    (rejects : ∀ more rest, left = more ++ rest → more ≠ [] →
      next (rest.flatten ++ back) groups = none)
    (final : next (left.flatten ++ back) groups = some result) :
    iterate (attempt item) fuel ((done ++ left).flatten ++ back) groups next = some result := by
  induction done generalizing fuel with
  | nil =>
      rw [List.nil_append] at enough each ⊢
      cases fuel with
      | zero => exact final
      | succ fuel =>
          cases left with
          | nil =>
              rw [List.flatten_nil, List.nil_append, iterate, blocked, Option.none_or]
              exact final
          | cons token rest =>
              have rejected := iterate_none blocked
                (fun other member => each other (List.mem_cons_of_mem _ member)) fuel groups next
                fun more others split => rejects (token :: more) others
                  (congrArg (token :: ·) split) (List.cons_ne_nil _ _)
              rw [List.flatten_cons, List.append_assoc] at final ⊢
              rw [iterate, (each token List.mem_cons_self).2, rejected, ite_self, Option.none_or]
              exact final
  | cons token done ih =>
      obtain ⟨filled, consumes⟩ := each token List.mem_cons_self
      have positive := List.length_pos_iff.mpr filled
      rw [List.cons_append, List.flatten_cons, List.append_assoc] at enough ⊢
      rw [List.length_append] at enough
      cases fuel with
      | zero => omega
      | succ fuel =>
          have accepted := ih (fun other member => each other (List.mem_cons_of_mem _ member)) fuel
            (by omega)
          have shorter : ((done ++ left).flatten ++ back).length <
              (token ++ ((done ++ left).flatten ++ back)).length := by
            rw [@List.length_append _ token]
            omega
          rw [iterate, consumes, if_pos shorter, accepted, Option.some_or]

/-- A repetition takes all of its tokens. -/
theorem takes_many {tokens : List (List Char)} (each : Tokens item tokens)
    (blocked : Blocks item back) : Takes (.many item) (tokens.flatten ++ back) back [] := by
  intro R groups next result final
  have all := @iterate_last item back R blocked tokens [] (by rwa [List.append_nil]) _
    (Nat.le_refl _) groups next result
    (fun more rest split filled => absurd (List.append_eq_nil_iff.mp split.symm).1 filled) final
  rw [List.append_nil] at all
  exact all

/-- A captured repetition gives tokens back until the next pattern takes the rest. -/
theorem takes_backtrack {done left : List (List Char)} {second : Pattern} {rest : List Char}
    {found : Groups} (number : Nat) (each : Tokens item (done ++ left)) (blocked : Blocks item back)
    (after : Takes second (left.flatten ++ back) rest found)
    (rejects : ∀ more others, left = more ++ others → more ≠ [] →
      Blocks second (others.flatten ++ back)) :
    Takes (.seq (.group number (.many item)) second) ((done ++ left).flatten ++ back) rest
      (found ++ [(number, done.flatten)]) := by
  intro R groups next result final
  have split : (done ++ left).flatten ++ back = done.flatten ++ (left.flatten ++ back) := by
    rw [List.flatten_append, List.append_assoc]
  apply iterate_last blocked each _ (Nat.le_refl _)
  · exact fun more others split filled => rejects more others split filled R _ _
  · apply after
    rw [split, taken_append, ← List.singleton_append, ← List.append_assoc]
    exact final

theorem flatten_letters (letters : List Char) :
    (letters.map fun letter => [letter]).flatten = letters := by
  induction letters with
  | nil => rfl
  | cons letter rest ih => rw [List.map_cons, List.flatten_cons, ih]; rfl

theorem tokens_letters {test : Char → Bool} {letters : List Char}
    (all : ∀ letter ∈ letters, test letter = true) :
    Tokens (.letter test) (letters.map fun letter => [letter]) := by
  intro token member
  obtain ⟨letter, inside, rfl⟩ := List.mem_map.mp member
  exact ⟨List.cons_ne_nil _ _, consumes_letter (all letter inside)⟩

/-- A repeated letter takes all letters that pass. -/
theorem takes_letters {test : Char → Bool} {front : List Char}
    (all : ∀ letter ∈ front, test letter = true)
    (stops : ∀ letter ∈ back.head?, test letter = false) :
    Takes (.many (.letter test)) (front ++ back) back [] := by
  have takes := takes_many (tokens_letters all) (blocks_letter stops)
  rwa [flatten_letters] at takes

/-- Captured letters give letters back until the next pattern takes the rest. -/
theorem takes_backtrack_letters {test : Char → Bool} {done left rest : List Char}
    {second : Pattern} {found : Groups} (number : Nat)
    (all : ∀ letter ∈ done ++ left, test letter = true)
    (stops : ∀ letter ∈ back.head?, test letter = false)
    (after : Takes second (left ++ back) rest found)
    (rejects : ∀ more others, left = more ++ others → more ≠ [] → Blocks second (others ++ back)) :
    Takes (.seq (.group number (.many (.letter test))) second) (done ++ left ++ back) rest
      (found ++ [(number, done)]) := by
  have tokens := tokens_letters all
  rw [List.map_append] at tokens
  have takes := @takes_backtrack (.letter test) back _ (left.map fun letter => [letter]) second rest
    found number tokens (blocks_letter stops) (by rwa [flatten_letters]) ?_
  · rwa [← List.map_append, flatten_letters, flatten_letters] at takes
  · intro more others split filled
    obtain ⟨early, late, rfl, rfl, rfl⟩ := List.map_eq_append_iff.mp split
    rw [flatten_letters]
    exact rejects early late rfl fun none => filled (congrArg _ none)

theorem takes_plus {test : Char → Bool} {head : Char} {front : List Char}
    (all : ∀ letter ∈ head :: front, test letter = true)
    (stops : ∀ letter ∈ back.head?, test letter = false) :
    Takes (.plus (.letter test)) (head :: front ++ back) back [] :=
  (takes_letter (all head List.mem_cons_self) _).seq
    (takes_letters (fun letter member => all letter (List.mem_cons_of_mem _ member)) stops)

end Tokens

end StateFlow.Regex
