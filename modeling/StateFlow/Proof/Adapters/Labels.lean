import StateFlow.Construction.Adapters.Exposition

namespace StateFlow.Adapters
open Python Table Regex Text

/-- A value whose letters are coded one by one, but a backslash and an n became a line feed. -/
def coded (code : Char → List Char) : List Char → List Char
  | [] => []
  | '\\' :: 'n' :: rest => '\\' :: '\n' :: coded code rest
  | letter :: rest => code letter ++ coded code rest

/-- The text that a value is read back as. -/
def misread : List Char → List Char := coded fun letter => [letter]

/-- The code after the first replacement. -/
def halfEscaped (letter : Char) : List Char :=
  if letter = '\\' then ['\\', '\\'] else if letter = '"' then ['\\', '"'] else [letter]

/-- The code after the second replacement. -/
def doubled (letter : Char) : List Char := if letter = '\\' then ['\\', '\\'] else [letter]

theorem escape_cons (letter : Char) (rest : List Char) :
    escape (letter :: rest) = escapeLetter letter ++ escape rest := List.flatMap_cons

/-- An escaped value starts with an n when the value does. -/
theorem escape_head {value : List Char} (other : value.head? ≠ some 'n') :
    (escape value).head? ≠ some 'n' := by
  cases value with
  | nil => exact other
  | cons letter rest =>
      rw [escape_cons, escapeLetter]
      split_ifs <;> simp_all

theorem coded_head (value : List Char) : (coded halfEscaped value).head? ≠ some '"' := by
  fun_induction coded halfEscaped value with
  | case1 => nofun
  | case2 => simp
  | case3 letter rest =>
      rw [halfEscaped]
      split_ifs <;> simp_all

theorem replace_feeds (value : List Char) :
    replacePair '\\' 'n' '\n' (escape value) = coded halfEscaped value := by
  fun_induction coded halfEscaped value with
  | case1 => rfl
  | case2 rest ih =>
      rw [escape_cons, escape_cons, show escapeLetter '\\' = ['\\', '\\'] from rfl,
        show escapeLetter 'n' = ['n'] from rfl]
      change replacePair '\\' 'n' '\n' ('\\' :: '\\' :: 'n' :: escape rest) = _
      rw [replacePair_keep (by simp), replacePair_hit, ih]
  | case3 letter rest unpaired ih =>
      rw [escape_cons, escapeLetter, halfEscaped]
      split_ifs with backslash quote feed
      · have other : rest.head? ≠ some 'n' := by
          intro first
          obtain ⟨tail, rfl⟩ := List.head?_eq_some_iff.mp first
          exact unpaired tail backslash rfl
        change replacePair '\\' 'n' '\n' ('\\' :: '\\' :: escape rest) = _
        rw [replacePair_keep (by simp), replacePair_keep fun _ => escape_head other, ih]
        rfl
      · change replacePair '\\' 'n' '\n' ('\\' :: '"' :: escape rest) = _
        rw [replacePair_keep (by simp), replacePair_keep (by simp), ih]
        rfl
      · change replacePair '\\' 'n' '\n' ('\\' :: 'n' :: escape rest) = _
        rw [replacePair_hit, ih, feed]
        rfl
      · rw [List.singleton_append, replacePair_keep fun same => absurd same backslash, ih]
        rfl

theorem replace_quotes (value : List Char) :
    replacePair '\\' '"' '"' (coded halfEscaped value) = coded doubled value := by
  fun_induction coded doubled value with
  | case1 => rfl
  | case2 rest ih =>
      rw [coded, replacePair_keep (by simp), replacePair_keep (by simp), ih]
  | case3 letter rest unpaired ih =>
      rw [coded, halfEscaped, doubled]
      · split_ifs with backslash quote
        · change replacePair '\\' '"' '"' ('\\' :: '\\' :: coded halfEscaped rest) = _
          rw [replacePair_keep (by simp), replacePair_keep fun _ => coded_head rest, ih]
          rfl
        · change replacePair '\\' '"' '"' ('\\' :: '"' :: coded halfEscaped rest) = _
          rw [replacePair_hit, ih, quote]
          rfl
        · rw [List.singleton_append, replacePair_keep fun same => absurd same backslash, ih]
          rfl
      · exact unpaired

theorem replace_backslashes (value : List Char) :
    replacePair '\\' '\\' '\\' (coded doubled value) = misread value := by
  unfold misread
  fun_induction coded doubled value with
  | case1 => rfl
  | case2 rest ih =>
      rw [coded, replacePair_keep (by simp), replacePair_keep (by simp), ih]
  | case3 letter rest unpaired ih =>
      rw [coded, doubled]
      · split_ifs with backslash
        · change replacePair '\\' '\\' '\\' ('\\' :: '\\' :: coded doubled rest) = _
          rw [replacePair_hit, ih, backslash]
          rfl
        · rw [List.singleton_append, replacePair_keep fun same => absurd same backslash, ih]
          rfl
      · exact unpaired

/-- The three replacements turn an n after a backslash into a line feed and restore the rest. -/
theorem unescape_escape (value : List Char) : unescape (escape value) = misread value := by
  rw [unescape, replace_feeds, replace_quotes, replace_backslashes]

/-- A value is read back exactly when no n follows a backslash in it. -/
theorem misread_eq_iff (value : List Char) : misread value = value ↔ ¬ ['\\', 'n'] <:+: value := by
  unfold misread
  fun_induction coded (fun letter => [letter]) value with
  | case1 => simp
  | case2 rest ih =>
      apply iff_of_false
      · intro same
        exact absurd (List.cons.inj (List.cons.inj same).2).1 (by decide)
      · exact fun absent => absent ⟨[], rest, rfl⟩
  | case3 letter rest unpaired ih =>
      rw [List.singleton_append, List.infix_cons_iff, not_or, ← ih]
      constructor
      · intro same
        refine ⟨?_, (List.cons.inj same).2⟩
        rintro ⟨tail, split⟩
        obtain ⟨rfl, rfl⟩ := List.cons.inj split
        exact unpaired tail rfl rfl
      · rintro ⟨_, same⟩
        rw [same]

/-- A name starts with a letter of one kind and continues with letters of another kind. -/
def Spelled (start letter : Char → Bool) (name : String) : Prop :=
  ∃ head tail, name.toList = head :: tail ∧ start head = true ∧ ∀ other ∈ tail, letter other = true

/-- `[A-Za-z_]` -/
def isLabelStart (letter : Char) : Bool := isAsciiLetter letter || letter = '_'

/-- `[A-Za-z0-9_]` -/
def isLabelLetter (letter : Char) : Bool := isLabelStart letter || isAsciiDigit letter

/-- The letters of names lie between the digits and the braces. -/
theorem nameLetter_point {letter : Char} (inside : isNameLetter letter = true) :
    (48 ≤ letter.toNat ∧ letter.toNat ≤ 58) ∨ (65 ≤ letter.toNat ∧ letter.toNat ≤ 122) := by
  simp only [isNameLetter, isNameStart, isAsciiLetter, isAsciiDigit, Bool.or_eq_true,
    Bool.and_eq_true, decide_eq_true_eq, Char.le_def, UInt32.le_iff_toNat_le] at inside
  rcases inside with (((⟨low, high⟩ | ⟨low, high⟩) | rfl) | rfl) | ⟨low, high⟩
  · exact Or.inr ⟨low, high.trans (by decide)⟩
  · exact Or.inr ⟨le_trans (by decide) low, high⟩
  · exact Or.inr ⟨by decide, by decide⟩
  · exact Or.inl ⟨by decide, by decide⟩
  · exact Or.inl ⟨low, high.trans (by decide)⟩

theorem nameLetter_of_label {letter : Char} (inside : isLabelLetter letter = true) :
    isNameLetter letter = true := by
  simp only [isLabelLetter, isLabelStart, isNameLetter, isNameStart, Bool.or_eq_true] at inside ⊢
  rcases inside with (inside | inside) | inside
  · exact Or.inl (Or.inl (Or.inl inside))
  · exact Or.inl (Or.inl (Or.inr inside))
  · exact Or.inr inside

theorem nameLetter_not_space {letter : Char} (inside : isNameLetter letter = true) :
    isSpace letter = false := by
  have range := nameLetter_point inside
  simp only [isSpace, Bool.or_eq_false_iff, Bool.and_eq_false_iff, decide_eq_false_iff_not]
  omega

theorem nameLetter_ne {letter other : Char} (inside : isNameLetter letter = true)
    (outside : isNameLetter other = false) : letter ≠ other := by
  rintro rfl
  rw [inside] at outside
  cases outside

/-- The letters of a label name. -/
theorem Spelled.label {name : String} (named : Spelled isLabelStart isLabelLetter name) :
    ∃ head tail, name.toList = head :: tail ∧ ∀ other ∈ head :: tail, isLabelLetter other = true := by
  obtain ⟨head, tail, letters, start, rest⟩ := named
  exact ⟨head, tail, letters, List.forall_mem_cons.mpr ⟨by rw [isLabelLetter, start]; rfl, rest⟩⟩

section Values

theorem escape_flatten (value : List Char) : escape value = (value.map escapeLetter).flatten :=
  List.flatMap_def

theorem consumes_escaped {letter : Char} (inside : letter ≠ '\n') :
    Consumes valuePattern ['\\', letter] := by
  intro rest R groups next
  have passed : decide (letter ≠ '\n') = true := decide_eq_true inside
  change (if decide (letter ≠ '\n') = true then next rest groups else none).or none = _
  rw [if_pos passed, Option.or_none]

theorem consumes_plain {letter : Char} (backslash : letter ≠ '\\') (quote : letter ≠ '"') :
    Consumes valuePattern [letter] := by
  intro rest R groups next
  change (if decide (letter = '\\') = true then _ else none).or
    (if (decide (letter ≠ '"') && decide (letter ≠ '\\')) = true then _ else none) = _
  rw [decide_eq_false backslash, decide_eq_true quote, decide_eq_true backslash]
  rfl

/-- The letters of an escaped value are the tokens of its pattern. -/
theorem tokens_escape (value : List Char) : Tokens valuePattern (value.map escapeLetter) := by
  intro token member
  obtain ⟨letter, _, rfl⟩ := List.mem_map.mp member
  rw [escapeLetter]
  split_ifs with backslash quote feed
  · exact ⟨List.cons_ne_nil _ _, consumes_escaped (by decide)⟩
  · exact ⟨List.cons_ne_nil _ _, consumes_escaped (by decide)⟩
  · exact ⟨List.cons_ne_nil _ _, consumes_escaped (by decide)⟩
  · exact ⟨List.cons_ne_nil _ _, consumes_plain backslash quote⟩

theorem blocks_quote (rest : List Char) : Blocks valuePattern ('"' :: rest) := fun _ _ _ => rfl

/-- An escaped value never starts with a quote. -/
theorem escape_no_quote (value : List Char) : (escape value).head? ≠ some '"' := by
  cases value with
  | nil => nofun
  | cons letter rest =>
      rw [escape_cons, escapeLetter]
      split_ifs <;> simp_all

theorem way_value {letter : Char} {text rest : List Char} {found : Groups}
    (way : Way valuePattern (escapeLetter letter ++ text) rest found) : rest = text := by
  rcases way_alt.mp way with escaped | plain
  · obtain ⟨middle, _, _, first, second, _⟩ := way_seq.mp escaped
    obtain ⟨start, _⟩ := way_exact.mp first
    obtain ⟨other, next, _, _⟩ := way_letter.mp second
    rw [next, escapeLetter] at start
    split_ifs at start with backslash quote feed
    · exact (List.cons.inj (List.cons.inj start).2).2.symm
    · exact (List.cons.inj (List.cons.inj start).2).2.symm
    · exact (List.cons.inj (List.cons.inj start).2).2.symm
    · exact absurd (List.cons.inj start).1 backslash
  · obtain ⟨other, start, passed, _⟩ := way_letter.mp plain
    rw [Bool.and_eq_true, decide_eq_true_eq, decide_eq_true_eq] at passed
    rw [escapeLetter] at start
    split_ifs at start with backslash quote feed
    · exact absurd (List.cons.inj start).1.symm passed.2
    · exact absurd (List.cons.inj start).1.symm passed.2
    · exact absurd (List.cons.inj start).1.symm passed.2
    · exact (List.cons.inj start).2.symm

/-- Every way through an escaped value stops between two of its letters. -/
theorem way_values {value rest : List Char} {found : Groups}
    (way : Way (.many valuePattern) (escape value) rest found) : ∃ left, rest = escape left := by
  induction value generalizing found with
  | nil =>
      rcases way_many.mp way with ⟨same, _⟩ | ⟨_, _, _, before, _, _⟩
      · exact ⟨[], same.symm⟩
      · rcases way_alt.mp before with escaped | plain
        · obtain ⟨_, _, _, first, _, _⟩ := way_seq.mp escaped
          cases (way_exact.mp first).1
        · obtain ⟨_, start, _, _⟩ := way_letter.mp plain
          cases start
  | cons letter tail ih =>
      rcases way_many.mp way with ⟨same, _⟩ | ⟨middle, _, _, before, after, _⟩
      · exact ⟨letter :: tail, same.symm⟩
      · rw [escape_cons] at before
        rw [way_value before] at after
        exact ih after

end Values

section Labels
variable {word : Char → Bool}

theorem takes_spaces {text : List Char} (stops : ∀ letter ∈ text.head?, isSpace letter = false) :
    Takes spaces text text [] := @takes_letters text isSpace [] nofun stops

/-- A comma and a further label or the end of the labels follow a label. -/
def Separates (tail rest : List Char) : Prop :=
  (tail = [] ∧ rest = []) ∨
    tail = ',' :: rest ∧ ∀ letter ∈ rest.head?, isSpace letter = false

theorem takes_separator {tail rest : List Char} (separates : Separates tail rest) :
    Takes (.alt (.seq spaces (.seq (.exact ',') spaces)) .finish) tail rest [] := by
  rcases separates with ⟨rfl, rfl⟩ | ⟨rfl, stops⟩
  · apply Takes.right _ takes_finish
    apply blocks_of_no_way
    intro rest found way
    obtain ⟨middle, _, _, before, after, _⟩ := way_seq.mp way
    obtain ⟨_, front, split, _⟩ := way_letters before
    obtain ⟨_, _, _, comma, _, _⟩ := way_seq.mp after
    rw [(List.append_eq_nil_iff.mp split.symm).2] at comma
    cases (way_exact.mp comma).1
  · apply Takes.left
    exact (takes_spaces (by rintro _ ⟨⟩; rfl)).seq ((takes_exact ',' rest).seq (takes_spaces stops))

/-- A rendered label is matched with its name and its escaped value. -/
theorem takes_label (words : ∀ letter, isLabelLetter letter = true → word letter = true)
    (equals : word '=' = false) {label : String × String}
    (named : Spelled isLabelStart isLabelLetter label.1) {tail rest : List Char}
    (separates : Separates tail rest) :
    Takes (labelPattern word) (renderLabel label ++ tail) rest
      [(2, escape label.2.toList), (1, label.1.toList)] := by
  obtain ⟨head, letters, name, all⟩ := named.label
  have text : renderLabel label ++ tail =
      head :: letters ++ '=' :: '"' :: (escape label.2.toList ++ '"' :: tail) := by
    simp [renderLabel, name]
  have key : Takes (.plus (.letter word))
      (head :: letters ++ '=' :: '"' :: (escape label.2.toList ++ '"' :: tail))
      ('=' :: '"' :: (escape label.2.toList ++ '"' :: tail)) [] :=
    takes_plus (fun letter member => words letter (all letter member))
      (by rintro _ ⟨⟩; exact equals)
  have value : Takes (.many valuePattern) (escape label.2.toList ++ '"' :: tail) ('"' :: tail) [] := by
    rw [escape_flatten]
    exact takes_many (tokens_escape _) (blocks_quote tail)
  rw [text, name]
  exact (key.group 1).seq <| (takes_spaces (by rintro _ ⟨⟩; rfl)).seq <| (takes_exact '=' _).seq <|
    (takes_spaces (by rintro _ ⟨⟩; rfl)).seq <| (takes_exact '"' _).seq <| (value.group 2).seq <|
    (takes_exact '"' tail).seq (takes_separator separates)

/-- A label without its closing quote is not matched. -/
theorem blocks_label (equals : word '=' = false) {name : String}
    (named : Spelled isLabelStart isLabelLetter name) (value : List Char) :
    Blocks (labelPattern word) (name.toList ++ '=' :: '"' :: escape value) := by
  apply blocks_of_no_way
  intro rest found way
  obtain ⟨afterKey, _, _, key, way, _⟩ := way_seq.mp way
  obtain ⟨_, key, _⟩ := way_group.mp key
  obtain ⟨_, _, _, first, others, _⟩ := way_seq.mp key
  obtain ⟨start, begins, startWord, _⟩ := way_letter.mp first
  obtain ⟨_, letters, continues, wordLetters⟩ := way_letters others
  obtain ⟨_, _, _, space, way, _⟩ := way_seq.mp way
  obtain ⟨_, gap, spaced, gapSpaces⟩ := way_letters space
  obtain ⟨afterEquals, _, _, equal, way, _⟩ := way_seq.mp way
  obtain ⟨equalsSign, _⟩ := way_exact.mp equal
  obtain ⟨_, _, _, space, way, _⟩ := way_seq.mp way
  obtain ⟨_, second, respaced, secondSpaces⟩ := way_letters space
  obtain ⟨_, _, _, quote, way, _⟩ := way_seq.mp way
  obtain ⟨quoteSign, _⟩ := way_exact.mp quote
  obtain ⟨_, _, _, inner, way, _⟩ := way_seq.mp way
  obtain ⟨_, inner, _⟩ := way_group.mp inner
  obtain ⟨_, _, _, closing, _, _⟩ := way_seq.mp way
  obtain ⟨closed, _⟩ := way_exact.mp closing
  -- The first equals sign and the first quote stand where they were written.
  have nameFree : '=' ∉ name.toList := by
    obtain ⟨head, tail, same, all⟩ := named.label
    rw [same]
    intro member
    exact nameLetter_ne (nameLetter_of_label (all _ member)) (by decide) rfl
  have keyFree : '=' ∉ start :: letters ++ gap := by
    intro member
    rcases List.mem_append.mp member with inKey | inGap
    · have passed : word '=' = true := by
        rcases List.mem_cons.mp inKey with same | inside
        · rw [same]; exact startWord
        · exact wordLetters _ inside
      rw [equals] at passed
      cases passed
    · exact absurd (gapSpaces _ inGap) (by decide)
  have split : name.toList ++ '=' :: '"' :: escape value =
      (start :: letters ++ gap) ++ '=' :: afterEquals := by
    rw [begins, continues, spaced, equalsSign]
    simp
  obtain ⟨_, tails⟩ := splitAt_unique nameFree keyFree split
  rw [respaced, quoteSign] at tails
  have quoteFree : '"' ∉ second := fun member => absurd (secondSpaces _ member) (by decide)
  obtain ⟨_, bodies⟩ := splitAt_unique List.not_mem_nil quoteFree tails
  rw [← bodies] at inner
  obtain ⟨left, ends⟩ := way_values inner
  rw [closed] at ends
  exact escape_no_quote left (ends ▸ rfl)

/-- The labels of one sample have names and no two have the same. -/
structure Labelled (labels : List (String × String)) : Prop where
  named : ∀ label ∈ labels, Spelled isLabelStart isLabelLetter label.1
  distinct : (labels.map Prod.fst).Nodup

/-- A label with the value that it is read back with. -/
def misreadLabel (label : String × String) : String × String :=
  (label.1, String.ofList (misread label.2.toList))

theorem renderLabels_cons (label : String × String) (rest : List (String × String)) :
    renderLabels (label :: rest) =
      renderLabel label ++ if rest = [] then [] else ',' :: renderLabels rest := by
  cases rest with
  | nil => rw [if_pos rfl, List.append_nil]; rfl
  | cons next rest => rw [if_neg (List.cons_ne_nil _ _)]; rfl

/-- Rendered labels start with a letter of a name. -/
theorem renderLabels_head {labels : List (String × String)}
    (named : ∀ label ∈ labels, Spelled isLabelStart isLabelLetter label.1) :
    ∀ letter ∈ (renderLabels labels).head?, isNameLetter letter = true := by
  cases labels with
  | nil => nofun
  | cons label rest =>
      obtain ⟨head, tail, name, all⟩ := (named label List.mem_cons_self).label
      rw [renderLabels_cons, renderLabel, name]
      rintro letter ⟨⟩
      exact nameLetter_of_label (all head List.mem_cons_self)

theorem separates_labels {labels : List (String × String)}
    (named : ∀ label ∈ labels, Spelled isLabelStart isLabelLetter label.1) :
    Separates (if labels = [] then [] else ',' :: renderLabels labels) (renderLabels labels) := by
  split
  · rename_i none
    rw [none]
    exact Or.inl ⟨rfl, rfl⟩
  · exact Or.inr ⟨rfl, fun letter first =>
      nameLetter_not_space (renderLabels_head named letter first)⟩

theorem renderLabel_ne_nil (label : String × String) (tail : List Char) :
    renderLabel label ++ tail ≠ [] := by
  simp [renderLabel]

section Loop
variable {lineNumber fuel : Nat} {text rest : List Char} {labels : List (String × String)}

theorem parseLabelsFrom_match {groups : Groups}
    (matched : (labelPattern word).matchStart text = some (rest, groups)) (filled : text ≠ []) :
    parseLabelsFrom word lineNumber (fuel + 1) text labels =
      parseLabelsFrom word lineNumber fuel rest (assign (String.ofList (groupText groups 1))
        (String.ofList (unescape (groupText groups 2))) labels) := by
  cases text with
  | nil => exact absurd rfl filled
  | cons head tail => rw [parseLabelsFrom, matched]

theorem parseLabelsFrom_fail (unmatched : (labelPattern word).matchStart text = none)
    (filled : text ≠ []) : parseLabelsFrom word lineNumber fuel text labels =
      .error ⟨"invalid Prometheus labels at line " ++ toString lineNumber⟩ := by
  cases text with
  | nil => exact absurd rfl filled
  | cons head tail =>
      cases fuel with
      | zero => rfl
      | succ fuel => rw [parseLabelsFrom, unmatched]

end Loop

/-- Rendered labels are parsed with the values that they are read back with. -/
theorem parseLabelsFrom_rendered (words : ∀ letter, isLabelLetter letter = true → word letter = true)
    (equals : word '=' = false) (lineNumber : Nat) {labels : List (String × String)}
    (labelled : Labelled labels) {fuel : Nat} (enough : (renderLabels labels).length ≤ fuel)
    {seen : List (String × String)}
    (unseen : ∀ label ∈ labels, label.1 ∉ seen.map Prod.fst) :
    parseLabelsFrom word lineNumber fuel (renderLabels labels) seen =
      .ok (seen ++ labels.map misreadLabel) := by
  induction labels generalizing fuel seen with
  | nil =>
      rw [List.map_nil, List.append_nil, renderLabels, parseLabelsFrom]
  | cons label rest ih =>
      have named := labelled.named label List.mem_cons_self
      have others : ∀ other ∈ rest, Spelled isLabelStart isLabelLetter other.1 :=
        fun other member => labelled.named other (List.mem_cons_of_mem _ member)
      obtain ⟨absent, distinct⟩ := List.nodup_cons.mp labelled.distinct
      rw [renderLabels_cons] at enough ⊢
      cases fuel with
      | zero =>
          rw [Nat.le_zero, List.length_eq_zero_iff] at enough
          exact absurd enough (renderLabel_ne_nil label _)
      | succ fuel =>
          have matched := (takes_label words equals named (separates_labels others)).matchStart
          rw [parseLabelsFrom_match matched (renderLabel_ne_nil label _)]
          have stored : assign (String.ofList (groupText
                [(2, escape label.2.toList), (1, label.1.toList)] 1))
              (String.ofList (unescape (groupText
                [(2, escape label.2.toList), (1, label.1.toList)] 2))) seen =
              seen ++ [misreadLabel label] := by
            rw [show groupText [(2, escape label.2.toList), (1, label.1.toList)] 1 =
                label.1.toList from rfl,
              show groupText [(2, escape label.2.toList), (1, label.1.toList)] 2 =
                escape label.2.toList from rfl, unescape_escape, String.ofList_toList]
            apply assign_of_absent
            rw [← Option.not_isSome_iff_eq_none, lookup_isSome_iff]
            exact unseen label List.mem_cons_self
          rw [stored, ih ⟨others, distinct⟩]
          · rw [List.map_cons, List.append_assoc, List.singleton_append]
          · split at enough
            · rename_i none
              rw [none]
              exact Nat.zero_le _
            · rw [List.length_append, List.length_cons] at enough
              omega
          · intro other member
            rw [List.map_append, List.mem_append]
            rintro (earlier | same)
            · exact unseen other (List.mem_cons_of_mem _ member) earlier
            · rw [List.map_singleton, List.mem_singleton] at same
              exact absent (same ▸ List.mem_map_of_mem member)

/-- The part of an escaped value before a brace is the escaped part of the value. -/
theorem escape_brace {value front rest : List Char}
    (split : escape value ++ ['"'] = front ++ '}' :: rest) : ∃ part, front = escape part := by
  induction value generalizing front with
  | nil =>
      cases front with
      | nil => exact ⟨[], rfl⟩
      | cons letter front => exact absurd (List.cons.inj split).2.symm (by simp)
  | cons letter tail ih =>
      rw [escape_cons, List.append_assoc] at split
      by_cases brace : '}' ∈ escapeLetter letter
      · -- Only a plain brace contains a brace, so nothing stands before it.
        have plain : escapeLetter letter = ['}'] := by
          rw [escapeLetter] at brace ⊢
          split_ifs at brace ⊢ with backslash quote feed
          · simp at brace
          · simp at brace
          · simp at brace
          · rw [List.mem_singleton.mp brace]
        rw [plain] at split
        cases front with
        | nil => exact ⟨[], rfl⟩
        | cons head front =>
            obtain ⟨same, split⟩ := List.cons.inj split
            obtain ⟨part, rfl⟩ := ih split
            exact ⟨head :: part, by rw [escape_cons, ← same]; rfl⟩
      · obtain ⟨inner, whole, split⟩ := append_of_mark brace split
        obtain ⟨part, same⟩ := ih split
        exact ⟨letter :: part, by rw [whole, same, escape_cons]⟩

/-- Labels that are cut before a brace are not parsed. -/
theorem parseLabelsFrom_cut (words : ∀ letter, isLabelLetter letter = true → word letter = true)
    (equals : word '=' = false) (lineNumber : Nat) {labels : List (String × String)}
    (named : ∀ label ∈ labels, Spelled isLabelStart isLabelLetter label.1) {raw rest : List Char}
    (cut : renderLabels labels = raw ++ '}' :: rest) (fuel : Nat)
    (seen : List (String × String)) :
    parseLabelsFrom word lineNumber fuel raw seen =
      .error ⟨"invalid Prometheus labels at line " ++ toString lineNumber⟩ := by
  induction labels generalizing raw fuel seen with
  | nil => exact absurd cut.symm (by simp [renderLabels])
  | cons label others ih =>
      have own := named label List.mem_cons_self
      have later : ∀ other ∈ others, Spelled isLabelStart isLabelLetter other.1 :=
        fun other member => named other (List.mem_cons_of_mem _ member)
      rw [renderLabels_cons] at cut
      rcases List.append_eq_append_iff.mp cut with ⟨inner, whole, split⟩ | ⟨beyond, whole, split⟩
      · -- The label is complete and the cut is in a later one.
        split_ifs at split with none
        · exact absurd split.symm (by simp)
        · cases inner with
          | nil => cases (List.cons.inj split).1
          | cons comma inner =>
              rw [List.cons_append] at split
              obtain ⟨same, split⟩ := List.cons.inj split
              have stops : ∀ letter ∈ inner.head?, isSpace letter = false := by
                intro letter first
                apply nameLetter_not_space
                apply renderLabels_head later letter
                rw [split, List.head?_append, Option.mem_def.mp first]
                rfl
              have matched := (takes_label words equals own (Or.inr ⟨rfl, stops⟩)).matchStart
              rw [whole, ← same]
              cases fuel with
              | zero =>
                  cases started : renderLabel label ++ ',' :: inner with
                  | nil => exact absurd started (renderLabel_ne_nil label _)
                  | cons head tail => rfl
              | succ fuel =>
                  rw [parseLabelsFrom_match matched (renderLabel_ne_nil label _)]
                  exact ih later split fuel _
      · -- The cut is in the value of this label.
        cases beyond with
        | nil =>
            split_ifs at split with none
            · cases split
            · cases (List.cons.inj split).1
        | cons brace beyond =>
            rw [← (List.cons.inj split).1] at whole
            have opened : renderLabel label =
                (label.1.toList ++ ['=', '"']) ++ (escape label.2.toList ++ ['"']) := by
              simp [renderLabel]
            have free : '}' ∉ label.1.toList ++ ['=', '"'] := by
              obtain ⟨head, tail, name, all⟩ := own.label
              rw [name, List.mem_append]
              rintro (member | member)
              · exact nameLetter_ne (nameLetter_of_label (all _ member)) (by decide) rfl
              · exact absurd member (by decide)
            rw [opened] at whole
            obtain ⟨inner, rfl, value⟩ := append_of_mark free whole
            obtain ⟨part, rfl⟩ := escape_brace value
            have text : label.1.toList ++ ['=', '"'] ++ escape part =
                label.1.toList ++ '=' :: '"' :: escape part := by simp
            rw [text]
            exact parseLabelsFrom_fail (blocks_label equals own part).matchStart (by simp)

end Labels

end StateFlow.Adapters
