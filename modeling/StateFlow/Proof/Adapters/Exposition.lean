import Mathlib.Data.List.DropRight
import StateFlow.Library.Effect
import StateFlow.Proof.Adapters.Labels

namespace StateFlow.Adapters
open Effect Python Table Regex Text

/-- `strip` keeps what stands between two letters that are no spaces. -/
theorem strip_between {head mark : Char} (front body : List Char) (starts : isSpace head = false)
    (stays : isSpace mark = false) :
    strip (String.ofList (head :: front ++ mark :: body)) =
      String.ofList (head :: front ++ mark :: body.rdropWhile isSpace) := by
  have opened : (head :: front ++ mark :: body).dropWhile isSpace = head :: front ++ mark :: body := by
    rw [List.cons_append, List.dropWhile_cons_of_neg (by rw [starts]; exact Bool.false_ne_true)]
  have closed : (head :: front ++ mark :: body).reverse.dropWhile isSpace =
      body.reverse.dropWhile isSpace ++ mark :: (head :: front).reverse := by
    rw [List.reverse_append, List.reverse_cons, List.append_assoc, List.singleton_append,
      List.dropWhile_append]
    split
    · rename_i none
      rw [List.isEmpty_iff.mp none, List.nil_append, List.dropWhile_cons_of_neg]
      rw [stays]
      exact Bool.false_ne_true
    · rfl
  rw [strip, String.toList_ofList, opened, closed, List.reverse_append, List.reverse_cons,
    List.reverse_reverse, List.append_assoc, List.singleton_append]
  rfl

theorem lineBreak_space {letter : Char} (ends : isLineBreak letter = true) :
    isSpace letter = true := by
  simp only [isLineBreak, Bool.or_eq_true, Bool.and_eq_true, decide_eq_true_eq] at ends
  simp only [isSpace, Bool.or_eq_true, Bool.and_eq_true, decide_eq_true_eq]
  omega

theorem solid_not_break {letter : Char} (solid : isSpace letter = false) :
    isLineBreak letter = false := by
  by_contra ends
  rw [lineBreak_space (Bool.of_not_eq_false ends)] at solid
  cases solid

/-- The name and the labels of a sample are valid. -/
structure Sampled {V : Type} (sample : TextSample V) : Prop where
  named : Spelled isNameStart isNameLetter sample.name
  labelled : Labelled sample.labels

/-- `float` reads each formatted value back. Its text has no space and no closing brace. -/
structure Formats {V : Type} (float : String → Option V) (format : V → String) : Prop where
  back : ∀ value, float (format value) = some value
  filled : ∀ value, (format value).toList ≠ []
  solid : ∀ value, ∀ letter ∈ (format value).toList, isSpace letter = false
  unbraced : ∀ value, '}' ∉ (format value).toList

/-- The word letters of ASCII are letters, digits and the underscore. -/
def WordLetters (word : Char → Bool) : Prop :=
  ∀ letter : Char, letter.toNat < 128 → word letter = isLabelLetter letter

theorem WordLetters.label {word : Char → Bool} (words : WordLetters word) {letter : Char}
    (inside : isLabelLetter letter = true) : word letter = true := by
  have range := nameLetter_point (nameLetter_of_label inside)
  rw [words letter (by omega), inside]

theorem WordLetters.equals {word : Char → Bool} (words : WordLetters word) : word '=' = false :=
  (words '=' (by decide)).trans (by decide)

/-- The letters of a metric name. -/
theorem Spelled.letters {name : String} (named : Spelled isNameStart isNameLetter name) :
    ∀ letter ∈ name.toList, isNameLetter letter = true := by
  obtain ⟨head, tail, letters, start, rest⟩ := named
  rw [letters]
  exact List.forall_mem_cons.mpr ⟨by rw [isNameLetter, start]; rfl, rest⟩

section Match
variable {digit : Char → Bool}

theorem takes_name {name : String} (named : Spelled isNameStart isNameLetter name)
    {rest : List Char} (stops : ∀ letter ∈ rest.head?, isNameLetter letter = false) :
    Takes namePart (name.toList ++ rest) rest [(1, name.toList)] := by
  obtain ⟨head, tail, letters, start, others⟩ := named
  rw [letters]
  exact ((takes_letter start _).seq (takes_letters others stops)).group 1

/-- The labels reach to the last closing brace. -/
theorem takes_labelled {raw rest : List Char} (line : '\n' ∉ raw) (plain : '\n' ∉ rest)
    (free : '}' ∉ rest) :
    Takes labelsPart ('{' :: raw ++ '}' :: rest) rest [(2, raw)] := by
  apply Takes.left
  have letters : ∀ letter ∈ raw ++ '}' :: rest, decide (letter ≠ '\n') = true := by
    intro letter member
    apply decide_eq_true
    rintro rfl
    rcases List.mem_append.mp member with before | after
    · exact line before
    · exact plain ((List.mem_cons.mp after).resolve_left (by decide))
  -- A later stop of the repetition is inside the rest, where no brace stands.
  have rejects : ∀ more others, '}' :: rest = more ++ others → more ≠ [] →
      Blocks (.exact '}') (others ++ []) := by
    intro more others same filled
    cases more with
    | nil => exact absurd rfl filled
    | cons brace more =>
        rw [List.append_nil]
        apply blocks_exact
        intro first
        obtain ⟨tail, rfl⟩ := List.head?_eq_some_iff.mp first
        rw [(List.cons.inj same).2] at free
        exact free (List.mem_append_right more List.mem_cons_self)
  have last : Takes (.exact '}') ('}' :: rest ++ []) rest [] := by
    rw [List.append_nil]
    exact takes_exact '}' rest
  have inner := takes_backtrack_letters 2 letters (by nofun) last rejects
  rw [List.append_nil] at inner
  exact (takes_exact '{' _).seq inner

theorem takes_unlabelled {rest : List Char} (other : rest.head? ≠ some '{') :
    Takes labelsPart rest rest [] :=
  Takes.right (blocks_exact other).seq (takes_empty rest)

theorem takes_value {value : List Char} (filled : value ≠ [])
    (solid : ∀ letter ∈ value, isSpace letter = false) :
    Takes (valuePart digit) (' ' :: value) [] [(3, value)] := by
  obtain ⟨head, tail, rfl⟩ := List.exists_cons_of_ne_nil filled
  have gap : Takes (.plus (.letter isSpace)) ([' '] ++ head :: tail) (head :: tail) [] :=
    takes_plus (List.forall_mem_singleton.mpr rfl)
      (by rintro _ ⟨⟩; exact solid head List.mem_cons_self)
  have text : Takes (.plus (.letter fun letter => !isSpace letter)) (head :: tail ++ []) [] [] :=
    takes_plus (fun letter member => by rw [solid letter member]; rfl) (by nofun)
  have captured := text.group 3
  rw [List.append_nil] at captured
  exact gap.seq (captured.seq (Takes.seq
    (Takes.right (blocks_letter (by nofun)).seq.seq (takes_empty [])) takes_finish))

/-- A way through the name takes letters of names. -/
theorem way_name {text rest : List Char} {found : Groups} (way : Way namePart text rest found) :
    ∃ name, text = name ++ rest ∧ (∀ letter ∈ name, isNameLetter letter = true) ∧
      found = [(1, name)] := by
  obtain ⟨_, inner, rfl⟩ := way_group.mp way
  obtain ⟨_, _, _, first, others, rfl⟩ := way_seq.mp inner
  obtain ⟨start, rfl, starts, rfl⟩ := way_letter.mp first
  obtain ⟨rfl, letters, rfl, continued⟩ := way_letters others
  rw [← List.cons_append, taken_append]
  exact ⟨start :: letters, rfl,
    List.forall_mem_cons.mpr ⟨by rw [isNameLetter, starts]; rfl, continued⟩, rfl⟩

/-- A way through the labels takes nothing or captures the text between two braces. -/
theorem way_labelled {text rest : List Char} {found : Groups}
    (way : Way labelsPart text rest found) :
    (text = rest ∧ found = []) ∨ ∃ raw, text = '{' :: raw ++ '}' :: rest ∧ found = [(2, raw)] := by
  rcases way_alt.mp way with braces | without
  · obtain ⟨_, _, _, opening, inner, rfl⟩ := way_seq.mp braces
    obtain ⟨rfl, rfl⟩ := way_exact.mp opening
    obtain ⟨_, _, _, captured, closing, rfl⟩ := way_seq.mp inner
    obtain ⟨rfl, rfl⟩ := way_exact.mp closing
    obtain ⟨_, letters, rfl⟩ := way_group.mp captured
    obtain ⟨rfl, raw, rfl, _⟩ := way_letters letters
    rw [taken_append]
    exact Or.inr ⟨raw, rfl, rfl⟩
  · exact Or.inl (way_empty.mp without)

/-- A way through the value starts at a space. -/
theorem way_valued {text rest : List Char} {found : Groups}
    (way : Way (valuePart digit) text rest found) :
    ∃ space tail, text = space :: tail ∧ isSpace space = true := by
  obtain ⟨_, _, _, gap, _, _⟩ := way_seq.mp way
  obtain ⟨_, _, _, first, _, _⟩ := way_seq.mp gap
  obtain ⟨space, same, spaced, _⟩ := way_letter.mp first
  exact ⟨space, _, same, spaced⟩

/-- A way through a sample with an opening brace captures the text before a closing brace. -/
theorem way_braces {name : String} (named : Spelled isNameStart isNameLetter name)
    {body rest : List Char} {groups : Groups}
    (way : Way (samplePattern digit) (name.toList ++ '{' :: body) rest groups) :
    ∃ more, body = groupText groups 2 ++ '}' :: more := by
  obtain ⟨_, _, _, nameWay, later, rfl⟩ := way_seq.mp way
  obtain ⟨letters, text, also, rfl⟩ := way_name nameWay
  obtain ⟨ending, _, valued, labelsWay, valueWay, rfl⟩ := way_seq.mp later
  rcases way_labelled labelsWay with ⟨rfl, rfl⟩ | ⟨raw, rfl, rfl⟩
  · -- Without braces a space would follow the name.
    obtain ⟨space, tail, rfl, spaced⟩ := way_valued valueWay
    have outside : isNameLetter space = false := by
      by_contra inside
      rw [nameLetter_not_space (Bool.of_not_eq_false inside)] at spaced
      cases spaced
    obtain ⟨_, brace, _⟩ :=
      @span_unique isNameLetter _ _ _ _ _ _ named.letters also rfl outside text
    rw [← brace] at spaced
    exact absurd spaced (by decide)
  · obtain ⟨_, _, same⟩ := @span_unique isNameLetter _ _ _ _ _ _ named.letters also rfl rfl text
    have other : valued.lookup 2 = none := by
      apply List.lookup_eq_none_iff.mpr
      intro entry member
      have number := way_numbers valueWay entry member
      rw [List.mem_singleton.mp number]
      rfl
    have captured : groupText (valued ++ [(2, raw)] ++ [(1, letters)]) 2 = raw := by
      rw [groupText, List.lookup_append, List.lookup_append, other]
      rfl
    exact ⟨ending, by rw [captured, same]; rfl⟩

end Match

section Line
variable {V : Type} {word digit : Char → Bool} {float : String → Option V} {format : V → String}

/-- A rendered sample is matched with its name, its labels and its value. -/
theorem match_sample (formats : Formats float format) {sample : TextSample V}
    (sampled : Sampled sample) (line : '\n' ∉ renderLabels sample.labels) :
    ∃ groups, (samplePattern digit).matchStart (renderSample format sample) = some ([], groups) ∧
      groupText groups 1 = sample.name.toList ∧
      groupText groups 2 = renderLabels sample.labels ∧
      groupText groups 3 = (format sample.value).toList := by
  have value := @takes_value digit _ (formats.filled sample.value) (formats.solid sample.value)
  unfold renderSample
  split
  · rename_i none
    rw [List.append_nil, none]
    exact ⟨_, ((takes_name sampled.named (by rintro _ ⟨⟩; rfl)).seq
      ((takes_unlabelled (by simp)).seq value)).matchStart, rfl, rfl, rfl⟩
  · have free : '}' ∉ ' ' :: (format sample.value).toList := by
      rw [List.mem_cons, not_or]
      exact ⟨by decide, formats.unbraced sample.value⟩
    have plain : '\n' ∉ ' ' :: (format sample.value).toList := by
      rw [List.mem_cons, not_or]
      exact ⟨by decide, fun inside => absurd (formats.solid _ _ inside) (by decide)⟩
    rw [List.append_assoc, List.append_assoc, List.singleton_append]
    exact ⟨_, ((takes_name sampled.named (by rintro _ ⟨⟩; rfl)).seq
      ((takes_labelled line plain free).seq value)).matchStart, rfl, rfl, rfl⟩

/-- What the parser needs from a line that starts with another letter than a number sign. -/
theorem parseLine_ok_iff {lineNumber : Nat} {rawLine : String} {head : Char} {tail : List Char}
    (stripped : strip rawLine = String.ofList (head :: tail)) (start : head ≠ '#')
    (result : Option (TextSample V)) :
    parseLine word digit float lineNumber rawLine = .ok result ↔ ∃ rest groups value labels,
      (samplePattern digit).matchStart (head :: tail) = some (rest, groups) ∧
      float (String.ofList (groupText groups 3)) = some value ∧
      parseLabels word (groupText groups 2) lineNumber = .ok labels ∧
      result = some ⟨String.ofList (groupText groups 1), labels, value⟩ := by
  have filled : ¬ String.ofList (head :: tail) = "" :=
    fun none => absurd (congrArg String.toList none) (by simp)
  have unmarked : ¬ (head :: tail).head? = some '#' :=
    fun marked => start (Option.some.inj marked)
  unfold parseLine
  dsimp only
  rw [stripped, String.toList_ofList, decide_eq_false filled, decide_eq_false unmarked, Bool.or_self,
    if_neg Bool.false_ne_true]
  constructor
  · intro parsed
    split at parsed
    · cases parsed
    · rename_i rest groups matched
      split at parsed
      · cases parsed
      · rename_i value known
        obtain ⟨labels, listed, same⟩ := except_bind_ok parsed
        cases same
        exact ⟨rest, groups, value, labels, matched, known, listed, rfl⟩
  · rintro ⟨rest, groups, value, labels, matched, known, listed, rfl⟩
    simp only [matched, known, listed]
    rfl

/-- A start of a name is no number sign. -/
theorem nameStart_unmarked {letter : Char} (start : isNameStart letter = true) : letter ≠ '#' := by
  rintro rfl
  exact absurd start (by decide)

theorem nameStart_not_space {letter : Char} (start : isNameStart letter = true) :
    isSpace letter = false := nameLetter_not_space (by rw [isNameLetter, start]; rfl)

/-- A rendered sample starts with its name and has no spaces around it. -/
theorem renderSample_strip (formats : Formats float format) {sample : TextSample V}
    (sampled : Sampled sample) :
    ∃ head tail, renderSample format sample = head :: tail ∧ isNameStart head = true ∧
      strip (String.ofList (renderSample format sample)) = String.ofList (head :: tail) := by
  obtain ⟨head, tail, name, start, _⟩ := sampled.named
  obtain ⟨front, last, value⟩ :=
    (List.eq_nil_or_concat (format sample.value).toList).resolve_left (formats.filled sample.value)
  have ends : isSpace last = false :=
    formats.solid sample.value last (by rw [value]; simp)
  let labels := if sample.labels = [] then [] else '{' :: renderLabels sample.labels ++ ['}']
  have text : renderSample format sample = head :: (tail ++ labels ++ ' ' :: front) ++ last :: [] := by
    rw [renderSample, name, value]
    simp [labels]
  refine ⟨head, tail ++ labels ++ ' ' :: front ++ [last], text, start, ?_⟩
  rw [text, strip_between _ _ (nameStart_not_space start) ends]
  rfl

/-- A sample with the label values that it is read back with. -/
def misreadSample (sample : TextSample V) : TextSample V :=
  { sample with labels := sample.labels.map misreadLabel }

/-- A rendered sample is parsed with the label values that it is read back with. -/
theorem parseLine_rendered (words : WordLetters word) (formats : Formats float format)
    {sample : TextSample V} (sampled : Sampled sample) (line : '\n' ∉ renderLabels sample.labels)
    (lineNumber : Nat) :
    parseLine word digit float lineNumber (String.ofList (renderSample format sample)) =
      .ok (some (misreadSample sample)) := by
  obtain ⟨head, tail, text, start, stripped⟩ := renderSample_strip formats sampled
  obtain ⟨groups, matched, name, labels, value⟩ := @match_sample _ digit _ _ formats _ sampled line
  apply (parseLine_ok_iff stripped (nameStart_unmarked start) _).mpr
  refine ⟨[], groups, sample.value, sample.labels.map misreadLabel, text ▸ matched, ?_, ?_, ?_⟩
  · rw [value, String.ofList_toList, formats.back]
  · rw [labels, parseLabels, parseLabelsFrom_rendered (fun _ => words.label) words.equals lineNumber
      sampled.labelled (Nat.le_refl _) (by nofun), List.nil_append]
  · rw [name, String.ofList_toList]
    rfl

/-- A line that is cut inside its labels has no sample. -/
theorem parseLine_cut (words : WordLetters word) {name : String}
    (named : Spelled isNameStart isNameLetter name) {labels : List (String × String)}
    (labelled : Labelled labels) {body rest : List Char} (cut : renderLabels labels = body ++ rest)
    (lineNumber : Nat) (result : Option (TextSample V)) :
    parseLine word digit float lineNumber (String.ofList (name.toList ++ '{' :: body)) ≠
      .ok result := by
  intro parsed
  obtain ⟨head, tail, letters, start, _⟩ := id named
  have stripped := strip_between tail body (nameStart_not_space start)
    (show isSpace '{' = false from rfl)
  rw [letters] at parsed
  obtain ⟨last, groups, _, _, matched, _, listed, _⟩ :=
    (parseLine_ok_iff stripped (nameStart_unmarked start) _).mp parsed
  have way : Way (samplePattern digit) (name.toList ++ '{' :: body.rdropWhile isSpace) last groups := by
    rw [letters]
    exact matchStart_way matched
  obtain ⟨more, split⟩ := way_braces named way
  obtain ⟨spaces, whole⟩ := List.rdropWhile_prefix isSpace body
  have inside : renderLabels labels = groupText groups 2 ++ '}' :: (more ++ spaces ++ rest) := by
    rw [cut, ← whole, split]
    simp
  rw [parseLabels, parseLabelsFrom_cut (fun _ => words.label) words.equals lineNumber labelled.named
    inside] at listed
  cases listed

end Line

/-- A value is read back when no n follows a backslash and no other letter than `\n` ends a line. -/
structure ReadsBack (value : String) : Prop where
  unpaired : ¬ ['\\', 'n'] <:+: value.toList
  unbroken : ∀ letter ∈ value.toList, letter ≠ '\n' → isLineBreak letter = false

instance (value : String) : Decidable (ReadsBack value) :=
  decidable_of_iff (¬ ['\\', 'n'] <:+: value.toList ∧
      (value.toList.all fun letter => letter = '\n' || !isLineBreak letter) = true) <| by
    rw [List.all_eq_true]
    simp only [Bool.or_eq_true, decide_eq_true_eq, Bool.not_eq_true', or_iff_not_imp_left]
    exact ⟨fun both => ⟨both.1, both.2⟩, fun back => ⟨back.unpaired, back.unbroken⟩⟩

section Breaks
variable {letter : Char}

/-- The line breaks in an escaped value are those in the value other than line feeds. -/
theorem break_mem_escape (ends : isLineBreak letter = true) (value : List Char) :
    letter ∈ escape value ↔ letter ∈ value ∧ letter ≠ '\n' := by
  induction value with
  | nil => simp [escape]
  | cons head tail ih =>
      have here : letter ∈ escapeLetter head ↔ letter = head ∧ letter ≠ '\n' := by
        have coded : letter ≠ '\\' ∧ letter ≠ '"' ∧ letter ≠ 'n' := by
          refine ⟨?_, ?_, ?_⟩ <;> rintro rfl <;> exact absurd ends (by decide)
        rw [escapeLetter]
        split_ifs <;> simp_all
      rw [escape_cons, List.mem_append, ih, here, List.mem_cons, or_and_right]

/-- A letter of a label name ends no line. -/
theorem label_not_break {name : String} (named : Spelled isLabelStart isLabelLetter name)
    (ends : isLineBreak letter = true) : letter ∉ name.toList := by
  obtain ⟨head, tail, letters, all⟩ := named.label
  rw [letters]
  intro member
  have solid := solid_not_break (nameLetter_not_space (nameLetter_of_label (all letter member)))
  rw [ends] at solid
  cases solid

theorem break_mem_label (ends : isLineBreak letter = true) {label : String × String}
    (named : Spelled isLabelStart isLabelLetter label.1) :
    letter ∈ renderLabel label ↔ letter ∈ label.2.toList ∧ letter ≠ '\n' := by
  have quotes : letter ≠ '=' ∧ letter ≠ '"' := by
    refine ⟨?_, ?_⟩ <;> rintro rfl <;> exact absurd ends (by decide)
  rw [renderLabel, List.mem_append, List.mem_append, List.mem_cons, List.mem_cons,
    break_mem_escape ends, List.mem_singleton]
  simp [label_not_break named ends, quotes]

theorem break_mem_labels (ends : isLineBreak letter = true) {labels : List (String × String)}
    (named : ∀ label ∈ labels, Spelled isLabelStart isLabelLetter label.1) :
    letter ∈ renderLabels labels ↔ ∃ label ∈ labels, letter ∈ label.2.toList ∧ letter ≠ '\n' := by
  induction labels with
  | nil => simp [renderLabels]
  | cons label rest ih =>
      have comma : letter ≠ ',' := by
        rintro rfl
        exact absurd ends (by decide)
      have others := ih fun other member => named other (List.mem_cons_of_mem _ member)
      rw [renderLabels_cons, List.mem_append, break_mem_label ends (named label List.mem_cons_self),
        List.exists_mem_cons_iff, ← others]
      split
      · rename_i none
        rw [none]
        rfl
      · rw [List.mem_cons, or_iff_right comma]

/-- Rendered labels have no line break exactly when their values have none but line feeds. -/
theorem plain_labels {labels : List (String × String)}
    (named : ∀ label ∈ labels, Spelled isLabelStart isLabelLetter label.1) :
    (∀ letter ∈ renderLabels labels, isLineBreak letter = false) ↔
      ∀ label ∈ labels, ∀ letter ∈ label.2.toList, letter ≠ '\n' → isLineBreak letter = false := by
  constructor
  · intro plain label member letter inside other
    by_contra ends
    have found := (break_mem_labels (Bool.of_not_eq_false ends) named).mpr
      ⟨label, member, inside, other⟩
    exact ends (plain letter found)
  · intro plain letter inside
    by_contra ends
    obtain ⟨label, member, found, other⟩ :=
      (break_mem_labels (Bool.of_not_eq_false ends) named).mp inside
    exact ends (plain label member letter found other)

/-- The line feeds of the values are escaped. -/
theorem labels_no_feed {labels : List (String × String)}
    (named : ∀ label ∈ labels, Spelled isLabelStart isLabelLetter label.1) :
    '\n' ∉ renderLabels labels := by
  intro inside
  obtain ⟨_, _, _, other⟩ := (break_mem_labels (by decide) named).mp inside
  exact other rfl

end Breaks

section Text
variable {V : Type} {word digit : Char → Bool} {float : String → Option V} {format : V → String}

/-- Only the labels of a sample can break its line. -/
theorem sample_plain (formats : Formats float format) {sample : TextSample V}
    (sampled : Sampled sample)
    (plain : ∀ letter ∈ renderLabels sample.labels, isLineBreak letter = false) :
    ∀ letter ∈ renderSample format sample, isLineBreak letter = false := by
  intro letter member
  rw [renderSample, List.mem_append, List.mem_append, List.mem_cons] at member
  rcases member with (name | labels) | rfl | value
  · exact solid_not_break (nameLetter_not_space (sampled.named.letters letter name))
  · split_ifs at labels with none
    · cases labels
    · rw [List.cons_append, List.mem_cons, List.mem_append, List.mem_singleton] at labels
      rcases labels with rfl | inside | rfl
      · rfl
      · exact plain letter inside
      · rfl
  · rfl
  · exact solid_not_break (formats.solid sample.value letter value)

/-- The lines of plain samples are parsed one by one. -/
theorem mapM_parseLine (words : WordLetters word) (formats : Formats float format)
    {samples : List (TextSample V)} (sampled : ∀ sample ∈ samples, Sampled sample) (first : Nat) :
    (((samples.map (renderSample format)).map String.ofList).zipIdx first).mapM
        (fun entry => parseLine word digit float entry.2 entry.1) =
      .ok (samples.map fun sample => some (misreadSample sample)) := by
  induction samples generalizing first with
  | nil => rfl
  | cons sample rest ih =>
      have own := sampled sample List.mem_cons_self
      have parsed := @parseLine_rendered _ _ digit _ _ words formats _ own
        (labels_no_feed own.labelled.named) first
      rw [List.map_cons, List.map_cons, List.zipIdx_cons, List.mapM_cons, parsed,
        ih (fun other member => sampled other (List.mem_cons_of_mem _ member))]
      rfl

/-- Samples whose labels break no line are parsed with the values that they are read back with. -/
theorem parsePrometheus_plain (words : WordLetters word) (formats : Formats float format)
    {samples : List (TextSample V)} (sampled : ∀ sample ∈ samples, Sampled sample)
    (plain : ∀ sample ∈ samples, ∀ letter ∈ renderLabels sample.labels, isLineBreak letter = false) :
    parsePrometheus word digit float (renderSamples format samples) =
      .ok (samples.map misreadSample) := by
  have lines : splitFrom [] (terminated (samples.map (renderSample format))) =
      samples.map (renderSample format) := by
    apply splitFrom_terminated
    intro line member
    obtain ⟨sample, inside, rfl⟩ := List.mem_map.mp member
    exact sample_plain formats (sampled sample inside) (plain sample inside)
  rw [parsePrometheus, renderSamples, splitlines, String.toList_ofList, lines,
    mapM_parseLine words formats sampled]
  have kept : (samples.map fun sample => some (misreadSample sample)).filterMap id =
      samples.map misreadSample := by
    rw [List.filterMap_map]
    exact congrFun List.filterMap_eq_map samples
  exact congrArg Except.ok kept

/-- A sample whose labels break its line is cut inside its labels, and the text is rejected. -/
theorem parsePrometheus_broken (words : WordLetters word) {samples : List (TextSample V)}
    {sample : TextSample V} (member : sample ∈ samples) (sampled : Sampled sample)
    (broken : ∃ letter ∈ renderLabels sample.labels, isLineBreak letter = true)
    (result : List (TextSample V)) :
    parsePrometheus word digit float (renderSamples format samples) ≠ .ok result := by
  intro parsed
  obtain ⟨body, mark, rest, cut, ends, before⟩ := exists_first broken
  obtain ⟨earlier, later, rfl⟩ := List.append_of_mem member
  have labelled : sample.labels ≠ [] := by
    intro none
    rw [none] at cut
    exact absurd cut.symm (by simp [renderLabels])
  let ending := rest ++ '}' :: ' ' :: (format sample.value).toList ++
    '\n' :: terminated (later.map (renderSample format))
  have text : terminated ((earlier ++ sample :: later).map (renderSample format)) =
      terminated (earlier.map (renderSample format)) ++
        ((sample.name.toList ++ '{' :: body) ++ mark :: ending) := by
    rw [List.map_append, List.map_cons, terminated_append, terminated_cons, renderSample,
      if_neg labelled, cut]
    simp [ending]
  have plain : ∀ letter ∈ sample.name.toList ++ '{' :: body, isLineBreak letter = false := by
    intro letter inside
    rcases List.mem_append.mp inside with name | inside
    · exact solid_not_break (nameLetter_not_space (sampled.named.letters letter name))
    · rcases List.mem_cons.mp inside with rfl | inside
      · rfl
      · exact before letter inside
  have line : String.ofList (sample.name.toList ++ '{' :: body) ∈
      splitlines (renderSamples format (earlier ++ sample :: later)) := by
    rw [splitlines, renderSamples, String.toList_ofList, text]
    exact List.mem_map_of_mem (mem_splitFrom plain ends)
  rw [← List.zipIdx_map_fst 1 (splitlines _)] at line
  obtain ⟨entry, numbered, same⟩ := List.mem_map.mp line
  obtain ⟨samples, walked, _⟩ := except_bind_ok parsed
  obtain ⟨sampleRead, _, read⟩ := answer_of_mapM walked numbered
  rw [same] at read
  exact parseLine_cut words sampled.named sampled.labelled cut entry.2 sampleRead read

theorem misreadLabel_eq_iff (label : String × String) :
    misreadLabel label = label ↔ ¬ ['\\', 'n'] <:+: label.2.toList := by
  have value : String.ofList (misread label.2.toList) = label.2 ↔
      misread label.2.toList = label.2.toList := by
    rw [← String.toList_inj, String.toList_ofList]
  rw [← misread_eq_iff, ← value, misreadLabel, Prod.ext_iff]
  exact and_iff_right rfl

theorem map_fixed {α : Type} {update : α → α} {items : List α} :
    items.map update = items ↔ ∀ item ∈ items, update item = item := by
  have pointwise := @List.map_inj_left _ _ items update id
  rwa [List.map_id] at pointwise

/-- Samples are read back when their label values are. -/
theorem misread_samples_iff {samples : List (TextSample V)} :
    samples.map misreadSample = samples ↔
      ∀ sample ∈ samples, ∀ label ∈ sample.labels, ¬ ['\\', 'n'] <:+: label.2.toList := by
  rw [map_fixed]
  refine forall₂_congr fun sample _ => ?_
  have labels : misreadSample sample = sample ↔ sample.labels.map misreadLabel = sample.labels :=
    ⟨congrArg TextSample.labels, fun same => congrArg (TextSample.mk _ · _) same⟩
  rw [labels, map_fixed]
  exact forall₂_congr fun label _ => misreadLabel_eq_iff label

/-- Rendered samples are read back exactly when each of their label values is. -/
theorem parsePrometheus_renderSamples (words : WordLetters word) (formats : Formats float format)
    {samples : List (TextSample V)} (sampled : ∀ sample ∈ samples, Sampled sample) :
    parsePrometheus word digit float (renderSamples format samples) = .ok samples ↔
      ∀ sample ∈ samples, ∀ label ∈ sample.labels, ReadsBack label.2 := by
  constructor
  · intro parsed
    have plain : ∀ sample ∈ samples, ∀ letter ∈ renderLabels sample.labels,
        isLineBreak letter = false := by
      intro sample member letter inside
      by_contra ends
      exact parsePrometheus_broken words member (sampled sample member)
        ⟨letter, inside, Bool.of_not_eq_false ends⟩ samples parsed
    rw [parsePrometheus_plain words formats sampled plain] at parsed
    have unpaired := misread_samples_iff.mp (Except.ok.inj parsed)
    intro sample member label inside
    exact ⟨unpaired sample member label inside,
      (plain_labels (sampled sample member).labelled.named).mp (plain sample member) label inside⟩
  · intro back
    have plain : ∀ sample ∈ samples, ∀ letter ∈ renderLabels sample.labels,
        isLineBreak letter = false := fun sample member =>
      (plain_labels (sampled sample member).labelled.named).mpr fun label inside =>
        (back sample member label inside).unbroken
    have unpaired := misread_samples_iff.mpr fun sample member label inside =>
      (back sample member label inside).unpaired
    rw [parsePrometheus_plain words formats sampled plain, unpaired]

end Text

/-- A switch is written as one or zero. -/
def switchText (value : Bool) : String := if value then "1" else "0"

def switchFloat (text : String) : Option Bool :=
  if text = "1" then some true else if text = "0" then some false else none

theorem switch_formats : Formats switchFloat switchText where
  back := by decide
  filled := by decide
  solid := Bool.forall_bool.mpr
    ⟨List.forall_mem_singleton.mpr rfl, List.forall_mem_singleton.mpr rfl⟩
  unbraced := by decide

/-- A name is spelled when its first letter and its other letters are checked. -/
theorem spelled_of_all {start letter : Char → Bool} {name : String} {head : Char} {tail : List Char}
    (letters : name.toList = head :: tail) (starts : start head = true)
    (others : tail.all letter = true) : Spelled start letter name :=
  ⟨head, tail, letters, starts, List.all_eq_true.mp others⟩

/-- A sample of a volume with one path. -/
def volumeSample (path : String) : TextSample Bool := ⟨"volume_mounted", [("path", path)], true⟩

theorem volume_sampled (path : String) : Sampled (volumeSample path) := by
  have name : Spelled isNameStart isNameLetter "volume_mounted" :=
    spelled_of_all (rfl : _ = 'v' :: "olume_mounted".toList) rfl (by decide)
  have label : Spelled isLabelStart isLabelLetter "path" :=
    spelled_of_all (rfl : _ = 'p' :: "ath".toList) rfl (by decide)
  exact ⟨name, List.forall_mem_singleton.mpr label, List.nodup_singleton _⟩

/-- Quotes, braces, commas, line feeds and a doubled backslash are read back. -/
theorem parsePrometheus_renderSamples_of_quotes :
    parsePrometheus isLabelLetter isAsciiDigit switchFloat
        (renderSamples switchText [volumeSample "a\"\x7d 0,\nb=\\\\c", ⟨"up", [], false⟩]) =
      .ok [volumeSample "a\"\x7d 0,\nb=\\\\c", ⟨"up", [], false⟩] := by
  apply (parsePrometheus_renderSamples (fun _ _ => rfl) switch_formats ?_).mpr
  · decide +kernel
  · rintro sample member
    rcases List.mem_cons.mp member with rfl | member
    · exact volume_sampled _
    · rw [List.mem_singleton.mp member]
      exact ⟨spelled_of_all (rfl : _ = 'u' :: "p".toList) rfl rfl, ⟨nofun, List.nodup_nil⟩⟩

/-- A backslash before an n is read back as a line feed, and a return breaks the line. -/
theorem parsePrometheus_misreads :
    (∀ path, Sampled (volumeSample path)) ∧
    parsePrometheus isLabelLetter isAsciiDigit switchFloat
        (renderSamples switchText [volumeSample "C:\\new"]) =
      .ok [volumeSample "C:\\\new"] ∧
    volumeSample "C:\\\new" ≠ volumeSample "C:\\new" ∧
    parsePrometheus isLabelLetter isAsciiDigit switchFloat
        (renderSamples switchText [volumeSample "a\rb"]) =
      .error ⟨"invalid Prometheus sample at line 1"⟩ := ⟨volume_sampled, by decide +kernel⟩

end StateFlow.Adapters
