import StateFlow.Library.Regex
import StateFlow.Library.Table
import StateFlow.Library.Text
import StateFlow.Construction.Adapters.Identity

namespace StateFlow.Adapters
open Python Table Regex Text

/-- A sample of the text format. Its value is whatever `float` returns. -/
structure TextSample (V : Type) where
  name : String
  labels : List (String × String)
  value : V
  deriving DecidableEq

structure SourceClientError where
  message : String
  deriving DecidableEq

def isAsciiLetter (letter : Char) : Bool :=
  ('A' ≤ letter && letter ≤ 'Z') || ('a' ≤ letter && letter ≤ 'z')

def isAsciiDigit (letter : Char) : Bool := '0' ≤ letter && letter ≤ '9'

/-- `[A-Za-z_:]` -/
def isNameStart (letter : Char) : Bool := isAsciiLetter letter || letter = '_' || letter = ':'

/-- `[A-Za-z0-9_:]` -/
def isNameLetter (letter : Char) : Bool := isNameStart letter || isAsciiDigit letter

/-- `\s*` -/
def spaces : Pattern := .many (.letter isSpace)

/-- `([A-Za-z_:][A-Za-z0-9_:]*)` -/
def namePart : Pattern :=
  .group 1 (.seq (.letter isNameStart) (.many (.letter isNameLetter)))

/-- `(?:\{(.*)\})?` -/
def labelsPart : Pattern :=
  .optional (.seq (.exact '{')
    (.seq (.group 2 (.many (.letter fun letter => letter ≠ '\n'))) (.exact '}')))

/-- `\s+([^\s]+)(?:\s+\d+)?$` -/
def valuePart (digit : Char → Bool) : Pattern :=
  .seq (.plus (.letter isSpace))
  (.seq (.group 3 (.plus (.letter fun letter => !isSpace letter)))
  (.seq (.optional (.seq (.plus (.letter isSpace)) (.plus (.letter digit)))) .finish))

/-- `_SAMPLE` captures a name, the labels between braces, and a value. -/
def samplePattern (digit : Char → Bool) : Pattern :=
  .seq namePart (.seq labelsPart (valuePart digit))

/-- `\\.|[^"\\]` -/
def valuePattern : Pattern :=
  .alt (.seq (.exact '\\') (.letter fun letter => letter ≠ '\n'))
    (.letter fun letter => letter ≠ '"' && letter ≠ '\\')

/-- `_LABEL` captures a key and an escaped value. -/
def labelPattern (word : Char → Bool) : Pattern :=
  .seq (.group 1 (.plus (.letter word)))
  (.seq spaces
  (.seq (.exact '=')
  (.seq spaces
  (.seq (.exact '"')
  (.seq (.group 2 (.many valuePattern))
  (.seq (.exact '"')
  (.alt (.seq spaces (.seq (.exact ',') spaces)) .finish)))))))

/-- The text of a group. An absent group is empty. -/
def groupText (groups : Groups) (number : Nat) : List Char := (groups.lookup number).getD []

/-- The replacements run one after the other. -/
def unescape (value : List Char) : List Char :=
  replacePair '\\' '\\' '\\' (replacePair '\\' '"' '"' (replacePair '\\' 'n' '\n' value))

section Parser
variable {V : Type} (word digit : Char → Bool) (float : String → Option V)

/-- The loop of `_parse_labels`. Each match is longer than nothing, so the letters bound it. -/
def parseLabelsFrom (lineNumber : Nat) :
    Nat → List Char → List (String × String) → Except SourceClientError (List (String × String))
  | _, [], labels => .ok labels
  | 0, _ :: _, _ => .error ⟨"invalid Prometheus labels at line " ++ toString lineNumber⟩
  | fuel + 1, head :: tail, labels =>
      match (labelPattern word).matchStart (head :: tail) with
      | none => .error ⟨"invalid Prometheus labels at line " ++ toString lineNumber⟩
      | some (rest, groups) =>
          parseLabelsFrom lineNumber fuel rest (assign (String.ofList (groupText groups 1))
            (String.ofList (unescape (groupText groups 2))) labels)

def parseLabels (raw : List Char) (lineNumber : Nat) :
    Except SourceClientError (List (String × String)) :=
  parseLabelsFrom word lineNumber raw.length raw []

/-- One line of `parse_prometheus`. An empty line and a comment have no sample. -/
def parseLine (lineNumber : Nat) (rawLine : String) :
    Except SourceClientError (Option (TextSample V)) := do
  let line := strip rawLine
  if line = "" || line.toList.head? = some '#' then return none
  else
    match (samplePattern digit).matchStart line.toList with
    | none => throw ⟨"invalid Prometheus sample at line " ++ toString lineNumber⟩
    | some (_, groups) =>
        match float (String.ofList (groupText groups 3)) with
        | none => throw ⟨"invalid Prometheus value at line " ++ toString lineNumber⟩
        | some value => do
            let labels ← parseLabels word (groupText groups 2) lineNumber
            return some ⟨String.ofList (groupText groups 1), labels, value⟩

/-- `parse_prometheus` numbers the lines from one. -/
def parsePrometheus (text : String) : Except SourceClientError (List (TextSample V)) := do
  let samples ← ((splitlines text).zipIdx 1).mapM fun entry =>
    parseLine word digit float entry.2 entry.1
  return samples.filterMap id

end Parser

/-- The text format escapes three letters of a label value. -/
def escapeLetter (letter : Char) : List Char :=
  if letter = '\\' then ['\\', '\\']
  else if letter = '"' then ['\\', '"']
  else if letter = '\n' then ['\\', 'n']
  else [letter]

def escape (value : List Char) : List Char := value.flatMap escapeLetter

def renderLabel (label : String × String) : List Char :=
  label.1.toList ++ '=' :: '"' :: escape label.2.toList ++ ['"']

/-- Commas separate the labels. -/
def renderLabels : List (String × String) → List Char
  | [] => []
  | [label] => renderLabel label
  | label :: next :: rest => renderLabel label ++ ',' :: renderLabels (next :: rest)

section Render
variable {V : Type} (format : V → String)

/-- A sample without labels has no braces. -/
def renderSample (sample : TextSample V) : List Char :=
  sample.name.toList ++
    (if sample.labels = [] then [] else '{' :: renderLabels sample.labels ++ ['}']) ++
    ' ' :: (format sample.value).toList

/-- Each sample is one line. -/
def renderSamples (samples : List (TextSample V)) : String :=
  String.ofList (terminated (samples.map (renderSample format)))

end Render

end StateFlow.Adapters
