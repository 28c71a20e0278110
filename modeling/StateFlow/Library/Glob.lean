import Mathlib.Data.List.Basic

namespace StateFlow.Python

/-- One part of a shell pattern. A class holds ranges of letters. -/
inductive Glob where
  | star
  | any
  | letter (value : Char)
  | set (negated : Bool) (ranges : List (Char × Char))

/-- A hyphen between two letters of a class joins them to a range. -/
def globRanges : List Char → List (Char × Char)
  | first :: '-' :: last :: rest => (first, last) :: globRanges rest
  | first :: rest => (first, first) :: globRanges rest
  | [] => []

/-- The class ends at the first bracket after its first letter. -/
def globClass (letters : List Char) : Option (Glob × List Char) :=
  let (negated, body) := match letters with
    | '!' :: rest => (true, rest)
    | _ => (false, letters)
  let (first, later) := match body with
    | ']' :: rest => ([']'], rest)
    | _ => ([], body)
  let content := later.takeWhile fun letter => letter ≠ ']'
  match later.dropWhile fun letter => letter ≠ ']' with
  | _ :: rest => some (.set negated (globRanges (first ++ content)), rest)
  | [] => none

/-- The fuel bounds the letters that remain. -/
def globParts : Nat → List Char → List Glob
  | 0, _ => []
  | _, [] => []
  | fuel + 1, '*' :: rest => .star :: globParts fuel rest
  | fuel + 1, '?' :: rest => .any :: globParts fuel rest
  | fuel + 1, '[' :: rest =>
      match globClass rest with
      | some (part, later) => part :: globParts fuel later
      | none => .letter '[' :: globParts fuel rest
  | fuel + 1, letter :: rest => .letter letter :: globParts fuel rest

def Glob.accepts (letter : Char) : Glob → Bool
  | .star => false
  | .any => true
  | .letter value => letter = value
  | .set negated ranges =>
      ranges.any (fun range => range.1 ≤ letter && letter ≤ range.2) != negated

def globMatches : List Glob → List Char → Bool
  | [], letters => letters.isEmpty
  | .star :: parts, letters => letters.tails.any (globMatches parts)
  | part :: parts, letters =>
      match letters with
      | letter :: rest => part.accepts letter && globMatches parts rest
      | [] => false

/-- `fnmatchcase` matches the whole text against a shell pattern. -/
def fnmatchcase (text pattern : String) : Bool :=
  globMatches (globParts pattern.length pattern.toList) text.toList

/-- A text with one of these letters is a pattern. -/
def isPattern (text : String) : Bool := text.toList.any fun letter => letter ∈ ['*', '?', '[']

example : fnmatchcase "runtime.queue_depth" "runtime.*" = true := by decide

example : fnmatchcase "kv.size" "kv.[!l-r]?z*" = true := by decide

end StateFlow.Python
