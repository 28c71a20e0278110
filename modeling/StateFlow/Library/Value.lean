import Mathlib.Data.Rat.Floor
import Mathlib.Data.Rat.Star
import Mathlib.Data.List.Infix
import Mathlib.Data.List.Sort
import StateFlow.Library.Effect
import StateFlow.Library.Table

namespace StateFlow.Python
open Effect Table

/-- These are the exception classes that a dynamically typed operation raises. A client of the state plane
has a class of its own. -/
inductive Exception where
  | typeError
  | valueError
  | attributeError
  | overflowError
  | keyError
  | permissionError
  | runtimeError
  | statePlaneHttpError
  | statePlaneGrpcError
  deriving DecidableEq, Repr

/-- `deepcopy` raises `TypeError` for a value that it cannot copy. -/
def copied (copies : Bool) : Except Exception Unit :=
  if copies then .ok () else .error .typeError

/-- A value carries its own type. Text keys index every mapping. -/
inductive Value where
  | none
  | bool (value : Bool)
  | int (value : Int)
  | float (value : ℚ)
  | str (value : String)
  | list (items : List Value)
  | tuple (items : List Value)
  | set (items : List Value)
  | dict (items : List (String × Value))
  | enum (kind member : String)
  | datetime (micros : Int)
  | timedelta (micros : Int)
  | object (kind : String) (attrs : List (String × Value))
  deriving Repr, Inhabited

/-- An interpreter supplies its text conversions. A failed parse returns no value. -/
structure Text where
  upper : String → String
  lower : String → String
  parseInt : String → Option Int
  parseFloat : String → Option ℚ
  parseDateTime : String → Option Int
  repr : Value → String

/-- The infinite floats and nan lie outside the rationals. They are objects of their own class. -/
def nonFinite (text : String) : Value := .object "float" [("value", .str text)]

/-- A float is a finite number, an infinity, or nan. -/
inductive Floating where
  | finite (value : ℚ)
  | infinite (negative : Bool)
  | nan
  deriving DecidableEq, Repr

namespace Floating

def value : Floating → Value
  | finite value => .float value
  | infinite false => nonFinite "inf"
  | infinite true => nonFinite "-inf"
  | nan => nonFinite "nan"

/-- `math.isfinite` -/
def isFinite : Floating → Bool
  | finite _ => true
  | _ => false

end Floating

/-- The first and the last instant of the calendar, in microseconds from the epoch. -/
def minDateTime : Int := -62135596800000000
def maxDateTime : Int := 253402300799999999

/-- The longest duration, in microseconds. -/
def maxTimedelta : Int := 86399999999999999999

/-- `2 ^ 1024 - 2 ^ 970`. The integers from here on round past the greatest double. -/
def floatLimit : Int := (2 ^ 256) ^ 4 - (2 ^ 194) ^ 5

/-- The conversion of an integer keeps its exact value. It overflows beyond the doubles. -/
def floatOfInt (value : Int) : Except Exception ℚ :=
  if -floatLimit < value ∧ value < floatLimit then .ok value else .error .overflowError

theorem floatOfInt_ok_iff {value : Int} {number : ℚ} :
    floatOfInt value = .ok number ↔ (-floatLimit < value ∧ value < floatLimit) ∧ number = value := by
  unfold floatOfInt
  by_cases inside : -floatLimit < value ∧ value < floatLimit
  · rw [if_pos inside]
    exact ⟨fun same => ⟨inside, (Except.ok.inj same).symm⟩, fun ⟨_, same⟩ => by rw [same]⟩
  · rw [if_neg inside]
    exact ⟨nofun, fun ⟨small, _⟩ => absurd small inside⟩

theorem floatOfInt_one : floatOfInt 1 = .ok 1 :=
  floatOfInt_ok_iff.mpr ⟨⟨by unfold floatLimit; norm_num, by unfold floatLimit; norm_num⟩, rfl⟩

namespace Value

/-- The numeric value of a boolean, an integer, or a float. -/
def number? : Value → Option ℚ
  | .bool value => some (if value then 1 else 0)
  | .int value => some value
  | .float value => some value
  | _ => Option.none

@[simp] theorem number?_int (value : Int) : (Value.int value).number? = some (value : ℚ) := rfl

@[simp] theorem number?_float (value : ℚ) : (Value.float value).number? = some value := rfl

/-- An ordering operator rejects an operand that is not a number. -/
def number (value : Value) : Except Exception ℚ :=
  match value.number? with
  | some result => .ok result
  | Option.none => .error .typeError

/-- The text of a string or of a member of a text enumeration. -/
def text? : Value → Option String
  | .str value => some value
  | .enum _ member => some member
  | _ => Option.none

/-- Only the missing value is none. -/
def isNone : Value → Bool
  | .none => true
  | _ => false

mutual

/-- Numbers and texts compare across their types. Sets and mappings compare in any order. -/
def beq : Value → Value → Bool
  | .none, second => second.isNone
  | .bool first, second => second.number? == some (if first then 1 else 0)
  | .int first, second => second.number? == some (first : ℚ)
  | .float first, second => second.number? == some first
  | .str first, second => second.text? == some first
  | .enum _ first, second => second.text? == some first
  | .list first, second =>
      match second with
      | .list second => beqItems first second
      | _ => false
  | .tuple first, second =>
      match second with
      | .tuple second => beqItems first second
      | _ => false
  | .set first, second =>
      match second with
      | .set second =>
          beqItems first second || (first.length == second.length && itemsWithin first second)
      | _ => false
  | .dict first, second =>
      match second with
      | .dict second =>
          beqEntries first second || (first.length == second.length && entriesWithin first second)
      | _ => false
  | .datetime first, second =>
      match second with
      | .datetime second => first == second
      | _ => false
  | .timedelta first, second =>
      match second with
      | .timedelta second => first == second
      | _ => false
  | .object kind first, second =>
      match second with
      | .object other second => kind == other && beqEntries first second
      | _ => false
termination_by structural first => first

/-- Lists compare item by item. -/
def beqItems : List Value → List Value → Bool
  | [], second => second.isEmpty
  | first :: rest, second =>
      match second with
      | item :: others => beq first item && beqItems rest others
      | [] => false
termination_by structural first => first

def beqEntry : String × Value → String × Value → Bool
  | (name, first), second => name == second.1 && beq first second.2
termination_by structural first => first

def beqEntries : List (String × Value) → List (String × Value) → Bool
  | [], second => second.isEmpty
  | first :: rest, second =>
      match second with
      | entry :: others => beqEntry first entry && beqEntries rest others
      | [] => false
termination_by structural first => first

/-- Each item of a list equals some item of another one. -/
def itemsWithin : List Value → List Value → Bool
  | [], _ => true
  | first :: rest, others => others.any (fun other => beq first other) && itemsWithin rest others
termination_by structural first => first

def entriesWithin : List (String × Value) → List (String × Value) → Bool
  | [], _ => true
  | first :: rest, others =>
      others.any (fun other => beqEntry first other) && entriesWithin rest others
termination_by structural first => first

end

instance : BEq Value := ⟨beq⟩

mutual

/-- A value equals itself. -/
theorem beq_self : (value : Value) → beq value value = true
  | .none => by simp [beq, isNone]
  | .bool _ => by simp [beq, number?]
  | .int _ => by simp [beq, number?]
  | .float _ => by simp [beq, number?]
  | .str _ => by simp [beq, text?]
  | .enum _ _ => by simp [beq, text?]
  | .list items => by simp [beq, beqItems_self items]
  | .tuple items => by simp [beq, beqItems_self items]
  | .set items => by simp [beq, beqItems_self items]
  | .dict items => by simp [beq, beqEntries_self items]
  | .datetime _ => by simp [beq]
  | .timedelta _ => by simp [beq]
  | .object _ attrs => by simp [beq, beqEntries_self attrs]

theorem beqItems_self : (items : List Value) → beqItems items items = true
  | [] => by simp [beqItems]
  | first :: rest => by simp [beqItems, beq_self first, beqItems_self rest]

theorem beqEntry_self : (entry : String × Value) → beqEntry entry entry = true
  | (_, value) => by simp [beqEntry, beq_self value]

theorem beqEntries_self : (entries : List (String × Value)) → beqEntries entries entries = true
  | [] => by simp [beqEntries]
  | first :: rest => by simp [beqEntries, beqEntry_self first, beqEntries_self rest]

end

instance : ReflBEq Value := ⟨fun {value} => beq_self value⟩

example : (Value.dict [("a", .int 1), ("b", .set [.int 2, .str "c"])] ==
    .dict [("b", .set [.str "c", .float 2]), ("a", .bool true)]) = true := by decide

/-- This is the truth value of an object. -/
def truthy : Value → Bool
  | .none => false
  | .bool value => value
  | .int value => value != 0
  | .float value => value != 0
  | .str value => value != ""
  | .list items | .tuple items | .set items => !items.isEmpty
  | .dict items => !items.isEmpty
  | .timedelta micros => micros != 0
  | .enum .. | .datetime .. | .object .. => true

/-- The `or` operator returns its first true operand or its last one. -/
def orElse (first second : Value) : Value := if first.truthy then first else second

/-- A mutable container has no hash. -/
def hashable : Value → Bool
  | .list _ | .set _ | .dict _ | .object .. => false
  | .tuple items => hashableAll items
  | _ => true
where
  hashableAll : List Value → Bool
    | [] => true
    | item :: rest => item.hashable && hashableAll rest

/-- Numbers compare by value and text enumerations compare as text. -/
def eq (first second : Value) : Bool :=
  match first.number?, second.number? with
  | some left, some right => left == right
  | _, _ =>
    match first.text?, second.text? with
    | some left, some right => left == right
    | _, _ => first == second

/-- Membership in a list compares with each element. -/
def mem (value : Value) (items : List Value) : Bool := items.any value.eq

/-- The `<` operator is defined on numbers, texts, instants, and durations. -/
def lt (first second : Value) : Except Exception Bool :=
  match first.number?, second.number? with
  | some left, some right => .ok (decide (left < right))
  | _, _ =>
    match first.text?, second.text? with
    | some left, some right => .ok (decide (left < right))
    | _, _ =>
      match first, second with
      | .datetime left, .datetime right => .ok (decide (left < right))
      | .timedelta left, .timedelta right => .ok (decide (left < right))
      | .list left, .list right => ltItems left right
      | .tuple left, .tuple right => ltItems left right
      | .set left, .set right =>
          .ok (left.all (fun item => item.mem right) && !right.all (fun item => item.mem left))
      | _, _ => .error .typeError
where
  ltItems : List Value → List Value → Except Exception Bool
    | [], [] => .ok false
    | [], _ :: _ => .ok true
    | _ :: _, [] => .ok false
    | left :: lefts, right :: rights =>
        if left.eq right then ltItems lefts rights else left.lt right

/-- `max(first, second)` keeps the first operand unless the second is larger. -/
def max (first second : Value) : Except Exception Value := do
  return if ← first.lt second then second else first

/-- The arithmetic of floats converts each number. -/
def double : Value → Except Exception ℚ
  | .bool value => .ok (if value then 1 else 0)
  | .int value => floatOfInt value
  | .float value => .ok value
  | _ => .error .typeError

/-- The `+` operator on numbers, texts, and sequences. -/
def add (first second : Value) : Except Exception Value :=
  match first, second with
  | .str left, .str right => .ok (.str (left ++ right))
  | .list left, .list right => .ok (.list (left ++ right))
  | .tuple left, .tuple right => .ok (.tuple (left ++ right))
  | .timedelta left, .timedelta right => .ok (.timedelta (left + right))
  | .float left, _ => do return .float (left + (← second.double))
  | _, .float right => do return .float ((← first.double) + right)
  | _, _ =>
      match first.number?, second.number? with
      | some left, some right => .ok (.int (left.floor + right.floor))
      | _, _ => .error .typeError

@[simp] theorem add_int (left right : Int) :
    (Value.int left).add (.int right) = .ok (.int (left + right)) := by
  simp [add]

end Value

/-- The larger of two integers is their maximum. -/
theorem max_int (first second : Int) :
    (Value.int first).max (.int second) = .ok (.int (max first second)) := by
  have compared : (Value.int first).lt (.int second) = .ok (decide (first < second)) := by
    simp [Value.lt]
  rw [Value.max, compared]
  change Except.ok (if decide (first < second) = true then Value.int second else .int first) = _
  rw [max_def]
  by_cases less : first < second
  · rw [if_pos (decide_eq_true less), if_pos less.le]
  · rw [if_neg (by simpa using less)]
    split
    · rename_i most
      rw [le_antisymm most (not_lt.mp less)]
    · rfl

/-- The larger value of a number and another value is a number. -/
theorem max_number {first second largest : Value} {amount : ℚ} (known : first.number? = some amount)
    (compared : first.max second = .ok largest) :
    ∃ other greatest, second.number? = some other ∧ largest.number? = some greatest ∧
      amount ≤ greatest ∧ other ≤ greatest := by
  unfold Value.max at compared
  obtain ⟨less, ordered, finished⟩ := except_bind_ok compared
  cases other : second.number? with
  | none =>
      unfold Value.lt at ordered
      rw [known, other] at ordered
      cases first <;> simp_all [Value.number?, Value.text?]
  | some bound =>
      have decided : Value.lt first second = .ok (decide (amount < bound)) := by
        unfold Value.lt
        rw [known, other]
      cases decided.symm.trans ordered
      by_cases below : amount < bound
      · rw [if_pos (decide_eq_true below)] at finished
        cases finished
        exact ⟨bound, bound, rfl, other, below.le, le_rfl⟩
      · rw [if_neg (by simpa using below)] at finished
        cases finished
        exact ⟨bound, amount, rfl, known, le_rfl, not_lt.mp below⟩

/-- `int(value)` truncates a float and parses a text. -/
def Text.int (text : Text) : Value → Except Exception Int
  | .bool value => .ok (if value then 1 else 0)
  | .int value => .ok value
  | .float value => .ok (if 0 ≤ value then ⌊value⌋ else ⌈value⌉)
  | .str value | .enum _ value =>
      match text.parseInt value with
      | some result => .ok result
      | none => .error .valueError
  | _ => .error .typeError

/-- `float(value)` converts a number and parses a text. -/
def Text.float (text : Text) : Value → Except Exception ℚ
  | .str value | .enum _ value =>
      match text.parseFloat value with
      | some result => .ok result
      | none => .error .valueError
  | value => value.double

/-- `str(value)` keeps a text and renders every other value. -/
def Text.str (text : Text) : Value → String
  | .str value => value
  | .none => "None"
  | .bool value => if value then "True" else "False"
  | .int value => toString value
  | .enum kind member => kind ++ "." ++ member
  | value => text.repr value

/-- An iteration yields the items of a container and the keys of a mapping. -/
def Value.iter : Value → Except Exception (List Value)
  | .list items | .tuple items | .set items => .ok items
  | .dict items => .ok (items.map fun entry => .str entry.1)
  | .str value | .enum _ value => .ok (value.toList.map fun letter => .str (String.singleton letter))
  | _ => .error .typeError

/-- The first occurrence represents each group of equal items. -/
def distinct : List Value → List Value
  | [] => []
  | item :: rest => item :: (distinct rest).filter (fun later => !later.eq item)

theorem mem_of_mem_distinct {item : Value} {items : List Value}
    (member : item ∈ distinct items) : item ∈ items := by
  induction items with
  | nil => exact member
  | cons first rest ih =>
      rcases List.mem_cons.mp member with same | later
      · exact same ▸ List.mem_cons_self
      · exact List.mem_cons_of_mem _ (ih (List.mem_filter.mp later).1)

/-- A text equals each value with that text. -/
theorem Value.str_eq_iff {name : String} {value : Value} :
    (Value.str name).eq value = true ↔ value.text? = some name := by
  cases value with
  | str other | enum kind other =>
      change (name == other) = true ↔ some other = some name
      rw [beq_iff_eq, Option.some.injEq, eq_comm]
  | _ =>
      change (Option.none == some name) = true ↔ Option.none = some name
      simp

/-- Equal values have the same text. -/
theorem Value.text_of_eq {name : String} {first second : Value} (known : first.text? = some name)
    (same : first.eq second = true) : second.text? = some name := by
  cases first with
  | str other =>
      cases known
      exact Value.str_eq_iff.mp same
  | enum kind other =>
      cases known
      cases second with
      | str other => exact Value.str_eq_iff.mp same
      | _ => exact Value.str_eq_iff.mp same
  | _ => cases known

/-- A text of some item stays among the distinct items. -/
theorem exists_text_distinct {items : List Value} {name : String}
    (present : ∃ item ∈ items, item.text? = some name) :
    ∃ item ∈ distinct items, item.text? = some name := by
  induction items with
  | nil => exact present
  | cons first rest ih =>
      obtain ⟨item, member, known⟩ := present
      rcases List.mem_cons.mp member with rfl | inside
      · exact ⟨item, List.mem_cons_self, known⟩
      · obtain ⟨other, kept, named⟩ := ih ⟨item, inside, known⟩
        by_cases same : other.eq first = true
        · exact ⟨first, List.mem_cons_self, Value.text_of_eq named same⟩
        · refine ⟨other, List.mem_cons_of_mem _ (List.mem_filter.mpr ⟨kept, ?_⟩), named⟩
          simpa using same

/-- `set(value)` rejects an item without a hash. -/
def Value.toSet (value : Value) : Except Exception Value := do
  let items ← value.iter
  if items.all Value.hashable then return .set (distinct items) else throw .typeError

/-- `dict(value)` copies a mapping or reads a sequence of pairs. -/
def Value.toDict : Value → Except Exception (List (String × Value))
  | .dict items => .ok items
  | value => do pairs (← value.iter)
where
  pairs : List Value → Except Exception (List (String × Value))
    | [] => .ok []
    | item :: rest => do
        match ← item.iter with
        | [.str key, value] => return assign key value (← pairs rest)
        | [_, _] => throw .typeError
        | _ => throw .valueError

/-- The `in` operator reads a container, the keys of a mapping, or a part of a text. -/
def Value.contains (container item : Value) : Except Exception Bool :=
  match container with
  | .list items | .tuple items => .ok (item.mem items)
  | .set items => if item.hashable then .ok (item.mem items) else .error .typeError
  | .dict items =>
      if item.hashable then .ok (item.mem (items.map fun entry => .str entry.1))
      else .error .typeError
  | .str value | .enum _ value =>
      match item.text? with
      | some part => .ok (decide (part.toList <:+: value.toList))
      | Option.none => .error .typeError
  | _ => .error .typeError

/-- A sized container reports its number of items. -/
def Value.len (value : Value) : Except Exception Nat := do return (← value.iter).length

/-- An item update keeps the kind of its container. -/
def Value.setItem (container : Value) (index : Nat) (item : Value) : Value :=
  match container with
  | .list items => .list (items.set index item)
  | .tuple items => .tuple (items.set index item)
  | value => value

/-- Only a list accepts a new last item. -/
def Value.append (container item : Value) : Except Exception Value :=
  match container with
  | .list items => .ok (.list (items ++ [item]))
  | _ => .error .attributeError

/-- Only a record has named attributes. -/
def Value.attr (name : String) : Value → Except Exception Value
  | .object _ attrs =>
      match attrs.lookup name with
      | some value => .ok value
      | Option.none => .error .attributeError
  | _ => .error .attributeError

/-- An attribute assignment replaces one attribute of a record. -/
def Value.setAttr (record : Value) (name : String) (value : Value) : Except Exception Value :=
  match record with
  | .object kind attrs => .ok (.object kind (assign name value attrs))
  | _ => .error .attributeError

/-- A record has an attribute when its class declares it. -/
def Value.hasAttr (name : String) : Value → Bool
  | .object _ attrs => (attrs.lookup name).isSome
  | _ => false

/-- Halves round to the even neighbour. -/
def roundHalfEven (value : ℚ) : Int :=
  let below := ⌊value⌋
  if value - below < 1 / 2 then below
  else if 1 / 2 < value - below then below + 1
  else if below % 2 = 0 then below else below + 1

/-- `timedelta(seconds=value)` rejects a duration that has no representation. -/
def timedeltaOfSeconds (seconds : ℚ) : Except Exception Value :=
  let micros := roundHalfEven (seconds * 1000000)
  if -maxTimedelta ≤ micros ∧ micros ≤ maxTimedelta then .ok (.timedelta micros)
  else .error .overflowError

/-- The sum of an instant and a duration stays inside the calendar. -/
def addDuration (instant duration : Int) : Except Exception Int :=
  if minDateTime ≤ instant + duration ∧ instant + duration ≤ maxDateTime then
    .ok (instant + duration)
  else .error .overflowError

end StateFlow.Python
