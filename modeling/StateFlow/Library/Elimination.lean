import Mathlib.Algebra.Order.Group.Abs
import StateFlow.Library.Selection

namespace StateFlow.Elimination
open Selection

variable {A K R : Type}

/-- A criterion has a direction and gives a known value to some items. It tolerates a distance from
a best value. -/
structure Criteria (A K R : Type) where
  value : K → A → Option R
  maximize : K → Bool
  tolerance : K → R → R

section Best
variable [LinearOrder R] (criteria : Criteria A K R)

/-- The best known value of some items. -/
def best (criterion : K) (items : List A) : Option R :=
  let values := items.filterMap (criteria.value criterion)
  if criteria.maximize criterion then values.argmax id else values.argmin id

/-- A known value is better than an unknown one. -/
def Better (criterion : K) : Option R → Option R → Prop
  | some first, some second =>
      if criteria.maximize criterion then second < first else first < second
  | some _, none => True
  | none, _ => False

/-- The first criterion that separates two items prefers the first one. -/
def LexBetter (order : List K) (first second : A) : Prop :=
  ∃ early criterion late, order = early ++ criterion :: late ∧
    (∀ equal ∈ early, criteria.value equal first = criteria.value equal second) ∧
    Better criteria criterion (criteria.value criterion first) (criteria.value criterion second)

variable {criteria} {criterion : K} {order : List K} {items : List A} {item : A}

@[simp] theorem better_some (first second : R) :
    Better criteria criterion (some first) (some second) ↔
      if criteria.maximize criterion then second < first else first < second := Iff.rfl

/-- A best value is known and extreme. -/
theorem best_some {value : R} (found : best criteria criterion items = some value) :
    (∃ leader ∈ items, criteria.value criterion leader = some value) ∧
      ∀ other ∈ items, ∀ known, criteria.value criterion other = some known →
        if criteria.maximize criterion then known ≤ value else value ≤ known := by
  have listed (known : R) : known ∈ items.filterMap (criteria.value criterion) ↔
      ∃ other ∈ items, criteria.value criterion other = some known := List.mem_filterMap
  unfold best at found
  simp only at found
  split at found
  · rename_i larger
    refine ⟨(listed value).mp (argmax_mem _ found), fun other member known read => ?_⟩
    rw [if_pos larger]
    exact le_argmax _ found ((listed known).mpr ⟨other, member, read⟩)
  · rename_i smaller
    refine ⟨(listed value).mp (argmin_mem _ found), fun other member known read => ?_⟩
    rw [if_neg smaller]
    exact argmin_le _ found ((listed known).mpr ⟨other, member, read⟩)

/-- Without a known value there is no best one. -/
theorem best_eq_none_iff : best criteria criterion items = none ↔
    ∀ item ∈ items, criteria.value criterion item = none := by
  unfold best
  simp only
  split
  · rw [List.argmax_eq_none, List.filterMap_eq_nil_iff]
  · rw [List.argmin_eq_none, List.filterMap_eq_nil_iff]

theorem not_lexBetter_self (order : List K) (item : A) : ¬ LexBetter criteria order item item := by
  rintro ⟨early, criterion, late, _, _, better⟩
  cases read : criteria.value criterion item with
  | none =>
      rw [read] at better
      exact better
  | some value =>
      rw [read, better_some] at better
      split at better <;> exact lt_irrefl value better

end Best

section Close
variable [AddCommGroup R] [LinearOrder R] (criteria : Criteria A K R)

/-- An item is close when its value is known and within the tolerance of the best one. -/
def close (criterion : K) (items : List A) (item : A) : Bool :=
  match best criteria criterion items, criteria.value criterion item with
  | some best, some value => decide (|value - best| ≤ criteria.tolerance criterion best)
  | _, _ => false

/-- A criterion keeps the close items. -/
def keep (criterion : K) (items : List A) : List A := items.filter (close criteria criterion items)

/-- The items that remain after some criteria. -/
def remaining (criteria' : List K) (items : List A) : List A :=
  criteria'.foldl (fun items criterion => keep criteria criterion items) items

/-- The criteria that are evaluated. A single remaining item ends the evaluation. -/
def evaluated : List K → List A → List K
  | [], _ => []
  | criterion :: rest, items => criterion ::
      if (keep criteria criterion items).length = 1 then []
      else evaluated rest (keep criteria criterion items)

/-- No criterion tolerates a distance. -/
def Strict : Prop := ∀ criterion best, criteria.tolerance criterion best = 0

/-- Each criterion tolerates its best value. -/
def Tolerant : Prop := ∀ criterion best, 0 ≤ criteria.tolerance criterion best

variable {criteria} {criterion : K} {order : List K} {items : List A} {item : A}

theorem close_iff : close criteria criterion items item = true ↔
    ∃ best' value, best criteria criterion items = some best' ∧
      criteria.value criterion item = some value ∧
      |value - best'| ≤ criteria.tolerance criterion best' := by
  unfold close
  split
  · rename_i found read
    rw [found, read]
    simp
  · rename_i other
    constructor
    · intro wrong
      cases wrong
    · rintro ⟨best', value, found, read, _⟩
      exact absurd read (other best' value found)

theorem mem_keep : item ∈ keep criteria criterion items ↔
    item ∈ items ∧ close criteria criterion items item = true := List.mem_filter

theorem remaining_cons (criterion : K) (rest : List K) (items : List A) :
    remaining criteria (criterion :: rest) items =
      remaining criteria rest (keep criteria criterion items) := rfl

theorem remaining_sublist (order : List K) (items : List A) :
    (remaining criteria order items).Sublist items := by
  induction order generalizing items with
  | nil => exact List.Sublist.refl _
  | cons criterion rest ih => exact (ih _).trans List.filter_sublist

/-- A remaining item was close at each evaluated criterion. -/
theorem close_of_remaining (member : item ∈ remaining criteria order items) {early late : List K}
    (split : order = early ++ criterion :: late) :
    close criteria criterion (remaining criteria early items) item = true := by
  subst split
  unfold remaining at member
  rw [List.foldl_append, List.foldl_cons] at member
  exact (mem_keep.mp ((remaining_sublist late _).subset member)).2

section Ordered
variable [IsOrderedAddMonoid R]

/-- A criterion with a known value keeps an item. -/
theorem keep_ne_nil (tolerant : Tolerant criteria)
    (known : ¬ ∀ item ∈ items, criteria.value criterion item = none) :
    keep criteria criterion items ≠ [] := by
  cases found : best criteria criterion items with
  | none => exact absurd (best_eq_none_iff.mp found) known
  | some value =>
      obtain ⟨⟨leader, member, read⟩, _⟩ := best_some found
      refine List.ne_nil_of_mem (mem_keep.mpr ⟨member, close_iff.mpr ⟨value, value, found, read, ?_⟩⟩)
      rw [sub_self, abs_zero]
      exact tolerant criterion value

/-- Without tolerance the kept items have the best value, and no item has a better one. -/
theorem keep_strict (strict : Strict criteria) (member : item ∈ keep criteria criterion items) :
    ∃ value, criteria.value criterion item = some value ∧
      (∀ other ∈ items, criteria.value criterion other = some value →
        other ∈ keep criteria criterion items) ∧
      ∀ other ∈ items, ¬ Better criteria criterion (criteria.value criterion other) (some value) := by
  obtain ⟨inside, near⟩ := mem_keep.mp member
  obtain ⟨best', value, found, read, distance⟩ := close_iff.mp near
  rw [strict, abs_nonpos_iff, sub_eq_zero] at distance
  subst distance
  refine ⟨value, read, ?_, ?_⟩
  · intro other listed same
    refine mem_keep.mpr ⟨listed, close_iff.mpr ⟨value, value, found, same, ?_⟩⟩
    rw [sub_self, abs_zero, strict]
  · intro other listed better
    cases known : criteria.value criterion other with
    | none =>
        rw [known] at better
        exact better
    | some number =>
        have bound := (best_some found).2 other listed number known
        rw [known, better_some] at better
        split at better
        · rename_i larger
          rw [if_pos larger] at bound
          exact absurd better (not_lt.mpr bound)
        · rename_i smaller
          rw [if_neg smaller] at bound
          exact absurd better (not_lt.mpr bound)

/-- Without tolerance no item is lexicographically better than a remaining one. -/
theorem remaining_optimal (strict : Strict criteria)
    (member : item ∈ remaining criteria (evaluated criteria order items) items) :
    ∀ other ∈ items, ¬ LexBetter criteria order other item := by
  induction order generalizing items with
  | nil =>
      rintro other listed ⟨early, criterion, late, split, _⟩
      exact absurd split (by simp)
  | cons criterion rest ih =>
      intro other listed better
      unfold evaluated at member
      rw [remaining_cons] at member
      have kept := (remaining_sublist _ _).subset member
      obtain ⟨value, read, equals, best'⟩ := keep_strict strict kept
      obtain ⟨early, chosen, late, split, same, prefers⟩ := better
      cases early with
      | nil =>
          cases split
          rw [read] at prefers
          exact best' other listed prefers
      | cons first tail =>
          cases split
          have here := same _ List.mem_cons_self
          rw [read] at here
          have alsoKept := equals other listed here
          have later : LexBetter criteria (tail ++ chosen :: late) other item :=
            ⟨tail, chosen, late, rfl,
              fun equal inside => same equal (List.mem_cons_of_mem _ inside), prefers⟩
          split at member
          · rename_i single
            obtain ⟨only, alone⟩ := List.length_eq_one_iff.mp single
            rw [alone] at kept alsoKept
            rw [List.mem_singleton.mp kept, List.mem_singleton.mp alsoKept] at later
            exact not_lexBetter_self _ _ later
          · exact ih member other alsoKept later

end Ordered

end Close

end StateFlow.Elimination
