import Mathlib.Data.List.Flatten
import Mathlib.Data.List.Lattice
import Mathlib.Data.List.Nodup
import Mathlib.Data.List.Pairwise
import Mathlib.Logic.Function.Basic

namespace StateFlow.Fanout
variable {W S C : Type}

/-- A writer owes the rest of its deliveries. The board logs what was published and received. -/
structure Board (W S C : Type) where
  subscribers : List S
  pending : W → List (S × C)
  published : List (W × List C)
  received : List (W × S × C)

/-- Nothing was published on a fresh board. -/
def Board.fresh (subscribers : List S) : Board W S C where
  subscribers := subscribers
  pending _ := []
  published := []
  received := []

/-- Every item goes to every subscriber before the next item does. -/
def deliveries (subscribers : List S) (items : List C) : List (S × C) :=
  items.flatMap fun item => subscribers.map fun subscriber => (subscriber, item)

def Board.subscribe (board : Board W S C) (subscriber : S) : Board W S C :=
  { board with subscribers := board.subscribers ++ [subscriber] }

section Writers
variable [DecidableEq W]

/-- A writer owes its items to the subscribers of this moment. -/
def Board.publish (board : Board W S C) (writer : W) (items : List C) : Board W S C :=
  { board with
    pending := Function.update board.pending writer (deliveries board.subscribers items)
    published := board.published ++ [(writer, items)] }

/-- A writer hands over the next item that it owes. -/
def Board.deliver (board : Board W S C) (writer : W) : Board W S C :=
  match board.pending writer with
  | [] => board
  | (subscriber, item) :: rest =>
      { board with
        pending := Function.update board.pending writer rest
        received := board.received ++ [(writer, subscriber, item)] }

/-- The items that a writer published. -/
def Board.sentBy (board : Board W S C) (writer : W) : List C :=
  (board.published.filter fun entry => entry.1 = writer).flatMap Prod.snd

/-- All published items in their order. -/
def Board.sent (board : Board W S C) : List C := board.published.flatMap Prod.snd

theorem sentBy_subset {board : Board W S C} {writer : W} {item : C}
    (sent : item ∈ board.sentBy writer) : item ∈ board.sent := by
  obtain ⟨entry, listed, inside⟩ := List.mem_flatMap.mp sent
  exact List.mem_flatMap.mpr ⟨entry, List.mem_of_mem_filter listed, inside⟩

/-- An item of distinct items has one sender. -/
theorem sender_unique {board : Board W S C} (distinct : board.sent.Nodup) {first second : W}
    {item : C} (before : item ∈ board.sentBy first) (after : item ∈ board.sentBy second) :
    first = second := by
  obtain ⟨entry, listed, inside⟩ := List.mem_flatMap.mp before
  obtain ⟨other, also, within⟩ := List.mem_flatMap.mp after
  obtain ⟨listed, own⟩ := List.mem_filter.mp listed
  obtain ⟨also, owned⟩ := List.mem_filter.mp also
  rw [← of_decide_eq_true own, ← of_decide_eq_true owned]
  by_contra different
  have symmetric : Std.Symm (Function.onFun List.Disjoint (Prod.snd : W × List C → List C)) :=
    ⟨fun _ _ disjoint => List.Disjoint.symm disjoint⟩
  have apart := (List.nodup_flatMap.mp distinct).2.forall listed also fun same =>
    different (congrArg Prod.fst same)
  exact apart inside within

section Subscribers
variable [DecidableEq S]

/-- The items of the deliveries to one subscriber. -/
def addressed (subscriber : S) (owed : List (S × C)) : List C :=
  owed.filterMap fun delivery => if delivery.1 = subscriber then some delivery.2 else none

/-- The items that a subscriber received. -/
def Board.inbox (board : Board W S C) (subscriber : S) : List C :=
  addressed subscriber (board.received.map Prod.snd)

/-- The items that a subscriber received from one writer. -/
def Board.inboxFrom (board : Board W S C) (writer : W) (subscriber : S) : List C :=
  addressed subscriber ((board.received.filter fun entry => entry.1 = writer).map Prod.snd)

theorem addressed_append (subscriber : S) (first second : List (S × C)) :
    addressed subscriber (first ++ second) =
      addressed subscriber first ++ addressed subscriber second :=
  List.filterMap_append

/-- A subscriber is owed each item once for each of its registrations. -/
theorem addressed_deliveries (subscriber : S) (subscribers : List S) (items : List C) :
    addressed subscriber (deliveries subscribers items) =
      items.flatMap (List.replicate (subscribers.count subscriber)) := by
  have one (item : C) : addressed subscriber (subscribers.map fun other => (other, item)) =
      List.replicate (subscribers.count subscriber) item := by
    induction subscribers with
    | nil => rfl
    | cons other rest ih =>
        rw [List.map_cons, ← List.singleton_append, addressed_append, ih]
        by_cases same : other = subscriber
        · rw [same, List.count_cons_self, List.replicate_succ]
          simp [addressed]
        · rw [List.count_cons_of_ne same]
          simp [addressed, same]
  induction items with
  | nil => rfl
  | cons item rest ih =>
      rw [deliveries, List.flatMap_cons, addressed_append, one, List.flatMap_cons]
      exact congrArg _ ih

/-- Copies of items keep a reflexive order. -/
theorem pairwise_copies {related : C → C → Prop} (reflexive : ∀ item, related item item)
    {items : List C} (ordered : items.Pairwise related) (copies : Nat) :
    (items.flatMap (List.replicate copies)).Pairwise related := by
  rw [List.pairwise_flatMap]
  constructor
  · intro item _
    exact List.pairwise_replicate.mpr (Or.inr (reflexive item))
  · apply ordered.imp
    intro first second before x inFirst y inSecond
    rw [List.eq_of_mem_replicate inFirst, List.eq_of_mem_replicate inSecond]
    exact before

theorem count_copies [DecidableEq C] (items : List C) (copies : Nat) (item : C) :
    (items.flatMap (List.replicate copies)).count item = copies * items.count item := by
  induction items with
  | nil => rfl
  | cons head rest ih =>
      rw [List.flatMap_cons, List.count_append, ih, List.count_replicate, List.count_cons,
        Nat.mul_add]
      by_cases same : head = item
      · simp [same, Nat.add_comm]
      · simp [same]

/-- A subscriber has received from each writer what the writer does not owe it any more. -/
structure Board.Tracks (board : Board W S C) (subscriber : S) (copies : Nat) : Prop where
  registered : board.subscribers.count subscriber = copies
  owed : ∀ writer, board.inboxFrom writer subscriber ++
    addressed subscriber (board.pending writer) =
      (board.sentBy writer).flatMap (List.replicate copies)

theorem tracks_fresh (subscribers : List S) (subscriber : S) :
    (Board.fresh subscribers : Board W S C).Tracks subscriber (subscribers.count subscriber) :=
  ⟨rfl, fun _ => rfl⟩

section Steps
variable {board : Board W S C} {subscriber : S} {copies : Nat}

theorem tracks_subscribe (tracks : board.Tracks subscriber copies) {other : S}
    (different : other ≠ subscriber) : (board.subscribe other).Tracks subscriber copies := by
  constructor
  · rw [Board.subscribe, List.count_append, List.count_singleton, tracks.registered]
    simp [different]
  · exact tracks.owed

/-- A writer that owes nothing publishes its next items. -/
theorem tracks_publish (tracks : board.Tracks subscriber copies) {writer : W}
    (idle : board.pending writer = []) (items : List C) :
    (board.publish writer items).Tracks subscriber copies := by
  constructor
  · exact tracks.registered
  · intro other
    have before := tracks.owed other
    by_cases same : other = writer
    · subst same
      have sent : (board.publish other items).sentBy other = board.sentBy other ++ items := by
        simp [Board.sentBy, Board.publish]
      rw [idle] at before
      rw [sent, List.flatMap_append, ← before]
      simp only [Board.publish, Function.update_self, addressed_deliveries, tracks.registered]
      rw [show addressed subscriber ([] : List (S × C)) = [] from rfl, List.append_nil]
      rfl
    · have sent : (board.publish writer items).sentBy other = board.sentBy other := by
        simp [Board.sentBy, Board.publish, Ne.symm same]
      rw [sent, ← before]
      simp only [Board.publish, Function.update_of_ne same]
      rfl

/-- A delivery moves one item from what its writer owes to what was received. -/
theorem tracks_deliver (tracks : board.Tracks subscriber copies) (writer : W) :
    (board.deliver writer).Tracks subscriber copies := by
  unfold Board.deliver
  split
  · exact tracks
  · rename_i receiver item rest owed
    constructor
    · exact tracks.registered
    · intro other
      have before := tracks.owed other
      by_cases same : other = writer
      · subst same
        rw [owed, ← List.singleton_append, addressed_append, ← List.append_assoc] at before
        refine Eq.trans ?_ before
        simp only [Board.inboxFrom, Function.update_self, List.filter_append, List.map_append,
          addressed_append]
        simp
      · refine Eq.trans ?_ before
        simp only [Board.inboxFrom, Function.update_of_ne same, List.filter_append,
          List.map_append, addressed_append]
        simp [Ne.symm same, addressed]

/-- The items of one writer arrive in the order in which they were published. -/
theorem Board.Tracks.ordered (tracks : board.Tracks subscriber copies)
    {related : C → C → Prop} (reflexive : ∀ item, related item item) {writer : W}
    (sorted : (board.sentBy writer).Pairwise related) :
    (board.inboxFrom writer subscriber).Pairwise related := by
  have all := pairwise_copies reflexive sorted copies
  rw [← tracks.owed writer] at all
  exact (List.pairwise_append.mp all).1

/-- A subscriber that is registered once receives no copies. -/
theorem Board.Tracks.ordered_once (tracks : board.Tracks subscriber 1)
    {related : C → C → Prop} {writer : W} (sorted : (board.sentBy writer).Pairwise related) :
    (board.inboxFrom writer subscriber).Pairwise related := by
  have owed := tracks.owed writer
  rw [show List.replicate 1 = fun item : C => [item] from rfl, List.flatMap_singleton'] at owed
  rw [← owed] at sorted
  exact (List.pairwise_append.mp sorted).1

theorem Board.mem_inboxFrom {writer : W} {item : C} :
    item ∈ board.inboxFrom writer subscriber ↔ (writer, subscriber, item) ∈ board.received := by
  simp only [Board.inboxFrom, addressed, List.mem_filterMap, List.mem_map, List.mem_filter,
    decide_eq_true_eq]
  constructor
  · rintro ⟨delivery, ⟨⟨_, _, _⟩, ⟨listed, rfl⟩, rfl⟩, chosen⟩
    split at chosen
    · rename_i same
      cases chosen
      exact same ▸ listed
    · cases chosen
  · intro listed
    exact ⟨(subscriber, item), ⟨_, ⟨listed, rfl⟩, rfl⟩, if_pos rfl⟩

/-- A received item was sent by its writer. -/
theorem Board.Tracks.sent (tracks : board.Tracks subscriber copies) {writer : W} {item : C}
    (received : item ∈ board.inboxFrom writer subscriber) : item ∈ board.sentBy writer := by
  have listed := List.mem_append_left (addressed subscriber (board.pending writer)) received
  rw [tracks.owed] at listed
  obtain ⟨other, sent, same⟩ := List.mem_flatMap.mp listed
  rwa [List.eq_of_mem_replicate same]

/-- A writer that owes nothing has delivered each of its items once for each registration. -/
theorem Board.Tracks.count_inbox [DecidableEq C] (tracks : board.Tracks subscriber copies)
    (distinct : board.sent.Nodup) {writer : W} (idle : board.pending writer = []) {item : C}
    (sent : item ∈ board.sentBy writer) : (board.inbox subscriber).count item = copies := by
  have own : (board.inboxFrom writer subscriber).count item = copies := by
    have owed := tracks.owed writer
    have once : (board.sentBy writer).Nodup := by
      apply List.Nodup.sublist _ distinct
      exact List.filter_sublist.flatMap Prod.snd
    rw [idle, show addressed subscriber ([] : List (S × C)) = [] from rfl, List.append_nil] at owed
    rw [owed, count_copies, List.count_eq_one_of_mem once sent, Nat.mul_one]
  rw [← own]
  simp only [Board.inbox, Board.inboxFrom, addressed, List.count_filterMap, List.countP_map,
    List.countP_filter]
  apply List.countP_congr
  rintro ⟨sender, receiver, other⟩ listed
  simp only [Function.comp_apply, Bool.and_eq_true, decide_eq_true_eq]
  refine ⟨fun chosen => ⟨chosen, ?_⟩, And.left⟩
  split at chosen
  · rename_i same
    cases eq_of_beq chosen
    have from_sender : item ∈ board.inboxFrom sender subscriber :=
      Board.mem_inboxFrom.mpr (same ▸ listed)
    exact sender_unique distinct (tracks.sent from_sender) sent
  · cases chosen

/-- A subscriber receives only published items. -/
theorem Board.Tracks.inbox_subset (tracks : board.Tracks subscriber copies) {item : C}
    (received : item ∈ board.inbox subscriber) : item ∈ board.sent := by
  obtain ⟨delivery, listed, chosen⟩ := List.mem_filterMap.mp received
  obtain ⟨⟨sender, receiver, other⟩, present, rfl⟩ := List.mem_map.mp listed
  split at chosen
  · rename_i same
    cases chosen
    have from_sender : other ∈ board.inboxFrom sender subscriber :=
      Board.mem_inboxFrom.mpr (same ▸ present)
    exact sentBy_subset (tracks.sent from_sender)
  · cases chosen

end Steps

end Subscribers

end Writers

end StateFlow.Fanout
