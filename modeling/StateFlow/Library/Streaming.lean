import StateFlow.Library.Paging

namespace StateFlow.Streaming
open Paging

/-- A stream takes pages of a log and sends them item by item. What it sent may be lost before it is
received. -/
structure Stream (A : Type) where
  cursor : Int
  page : List A := []
  sent : List A := []
  received : List A := []

namespace Stream
variable {A : Type} (position : A → Nat)

/-- The items that left the log for a reader -/
def items (stream : Stream A) : List A := stream.received ++ stream.sent ++ stream.page

/-- A stream without a page takes the next one. -/
def poll (selects : A → Bool) (limit : Nat) (log : List A) (stream : Stream A) : Stream A :=
  { stream with page := Paging.page position selects limit stream.cursor log }

/-- The cursor of a stream follows the items that it sends. -/
def send (stream : Stream A) : Stream A :=
  match stream.page with
  | [] => stream
  | item :: rest =>
      { stream with cursor := position item, page := rest, sent := stream.sent ++ [item] }

def receive (stream : Stream A) : Stream A :=
  match stream.sent with
  | [] => stream
  | item :: rest => { stream with sent := rest, received := stream.received ++ [item] }

/-- A reader that lost its stream continues after the last item that it received. -/
def reopen (start : Int) (stream : Stream A) : Stream A where
  cursor := nextAfter position start stream.received
  received := stream.received

/-- A stream follows the record of a log. It holds the selected items in their order, and it passes
only items that were missed. -/
structure Follows (selects : A → Bool) (start : Int) (recorded : List A) (missed : A → Prop)
    (stream : Stream A) : Prop where
  ordered : Ordered position stream.items
  cursor : stream.cursor = nextAfter position start (stream.received ++ stream.sent)
  inside : ∀ item ∈ stream.items, item ∈ recorded ∧ selects item = true ∧ start < position item
  complete : ∀ item ∈ recorded, selects item = true → start < position item →
    position item ≤ nextAfter position start stream.items → item ∈ stream.items ∨ missed item

section Follows
variable {position} {selects : A → Bool} {start : Int} {recorded : List A} {missed : A → Prop}
variable {stream : Stream A}

theorem follows_fresh : Follows position selects start recorded missed ⟨start, [], [], []⟩ where
  ordered := List.Pairwise.nil
  cursor := rfl
  inside := fun _ member => absurd member List.not_mem_nil
  complete := by
    intro item _ _ beyond reached
    change (position item : Int) ≤ start at reached
    omega

/-- The next position of two lists is that of the second one behind the first one. -/
theorem nextAfter_append (front back : List A) (after : Int) :
    nextAfter position after (front ++ back) = nextAfter position (nextAfter position after front) back := by
  rcases List.eq_nil_or_concat' back with none | ⟨rest, last, split⟩
  · simp [none, nextAfter]
  · simp [split, nextAfter, ← List.append_assoc]

theorem follows_poll {limit : Nat} {log : List A}
    (follows : Follows position selects start recorded missed stream) (empty : stream.page = [])
    (ordered : Ordered position log) (known : ∀ item ∈ log, item ∈ recorded)
    (gone : ∀ item ∈ recorded, item ∉ log → (∃ last ∈ log, position item ≤ position last) → missed item) :
    Follows position selects start recorded missed (stream.poll position selects limit log) := by
  obtain ⟨sorted, cursor, inside, complete⟩ := follows
  have before : stream.items = stream.received ++ stream.sent := by
    unfold items
    rw [empty, List.append_nil]
  have after : (stream.poll position selects limit log).items =
      stream.items ++ Paging.page position selects limit stream.cursor log := by
    rw [before]
    rfl
  have behind : stream.cursor = nextAfter position start stream.items := by rw [before, cursor]
  have start_le : start ≤ stream.cursor := by
    rw [behind]
    rcases @nextAfter_cases _ position start stream.items with ⟨_, same⟩ | ⟨item, member, same⟩
    · omega
    · have beyond := (inside item member).2.2
      omega
  refine ⟨?_, cursor, ?_, ?_⟩
  · rw [after]
    refine List.pairwise_append.mpr ⟨sorted, page_ordered ordered, fun first here second later => ?_⟩
    have reached := sorted.le_nextAfter here start
    have beyond := (mem_page later).2.1
    omega
  · intro item member
    rw [after] at member
    rcases List.mem_append.mp member with here | later
    · exact inside item here
    · obtain ⟨listed, beyond, selected⟩ := mem_page later
      exact ⟨known item listed, selected, by omega⟩
  · intro item member selected beyond reached
    rw [after, nextAfter_append, ← behind] at reached
    rw [after]
    by_cases passed : (position item : Int) ≤ stream.cursor
    · rw [behind] at passed
      exact (complete item member selected beyond passed).imp_left (List.mem_append_left _)
    · by_cases listed : item ∈ log
      · exact .inl (List.mem_append_right _
          (mem_page_of_passed ordered listed selected (by omega) reached))
      · rcases @nextAfter_cases _ position stream.cursor
          (Paging.page position selects limit stream.cursor log) with ⟨_, same⟩ | ⟨last, held, same⟩
        · omega
        · exact .inr (gone item member listed ⟨last, (mem_page held).1, by omega⟩)

theorem items_send : (stream.send position).items = stream.items := by
  unfold send
  split
  · rfl
  · rename_i held
    simp [items, held]

theorem items_receive : stream.receive.items = stream.items := by
  unfold receive
  split
  · rfl
  · rename_i held
    simp [items, held]

/-- The cursor of a stream stays at the last item that it sent. -/
theorem cursor_send (cursor : stream.cursor = nextAfter position start (stream.received ++ stream.sent)) :
    (stream.send position).cursor = nextAfter position start
      ((stream.send position).received ++ (stream.send position).sent) := by
  unfold send
  split
  · exact cursor
  · simp [nextAfter, ← List.append_assoc]

theorem cursor_receive
    (cursor : stream.cursor = nextAfter position start (stream.received ++ stream.sent)) :
    stream.receive.cursor = nextAfter position start (stream.receive.received ++ stream.receive.sent) := by
  unfold receive
  split
  · exact cursor
  · rename_i held
    simpa [held] using cursor

theorem follows_send (follows : Follows position selects start recorded missed stream) :
    Follows position selects start recorded missed (stream.send position) := by
  obtain ⟨sorted, cursor, inside, complete⟩ := follows
  rw [← @items_send _ position stream] at sorted inside complete
  exact ⟨sorted, cursor_send cursor, inside, complete⟩

theorem follows_receive (follows : Follows position selects start recorded missed stream) :
    Follows position selects start recorded missed stream.receive := by
  obtain ⟨sorted, cursor, inside, complete⟩ := follows
  rw [← items_receive] at sorted inside complete
  exact ⟨sorted, cursor_receive cursor, inside, complete⟩

/-- A reopened stream offers again what its reader did not receive. -/
theorem follows_reopen (follows : Follows position selects start recorded missed stream) :
    Follows position selects start recorded missed (stream.reopen position start) := by
  obtain ⟨sorted, cursor, inside, complete⟩ := follows
  have split : stream.items = stream.received ++ (stream.sent ++ stream.page) := List.append_assoc _ _ _
  have whole : (stream.reopen position start).items = stream.received := by simp [items, reopen]
  rw [split] at sorted inside complete
  obtain ⟨front, _, apart⟩ := List.pairwise_append.mp sorted
  refine ⟨by rwa [whole], by simp [reopen], ?_, ?_⟩
  · intro item member
    rw [whole] at member
    exact inside item (List.mem_append_left _ member)
  · intro item member selected beyond reached
    rw [whole] at reached ⊢
    have further : nextAfter position start stream.received ≤
        nextAfter position start (stream.received ++ (stream.sent ++ stream.page)) := by
      rcases @nextAfter_cases _ position start stream.received with ⟨_, same⟩ | ⟨last, held, same⟩
      · rw [same]
        rcases @nextAfter_cases _ position start (stream.received ++ (stream.sent ++ stream.page)) with
          ⟨_, again⟩ | ⟨other, listed, again⟩
        · omega
        · have later := (inside other listed).2.2
          omega
      · rw [same]
        exact sorted.le_nextAfter (List.mem_append_left _ held) start
    rcases complete item member selected beyond (by omega) with listed | gone
    · rcases List.mem_append.mp listed with here | later
      · exact .inl here
      · rcases @nextAfter_cases _ position start stream.received with ⟨_, same⟩ | ⟨last, held, same⟩
        · omega
        · have less := apart last held item later
          omega
    · exact .inr gone

end Follows

section Rounds
variable (selects : A → Bool) (limit : Nat) (log : List A)

/-- Without writers a stream sends an item or takes a page, and its reader receives. -/
def round (stream : Stream A) : Stream A :=
  (if stream.page = [] then stream.poll position selects limit log else stream.send position).receive

/-- The selected items that a stream did not take yet -/
def remaining (start : Int) (stream : Stream A) : List A :=
  log.filter fun item => nextAfter position start stream.items < position item && selects item

/-- An item of the log still has to be taken, sent, and received. -/
def weight (start : Int) (stream : Stream A) : Nat :=
  3 * (stream.remaining position selects log start).length + 2 * stream.page.length +
    stream.sent.length

variable {position selects limit log} {start : Int} {recorded : List A} {missed : A → Prop}
variable {stream : Stream A}

/-- A page is a part of what remains. -/
theorem length_page (ordered : Ordered position log) (after : Int) :
    (log.filter fun item => nextAfter position after (Paging.page position selects limit after log) <
        position item && selects item).length +
      (Paging.page position selects limit after log).length ≤
      (log.filter fun item => after < position item && selects item).length := by
  have later := @after_le_nextAfter _ position selects limit after log
  have sorted : Ordered position (Paging.page position selects limit after log) := page_ordered ordered
  generalize joined : nextAfter position after (Paging.page position selects limit after log) = next at *
  have narrowed : (log.filter fun item => next < position item && selects item) =
      (log.filter fun item => after < position item && selects item).filter fun item =>
        next < position item := by
    rw [List.filter_filter]
    refine List.filter_congr fun item _ => ?_
    by_cases beyond : next < position item
    · simp [beyond, show after < position item by omega]
    · simp [beyond]
  have passed : ((Paging.page position selects limit after log).filter fun item =>
      next < position item) = [] := by
    refine List.filter_eq_nil_iff.mpr fun item member => ?_
    have reached := sorted.le_nextAfter member after
    simp only [decide_eq_true_eq]
    omega
  rw [narrowed]
  unfold Paging.page at passed ⊢
  generalize (log.filter fun item => after < position item && selects item) = found at *
  have parts := List.take_append_drop limit found
  have counted := congrArg List.length parts
  rw [List.length_append] at counted
  have kept : (found.filter fun item => next < position item).length ≤ (found.drop limit).length := by
    conv_lhs => rw [← parts, List.filter_append, passed, List.nil_append]
    exact List.length_filter_le _ _
  omega

theorem weight_receive :
    stream.receive.weight position selects log start ≤
      stream.weight position selects log start - if stream.sent = [] then 0 else 1 := by
  have same : stream.receive.remaining position selects log start =
      stream.remaining position selects log start := by
    unfold remaining
    rw [items_receive]
  unfold weight
  rw [same]
  unfold receive
  split
  · simp_all
  · rename_i held
    simp [held]

/-- A round lowers the weight until nothing is left. -/
theorem weight_round (positive : 0 < limit) (ordered : Ordered position log)
    (behind : stream.cursor = nextAfter position start (stream.received ++ stream.sent)) :
    (stream.round position selects limit log).weight position selects log start ≤
      stream.weight position selects log start - 1 := by
  unfold round
  refine weight_receive.trans ?_
  split
  · rename_i empty
    have before : stream.remaining position selects log start =
        log.filter fun item => stream.cursor < position item && selects item := by
      simp [remaining, items, empty, behind]
    have after : (stream.poll position selects limit log).remaining position selects log start =
        log.filter fun item => nextAfter position stream.cursor
          (Paging.page position selects limit stream.cursor log) < position item && selects item := by
      unfold remaining
      rw [show (stream.poll position selects limit log).items = stream.received ++ stream.sent ++
        Paging.page position selects limit stream.cursor log from rfl, nextAfter_append, ← behind]
    have counted := @length_page _ position selects limit log ordered stream.cursor
    have taken : (Paging.page position selects limit stream.cursor log).length =
        min limit (log.filter fun item => stream.cursor < position item && selects item).length :=
      List.length_take
    rw [← before, ← after] at counted
    rw [← before] at taken
    change 3 * _ + 2 * (Paging.page position selects limit stream.cursor log).length +
      stream.sent.length - (if stream.sent = [] then 0 else 1) ≤ _
    unfold weight
    rw [empty, List.length_nil]
    split
    · rename_i none
      rw [none, List.length_nil]
      omega
    · rename_i waiting
      have some := List.length_pos_of_ne_nil waiting
      omega
  · rename_i held
    have same : (stream.send position).remaining position selects log start =
        stream.remaining position selects log start := by
      unfold remaining
      rw [items_send]
    obtain ⟨item, rest, page⟩ := List.exists_cons_of_ne_nil held
    have sent : stream.send position =
        { stream with cursor := position item, page := rest, sent := stream.sent ++ [item] } := by
      unfold send
      simp [page]
    unfold weight
    rw [same, sent, page]
    simp
    omega

/-- After enough rounds a reader has every selected item of the log. -/
theorem rounds_receive (positive : 0 < limit) (ordered : Ordered position log) {rounds : Nat}
    (enough : stream.weight position selects log start ≤ rounds)
    (behind : stream.cursor = nextAfter position start (stream.received ++ stream.sent)) :
    let last := (Stream.round position selects limit log)^[rounds] stream
    last.items = last.received ∧ ∀ item ∈ log, selects item = true →
      position item ≤ nextAfter position start last.items := by
  induction rounds generalizing stream with
  | zero =>
      obtain ⟨left, page, sent⟩ : stream.remaining position selects log start = [] ∧
          stream.page = [] ∧ stream.sent = [] := by
        unfold weight at enough
        refine ⟨List.length_eq_zero_iff.mp ?_, List.length_eq_zero_iff.mp ?_,
          List.length_eq_zero_iff.mp ?_⟩ <;> omega
      refine ⟨by simp [items, page, sent], fun item member selected => ?_⟩
      have passed := List.filter_eq_nil_iff.mp left item member
      simpa [selected] using passed
  | succ rounds ih =>
      have lower := @weight_round _ position selects limit log start stream positive ordered behind
      refine ih (by omega) (cursor_receive ?_)
      split
      · exact behind
      · exact cursor_send behind

end Rounds

end Stream

end StateFlow.Streaming
