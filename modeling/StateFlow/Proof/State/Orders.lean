import Mathlib.Data.Prod.Lex
import StateFlow.Library.Ascii
import StateFlow.Proof.State.Updates

namespace StateFlow.State
open Python Table Effect Scheduler

/-- The numbers of an order compare lexicographically. -/
def Order.rank? (order : Order) : Option (ℚ ×ₗ ℚ) := do
  return toLex (← order.1.number?, ← order.2.number?)

theorem rank?_eq_some {order : Order} {rank : ℚ ×ₗ ℚ} :
    order.rank? = some rank ↔
      order.1.number? = some (ofLex rank).1 ∧ order.2.number? = some (ofLex rank).2 := by
  unfold Order.rank?
  cases order.1.number? with
  | none => simp
  | some epoch =>
      cases order.2.number? with
      | none => simp
      | some sequence =>
          simp only [Option.pure_def, Option.bind_eq_bind, Option.bind_some, Option.some.injEq]
          constructor
          · intro same
            rw [← same]
            exact ⟨rfl, rfl⟩
          · rintro ⟨first, second⟩
            rw [first, second]
            rfl

/-- Both orders have ranks and the first one is lower. -/
def Order.Below (first second : Order) : Prop :=
  ∃ low high, first.rank? = some low ∧ second.rank? = some high ∧ low < high

theorem Order.Below.trans {first second third : Order} (lower : first.Below second)
    (upper : second.Below third) : first.Below third := by
  obtain ⟨low, middle, firstRank, secondRank, before⟩ := lower
  obtain ⟨other, high, again, thirdRank, after⟩ := upper
  cases secondRank.symm.trans again
  exact ⟨low, high, firstRank, thirdRank, before.trans after⟩

theorem number_eq {first second : Value} {left right : ℚ} (firstNumber : first.number? = some left)
    (secondNumber : second.number? = some right) : first.eq second = (left == right) := by
  rw [Value.eq, firstNumber, secondNumber]

theorem number_lt {first second : Value} {left right : ℚ} (firstNumber : first.number? = some left)
    (secondNumber : second.number? = some right) : first.lt second = .ok (decide (left < right)) := by
  unfold Value.lt
  simp only [firstNumber, secondNumber]

/-- Only a number compares with a number. -/
theorem number_of_lt {number : Int} {value : Value} {answer : Bool}
    (compared : (Value.int number).lt value = .ok answer) :
    ∃ right, value.number? = some right ∧ answer = decide ((number : ℚ) < right) := by
  cases found : value.number? with
  | some right =>
      rw [number_lt (Value.number?_int number) found] at compared
      exact ⟨right, rfl, (Except.ok.inj compared).symm⟩
  | none =>
      cases value <;> simp_all [Value.lt, Value.text?, Value.number?]

/-- The successor of a number is the next number. -/
theorem number_succ {value next : Value} {number : ℚ} (found : value.number? = some number)
    (added : value.add (.int 1) = .ok next) : next.number? = some (number + 1) := by
  cases value with
  | bool flag =>
      cases found
      cases added
      have zero : Rat.floor 0 = 0 := rfl
      have one : Rat.floor 1 = 1 := rfl
      cases flag <;> norm_num [Value.number?, zero, one]
  | int whole =>
      cases found
      rw [Value.add_int] at added
      cases added
      simp
  | float amount =>
      cases found
      cases added
      simp [Value.number?]
  | _ => cases found

/-- Only a number has a successor. -/
theorem number_of_succ {value next : Value} (added : value.add (.int 1) = .ok next) :
    ∃ number, value.number? = some number := by
  cases value with
  | bool flag => exact ⟨_, rfl⟩
  | int whole => exact ⟨_, rfl⟩
  | float amount => exact ⟨_, rfl⟩
  | _ => cases added

section Compare
variable {first second : Order} {low high : ℚ ×ₗ ℚ}

/-- Orders with different ranks are different. -/
theorem order_eq_iff (firstRank : first.rank? = some low) (secondRank : second.rank? = some high) :
    first.eq second = true ↔ low = high := by
  obtain ⟨firstEpoch, firstSequence⟩ := rank?_eq_some.mp firstRank
  obtain ⟨secondEpoch, secondSequence⟩ := rank?_eq_some.mp secondRank
  rw [Order.eq, number_eq firstEpoch secondEpoch, number_eq firstSequence secondSequence]
  simp only [Bool.and_eq_true, beq_iff_eq]
  exact Prod.ext_iff.symm

/-- Orders compare as their ranks. -/
theorem order_before (firstRank : first.rank? = some low) (secondRank : second.rank? = some high) :
    first.before second = .ok (decide (low < high)) := by
  obtain ⟨firstEpoch, firstSequence⟩ := rank?_eq_some.mp firstRank
  obtain ⟨secondEpoch, secondSequence⟩ := rank?_eq_some.mp secondRank
  have lex : low < high ↔ (ofLex low).1 < (ofLex high).1 ∨
      (ofLex low).1 = (ofLex high).1 ∧ (ofLex low).2 < (ofLex high).2 := Prod.Lex.lt_iff
  rw [Order.before, number_eq firstEpoch secondEpoch, number_eq firstSequence secondSequence,
    number_lt firstEpoch secondEpoch, number_lt firstSequence secondSequence]
  by_cases epochs : (ofLex low).1 = (ofLex high).1
  · by_cases sequences : (ofLex low).2 = (ofLex high).2
    · simp [lex, epochs, sequences]
    · simp [lex, epochs, sequences]
  · simp [lex, epochs]

/-- An order that neither equals another one nor precedes it is above it. -/
theorem below_of_passed (firstRank : first.rank? = some low) (secondRank : second.rank? = some high)
    (different : first.eq second = false) (later : first.before second = .ok false) :
    second.Below first := by
  rw [order_before firstRank secondRank, Except.ok.injEq, decide_eq_false_iff_not] at later
  have apart : low ≠ high := fun same => by
    rw [(order_eq_iff firstRank secondRank).mpr same] at different
    cases different
  exact ⟨high, low, secondRank, firstRank, lt_of_le_of_ne (not_lt.mp later) apart.symm⟩

end Compare

section Sequenced
variable {received event : AgentStateEvent} {last : Order} {rank : ℚ ×ₗ ℚ}

/-- A sequenced event keeps its sequence number after the same order. -/
theorem sequenced_again (sequenced : received.sequenced last = .ok event) :
    event.sequenced last = .ok event := by
  obtain ⟨explicit, compared, continued⟩ := except_bind_ok sequenced
  cases explicit with
  | true =>
      cases continued
      exact sequenced
  | false =>
      simp only [Bool.false_eq_true, if_false] at continued
      split at continued
      · rename_i same
        obtain ⟨following, added, final⟩ := except_bind_ok continued
        cases final
        obtain ⟨number, found⟩ := number_of_succ added
        obtain ⟨again, compares⟩ : ∃ answer, (Value.int 0).lt following = .ok answer :=
          ⟨_, number_lt (Value.number?_int 0) (number_succ found added)⟩
        unfold AgentStateEvent.sequenced
        simp only [compares, same, added, if_true]
        cases again with
        | true => rfl
        | false => rfl
      · cases continued
        rfl

/-- The order of a sequenced event has a rank in its epoch. -/
theorem sequenced_rank (lastRank : last.rank? = some rank)
    (sequenced : received.sequenced last = .ok event) :
    ∃ sequence, event.order.rank? = some (toLex ((received.epoch : ℚ), sequence)) ∧
      (0 < sequence ∨ ((received.epoch : ℚ) = (ofLex rank).1 ∧ sequence = (ofLex rank).2 + 1)) := by
  obtain ⟨lastEpoch, lastSequence⟩ := rank?_eq_some.mp lastRank
  have epochs : (Value.int received.epoch).number? = some (received.epoch : ℚ) := rfl
  obtain ⟨explicit, compared, continued⟩ := except_bind_ok sequenced
  obtain ⟨given, number, positive⟩ := number_of_lt compared
  cases explicit with
  | true =>
      cases continued
      exact ⟨given, rank?_eq_some.mpr ⟨epochs, number⟩, Or.inl (by simpa using positive.symm)⟩
  | false =>
      simp only [Bool.false_eq_true, if_false] at continued
      split at continued
      · rename_i same
        obtain ⟨following, added, final⟩ := except_bind_ok continued
        cases final
        refine ⟨(ofLex rank).2 + 1, rank?_eq_some.mpr ⟨epochs, number_succ lastSequence added⟩,
          Or.inr ⟨?_, rfl⟩⟩
        rw [number_eq epochs lastEpoch] at same
        exact beq_iff_eq.mp same
      · cases continued
        exact ⟨1, rank?_eq_some.mpr ⟨epochs, by simp [AgentStateEvent.order]⟩, Or.inl one_pos⟩

end Sequenced

/-- The order of a state that no event has reached. -/
def Order.zero : Order := (.int 0, .int 0)

theorem newAgentState_order (fresh : Fresh) (sessionId taskId : String) (tenantId : Value) :
    (newAgentState fresh sessionId taskId tenantId).order = Order.zero := by
  simp only [newAgentState]
  rw [order_set _ (Or.inl (by decide)), order_set _ (Or.inl (by decide)),
    order_set _ (Or.inl (by decide)), order_set _ (Or.inr (by decide)),
    order_set _ (Or.inr (by decide))]
  rfl

/-- The header of a state carries its last order. The log of the state leads up to it. -/
structure Ordered (store : Store) (key : StateKey) : Prop where
  tracked : ∀ order, store.lastOrder key = some order → store.header key = some order
  ranked : ∀ order, store.lastOrder key = some order → ∃ rank, order.rank? = some rank
  untouched : store.lastOrder key = none →
    store.log key = [] ∧ ∀ order, store.header key = some order → order = Order.zero
  increasing : (store.log key).Pairwise fun first second => first.order.Below second.order
  below : ∀ event ∈ store.log key, ∀ order, store.lastOrder key = some order →
    event.order = order ∨ event.order.Below order

theorem ordered_empty (key : StateKey) : Ordered Store.empty key where
  tracked := fun _ found => by cases found
  ranked := fun _ found => by cases found
  untouched := fun _ => ⟨rfl, fun _ found => by cases found⟩
  increasing := List.Pairwise.nil
  below := fun _ member => absurd member List.not_mem_nil

/-- Only the last order, the header, and the log of a state count. -/
theorem ordered_congr {store next : Store} {key : StateKey} (ordered : Ordered store key)
    (last : next.lastOrder key = store.lastOrder key) (header : next.header key = store.header key)
    (log : next.log key = store.log key) : Ordered next key := by
  obtain ⟨tracked, ranked, untouched, increasing, below⟩ := ordered
  rw [← last] at tracked ranked untouched below
  rw [← header] at tracked untouched
  rw [← log] at untouched increasing below
  exact ⟨tracked, ranked, untouched, increasing, below⟩

/-- A step moves the header of a state to a higher order. -/
def Advances (before after : Store) (key : StateKey) : Prop :=
  ∃ order, after.header key = some order ∧
    ∀ old, before.header key = some old → old.Below order

section Accept
variable {store : Store} {event : AgentStateEvent} {state : AgentState}

theorem accept_header (key : StateKey) : (store.accept event state).header key =
    if key = event.key then some state.order else store.header key := by
  have states : (store.accept event state).states key =
      if key = event.key then some state else store.states key := Function.update_apply _ _ _ _
  rw [Store.header, states]
  split
  · rfl
  · rfl

theorem accept_lastOrder (key : StateKey) : (store.accept event state).lastOrder key =
    if key = event.key then some event.order else store.lastOrder key :=
  Function.update_apply _ _ _ _

theorem accept_log (key : StateKey) : (store.accept event state).log key =
    store.log key ++ if event.key = key then [event] else [] := by
  rw [Store.log, Store.accept, List.filter_append, ← Store.log]
  by_cases own : event.key = key
  · simp [own]
  · simp [own]

end Accept

section Steps
variable {store next : Store} {key : StateKey}

/-- The last order of a state has a rank. -/
theorem Ordered.rank (ordered : Ordered store key) : ∃ rank, (store.order key).rank? = some rank := by
  rw [Store.order]
  cases found : store.lastOrder key with
  | none => exact ⟨toLex (((-1 : Int) : ℚ), ((-1 : Int) : ℚ)), rfl⟩
  | some order => exact ordered.ranked order found

/-- An accepted event exceeds the header of its state. -/
theorem header_below {received event : AgentStateEvent} (ordered : Ordered store received.key)
    (natural : 0 ≤ received.epoch)
    (sequenced : received.sequenced (store.order received.key) = .ok event)
    (passed : (store.order received.key).Below event.order) :
    ∀ old, store.header received.key = some old → old.Below event.order := by
  intro old found
  rw [Store.order] at passed sequenced
  cases last : store.lastOrder received.key with
  | some order =>
      rw [last] at passed
      have same := (ordered.tracked order last).symm.trans found
      cases same
      exact passed
  | none =>
      rw [last] at sequenced
      have first : Order.rank? (.int (-1), .int (-1)) =
          some (toLex (((-1 : Int) : ℚ), ((-1 : Int) : ℚ))) := rfl
      have epochs : (0 : ℚ) ≤ received.epoch := by exact_mod_cast natural
      obtain ⟨sequence, rank, positive⟩ := sequenced_rank first sequenced
      rw [(ordered.untouched last).2 old found]
      refine ⟨toLex (((0 : Int) : ℚ), ((0 : Int) : ℚ)), _, rfl, rank, ?_⟩
      rw [Prod.Lex.toLex_lt_toLex]
      rcases positive with above | ⟨same, _⟩
      · rcases epochs.lt_or_eq with later | zero
        · exact Or.inl (by simpa using later)
        · exact Or.inr ⟨by simpa using zero, by simpa using above⟩
      · rw [same] at epochs
        norm_num at epochs

/-- An accepted event moves its state and leaves the others. -/
theorem accept_ordered {received event : AgentStateEvent} {state : AgentState}
    (ordered : ∀ key, Ordered store key) (natural : 0 ≤ received.epoch)
    (sequenced : received.sequenced (store.order received.key) = .ok event)
    (passed : (store.order received.key).Below event.order)
    (headed : state.order = event.order) :
    Advances store (store.accept event state) received.key ∧
      (∀ key, Ordered (store.accept event state) key) := by
  have own := sequenced_key sequenced
  have above := header_below (ordered received.key) natural sequenced passed
  refine ⟨⟨event.order, ?_, above⟩, fun key => ?_⟩
  · rw [accept_header, if_pos own.symm, headed]
  · by_cases here : key = event.key
    · have last : (store.accept event state).lastOrder key = some event.order := by
        rw [accept_lastOrder, if_pos here]
      have log : (store.accept event state).log key = store.log key ++ [event] := by
        rw [accept_log, if_pos here.symm]
      have low : ∀ earlier ∈ store.log key, earlier.order.Below event.order := by
        intro earlier member
        rw [here, own] at member
        cases found : store.lastOrder received.key with
        | none =>
            rw [((ordered received.key).untouched found).1] at member
            exact absurd member List.not_mem_nil
        | some order =>
            rw [Store.order, found] at passed
            rcases (ordered received.key).below earlier member order found with same | lower
            · rw [same]
              exact passed
            · exact lower.trans passed
      constructor
      · intro order found
        rw [last] at found
        cases found
        rw [accept_header, if_pos here, headed]
      · intro order found
        rw [last] at found
        cases found
        obtain ⟨_, high, _, rank, _⟩ := passed
        exact ⟨high, rank⟩
      · intro none
        rw [last] at none
        cases none
      · rw [log, List.pairwise_append]
        refine ⟨(ordered key).increasing, List.pairwise_singleton _ _, fun earlier member later single => ?_⟩
        rw [List.mem_singleton.mp single]
        exact low earlier member
      · intro earlier member order found
        rw [last] at found
        cases found
        rw [log] at member
        rcases List.mem_append.mp member with old | new
        · exact Or.inr (low earlier old)
        · rw [List.mem_singleton.mp new]
          exact Or.inl rfl
    · have last : (store.accept event state).lastOrder key = store.lastOrder key := by
        rw [accept_lastOrder, if_neg here]
      have header : (store.accept event state).header key = store.header key := by
        rw [accept_header, if_neg here]
      have log : (store.accept event state).log key = store.log key := by
        rw [accept_log, if_neg (Ne.symm here), List.append_nil]
      exact ordered_congr (ordered key) last header log

end Steps

section Record
variable (view : HarnessSchedulingView) (decision : RoutingDecision)

theorem writeHistory_keepsOrder (name : String) (value : Value) :
    Within (Frame.fixes AgentState.order) (writeHistory name value) :=
  writeHistory_within (fun value => write_keepsOrder value (Or.inl (by decide))) name value

theorem stampDecision_keepsOrder :
    Within (Frame.fixes AgentState.order) (stampDecision decision) := by
  refine stampDecision_within (fun name listed value => write_keepsOrder value (Or.inr ?_)) decision
  constructor
  · rintro rfl
    exact absurd listed (by decide)
  · rintro rfl
    exact absurd listed (by decide)

/-- A decision takes the next sequence number. -/
theorem applyRoutingDecision_order {state last : AgentState}
    (ran : applyRoutingDecision view decision state = .ok () last) :
    ∃ following, state.order.2.add (.int 1) = .ok following ∧
      last.order = (state.order.1, following) := by
  have other {name : String} {value : Value} {part : Section} (apart : part ≠ .header) :
      Ensures (fun reached => reached.order = state.order) (write part name value)
        fun _ reached => reached.order = state.order :=
    (write_keepsOrder value (Or.inl apart)).ensures_fixed
  have history (name : String) (value : Value) :
      Ensures (fun reached => reached.order = state.order) (writeHistory name value)
        fun _ reached => reached.order = state.order :=
    (writeHistory_keepsOrder name value).ensures_fixed
  have ends : Ensures (fun reached => reached.order = state.order)
      (applyRoutingDecision view decision) fun _ reached => ∃ following,
        state.order.2.add (.int 1) = .ok following ∧
          reached.order = (state.order.1, following) := by
    unfold applyRoutingDecision
    refine ensures_seq (other (by decide)) ?_
    refine ensures_seq (other (by decide)) ?_
    refine ensures_seq (other (by decide)) ?_
    refine ensures_seq (other (by decide)) ?_
    refine ensures_seq (other (by decide)) ?_
    refine ensures_seq (history _ _) ?_
    refine ensures_seq (history _ _) ?_
    refine ensures_seq (history _ _) ?_
    refine ensures_seq (followTier_within
      (fun value => write_keepsOrder value (Or.inl (by decide))) decision).ensures_fixed ?_
    refine ensures_seq (history _ _) ?_
    refine ensures_bind (within_read _ _).ensures_fixed fun _ => ?_
    refine ensures_bind (within_lift _).ensures_fixed fun _ => ?_
    refine ensures_seq (other (by decide)) ?_
    -- The last step reads the sequence number that no step before it changed.
    intro reached value final same returned
    obtain ⟨sequence, _, readIt, continued⟩ := bind_ok returned
    cases readIt
    obtain ⟨following, _, added, wrote⟩ := bind_ok continued
    obtain ⟨added, rfl⟩ := lift_ok added
    cases wrote
    refine ⟨following, by rw [← same]; exact added, ?_⟩
    rw [← same]
    simp [AgentState.order, AgentState.get_set]
  exact ends state () last rfl ran

/-- A decision that returned moved the state of its view. -/
theorem recordRoutingDecision_cases {fresh : Fresh} {store next : Store}
    (ran : recordRoutingDecision fresh view decision store = .ok () next) :
    (viewKey view = none ∧ next = store) ∨ ∃ key state following, viewKey view = some key ∧
      (((store.header key).getD Order.zero).2.add (.int 1) = .ok following ∧
        state.order = (((store.header key).getD Order.zero).1, following)) ∧
      next = store.decide key state.order state := by
  rcases recordRoutingDecision_ran ran with
    ⟨unnamed, same⟩ | ⟨key, middle, state, named, decided, stamped, rfl⟩
  · exact Or.inl ⟨unnamed, same⟩
  · have order : state.order = middle.order := (stampDecision_keepsOrder decision).fixed stamped
    have start : ((store.states key).getD (newAgentState fresh key.1 key.2 view.tenantId)).order =
        (store.header key).getD Order.zero := by
      rw [Store.header]
      cases store.states key with
      | none => exact newAgentState_order fresh key.1 key.2 view.tenantId
      | some state => rfl
    obtain ⟨following, added, moved⟩ := applyRoutingDecision_order view decision decided
    rw [start] at added moved
    exact Or.inr ⟨key, state, following, named, ⟨added, order.trans moved⟩, by rw [order]⟩

end Record

section Decide
variable {store : Store} {key : StateKey} {state : AgentState}

theorem decide_header (other : StateKey) : (store.decide key state.order state).header other =
    if other = key then some state.order else store.header other := by
  have states : (store.decide key state.order state).states other =
      if other = key then some state else store.states other := Function.update_apply _ _ _ _
  rw [Store.header, states]
  split
  · rfl
  · rfl

theorem decide_lastOrder (other : StateKey) :
    (store.decide key state.order state).lastOrder other =
      if other = key then some state.order else store.lastOrder other :=
  Function.update_apply _ _ _ _

/-- The header of an ordered state has a rank. -/
theorem header_rank (ordered : Ordered store key) :
    ∃ rank, ((store.header key).getD Order.zero).rank? = some rank := by
  cases last : store.lastOrder key with
  | some order =>
      rw [ordered.tracked order last]
      exact ordered.ranked order last
  | none =>
      have zero : (store.header key).getD Order.zero = Order.zero := by
        cases found : store.header key with
        | none => rfl
        | some order => exact (ordered.untouched last).2 order found
      rw [zero]
      exact ⟨toLex (((0 : Int) : ℚ), ((0 : Int) : ℚ)), rfl⟩

/-- The next sequence number is above the order that it continues. -/
theorem following_below {order : Order} {rank : ℚ ×ₗ ℚ} {following : Value}
    (ranked : order.rank? = some rank) (added : order.2.add (.int 1) = .ok following) :
    order.Below (order.1, following) := by
  obtain ⟨epoch, sequence⟩ := rank?_eq_some.mp ranked
  refine ⟨rank, toLex ((ofLex rank).1, (ofLex rank).2 + 1), ranked,
    rank?_eq_some.mpr ⟨epoch, number_succ sequence added⟩, ?_⟩
  exact Prod.Lex.lt_iff.mpr (Or.inr ⟨rfl, lt_add_one _⟩)

/-- A recorded decision moves its state and leaves the others. -/
theorem decide_ordered {following : Value} (ordered : ∀ key, Ordered store key)
    (added : ((store.header key).getD Order.zero).2.add (.int 1) = .ok following)
    (moved : state.order = (((store.header key).getD Order.zero).1, following)) :
    Advances store (store.decide key state.order state) key ∧
      (∀ other, Ordered (store.decide key state.order state) other) := by
  obtain ⟨rank, ranked⟩ := header_rank (ordered key)
  have passed : ((store.header key).getD Order.zero).Below state.order := by
    rw [moved]
    exact following_below ranked added
  have above : ∀ old, store.header key = some old → old.Below state.order := by
    intro old found
    rw [found] at passed
    exact passed
  refine ⟨⟨state.order, by rw [decide_header, if_pos rfl], above⟩, fun other => ?_⟩
  by_cases here : other = key
  · subst here
    have last : (store.decide other state.order state).lastOrder other = some state.order := by
      rw [decide_lastOrder, if_pos rfl]
    constructor
    · intro order found
      rw [last] at found
      cases found
      rw [decide_header, if_pos rfl]
    · intro order found
      rw [last] at found
      cases found
      obtain ⟨_, high, _, rank, _⟩ := passed
      exact ⟨high, rank⟩
    · intro none
      rw [last] at none
      cases none
    · exact (ordered other).increasing
    · intro event member order found
      rw [last] at found
      cases found
      cases before : store.lastOrder other with
      | none =>
          have empty : store.log other = [] := ((ordered other).untouched before).1
          have inside : event ∈ store.log other := member
          rw [empty] at inside
          exact absurd inside List.not_mem_nil
      | some old =>
          have lower := above old ((ordered other).tracked old before)
          rcases (ordered other).below event member old before with same | under
          · rw [same]
            exact Or.inr lower
          · exact Or.inr (under.trans lower)
  · have last : (store.decide key state.order state).lastOrder other = store.lastOrder other := by
      rw [decide_lastOrder, if_neg here]
    have header : (store.decide key state.order state).header other = store.header other := by
      rw [decide_header, if_neg here]
    exact ordered_congr (ordered other) last header rfl

end Decide

section Create
variable {fresh : Fresh} {store next : Store} {key : StateKey} {tenantId harnessType : String}
  {state : AgentState}

/-- A known state stays. An unknown key gets a state that no event has reached. -/
theorem getOrCreate_cases (ran : getOrCreate fresh key tenantId harnessType store = .ok state next) :
    next = store ∨ store.states key = none ∧ state.order = Order.zero ∧
      next = { store with states := Function.update store.states key (some state) } := by
  rcases getOrCreate_ran ran with same | ⟨unknown, rfl, stored⟩
  · exact Or.inl same
  · refine Or.inr ⟨unknown, ?_, stored⟩
    rw [order_set _ (Or.inl (by decide)), newAgentState_order]

/-- A created state changes no header and keeps every state ordered. -/
theorem getOrCreate_ordered (ordered : ∀ key, Ordered store key)
    (ran : getOrCreate fresh key tenantId harnessType store = .ok state next) :
    (next.events = store.events ∧
      ∀ other order, store.header other = some order → next.header other = some order) ∧
      ∀ other, Ordered next other := by
  rcases getOrCreate_cases ran with rfl | ⟨unknown, zero, rfl⟩
  · exact ⟨⟨rfl, fun _ _ found => found⟩, ordered⟩
  · have unheaded : store.header key = none := by rw [Store.header, unknown]; rfl
    have fresh : store.lastOrder key = none := by
      cases last : store.lastOrder key with
      | none => rfl
      | some order =>
          rw [(ordered key).tracked order last] at unheaded
          cases unheaded
    have headed (other : StateKey) :
        Store.header { store with states := Function.update store.states key (some state) } other =
          if other = key then some Order.zero else store.header other := by
      simp only [Store.header, Function.update_apply]
      split
      · rw [← zero]
        rfl
      · rfl
    refine ⟨⟨rfl, fun other order found => ?_⟩, fun other => ?_⟩
    · rw [headed, if_neg, found]
      rintro rfl
      rw [unheaded] at found
      cases found
    · by_cases here : other = key
      · subst here
        obtain ⟨empty, _⟩ := (ordered other).untouched fresh
        constructor
        · intro order found
          exact absurd (fresh.symm.trans found) (by simp)
        · intro order found
          exact absurd (fresh.symm.trans found) (by simp)
        · intro _
          refine ⟨empty, fun order found => ?_⟩
          rw [headed, if_pos rfl] at found
          exact (Option.some.inj found).symm
        · exact (ordered other).increasing
        · exact (ordered other).below
      · refine ordered_congr (ordered other) rfl ?_ rfl
        rw [headed, if_neg here]

end Create

/-- An appended event has a natural epoch. -/
def StoreCall.Natural : StoreCall → Prop
  | .append _ event => 0 ≤ event.epoch
  | .getOrCreate .. => True
  | .record .. => True

/-- An accepted event and a decision move one state. Every other header stays. -/
def StoreCall.Moves (store next : Store) (answer : Option AppendResult) : StoreCall → Prop
  | .append _ received => ∃ result, answer = some result ∧
      ((result.accepted = false ∧ next = store) ∨ result.accepted = true ∧
        Advances store next received.key ∧
        (∀ other, other ≠ received.key → next.header other = store.header other) ∧
        ∃ event, event.key = received.key ∧ next.header received.key = some event.order ∧
          next.events = store.events ++ [event])
  | .getOrCreate .. => next.events = store.events ∧
      ∀ key order, store.header key = some order → next.header key = some order
  | .record _ view _ => (viewKey view = none ∧ next = store) ∨ ∃ key, viewKey view = some key ∧
      Advances store next key ∧ next.events = store.events ∧
        ∀ other, other ≠ key → next.header other = store.header other

section Calls
variable {env : Environment} {store next : Store} {answer : Option AppendResult} {call : StoreCall}

/-- A call that returns moves at most one state and keeps every state ordered. -/
theorem step_ordered (ordered : ∀ key, Ordered store key) (natural : call.Natural)
    (ran : call.run env store = .ok answer next) :
    call.Moves store next answer ∧ ∀ key, Ordered next key := by
  cases call with
  | append fresh received =>
      obtain ⟨result, _, appended, returned⟩ := bind_ok ran
      cases returned
      obtain ⟨event, sequenced, ⟨rejected, same⟩ | ⟨accepted, different, later, state, handled, last⟩⟩ :=
        appendEvent_cases appended
      · rw [same]
        exact ⟨⟨result, rfl, Or.inl ⟨rejected, rfl⟩⟩, ordered⟩
      · subst last
        have own := sequenced_key sequenced
        obtain ⟨rank, ranked⟩ := (ordered received.key).rank
        obtain ⟨sequence, high, _⟩ := sequenced_rank ranked sequenced
        have passed := below_of_passed high ranked different later
        obtain ⟨advances, kept⟩ := accept_ordered ordered natural sequenced passed
          (handle_order env event handled)
        refine ⟨⟨result, rfl, Or.inr ⟨accepted, advances, fun other apart => ?_, event, own, ?_, rfl⟩⟩,
          kept⟩
        · rw [accept_header, if_neg (own ▸ apart)]
        · rw [accept_header, if_pos own.symm, handle_order env event handled]
  | getOrCreate fresh key tenantId harnessType =>
      obtain ⟨state, _, created, returned⟩ := bind_ok ran
      cases returned
      exact getOrCreate_ordered ordered created
  | record fresh view decision =>
      obtain ⟨_, _, recorded, returned⟩ := bind_ok ran
      cases returned
      rcases recordRoutingDecision_cases view decision recorded with
        ⟨unnamed, rfl⟩ | ⟨key, state, following, named, ⟨added, moved⟩, rfl⟩
      · exact ⟨Or.inl ⟨unnamed, rfl⟩, ordered⟩
      · obtain ⟨advances, kept⟩ := decide_ordered ordered added moved
        refine ⟨Or.inr ⟨key, named, advances, rfl, fun other apart => ?_⟩, kept⟩
        rw [decide_header, if_neg apart]

/-- Every state of a run that returned is ordered. -/
theorem run_ordered {calls : List StoreCall} {answers : List (Option AppendResult)}
    (natural : ∀ call ∈ calls, call.Natural)
    (ran : calls.mapM (StoreCall.run env) Store.empty = .ok answers store) (key : StateKey) :
    Ordered store key :=
  ensures_mapM (fun call member _ _ _ ordered returned =>
    (step_ordered ordered (natural call member) returned).2) _ _ _ ordered_empty ran key

end Calls

/-- The header of a state strictly increases at each accepted event and each decision. It equals
the last order, and the log of the state increases strictly. -/
theorem orders_increase {env : Environment} {calls : List StoreCall}
    {answers : List (Option AppendResult)} {store : Store}
    (natural : ∀ call ∈ calls, call.Natural)
    (ran : calls.mapM (StoreCall.run env) Store.empty = .ok answers store) :
    (∀ key order, store.lastOrder key = some order → store.header key = some order) ∧
      (∀ key, (store.log key).Pairwise fun first second => first.order.Below second.order) ∧
      ∀ call answer next, StoreCall.Natural call → call.run env store = .ok answer next →
        call.Moves store next answer := by
  have ordered := run_ordered natural ran
  refine ⟨fun key => (ordered key).tracked, fun key => (ordered key).increasing, ?_⟩
  intro call answer next further returned
  exact (step_ordered ordered further returned).1

section Demo

def demoEnvironment : Environment :=
  { asciiText with identityKeys := identityAttributes, identityKeysPerm := .refl _ }

def demoEvent (sequence : Int) : AgentStateEvent where
  eventType := "MODEL_STARTED"
  sessionId := "session"
  observedAt := 0
  sequence := .int sequence

/-- The second event is a duplicate of the first one. The store numbers the third event. -/
def demoCalls : List StoreCall :=
  [.append ⟨"first", 0⟩ (demoEvent 3), .append ⟨"second", 0⟩ (demoEvent 3),
    .getOrCreate ⟨"third", 0⟩ ("session", "default-task") "default" "",
    .append ⟨"fourth", 0⟩ (demoEvent 0)]

theorem demo_orders_increase : ∃ answers store,
    demoCalls.mapM (StoreCall.run demoEnvironment) Store.empty = .ok answers store ∧
      (∃ order, store.header ("session", "default-task") = some order ∧
        order.eq (.int 0, .int 4) = true) ∧
        (store.log ("session", "default-task")).Pairwise
          fun first second => first.order.Below second.order := by
  have natural : ∀ call ∈ demoCalls, call.Natural := by
    simp [demoCalls, StoreCall.Natural, demoEvent]
  have numbered : ((finalState (demoCalls.mapM (StoreCall.run demoEnvironment)
      Store.empty)).lastOrder ("session", "default-task")).any
        (fun order => order.eq (.int 0, .int 4)) = true := by decide +kernel
  have answers : answersWith (fun _ => true) (demoCalls.mapM (StoreCall.run demoEnvironment)
      Store.empty) = true := by decide +kernel
  obtain ⟨results, store, ran, _⟩ := returned_of_answers answers
  rw [ran] at numbered
  obtain ⟨order, last, same⟩ := (Option.any_eq_true _ _).mp numbered
  have increase := orders_increase natural ran
  exact ⟨results, store, ran, ⟨order, increase.1 _ order last, same⟩, increase.2.1 _⟩

end Demo

end StateFlow.State
