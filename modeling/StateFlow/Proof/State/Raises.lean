import StateFlow.Proof.State.Orders

namespace StateFlow.State
open Python Table Effect

/-- A store differs from an earlier one at most in the state of one key. -/
structure OnlyState (key : StateKey) (store next : Store) : Prop where
  lastOrder : next.lastOrder = store.lastOrder
  events : next.events = store.events
  states : ∀ other, other ≠ key → next.states other = store.states other

theorem OnlyState.refl (key : StateKey) (store : Store) : OnlyState key store store :=
  ⟨rfl, rfl, fun _ _ => rfl⟩

theorem onlyState_update (key : StateKey) (store : Store) (state : AgentState) :
    OnlyState key store { store with states := Function.update store.states key (some state) } :=
  ⟨rfl, rfl, fun _ apart => Function.update_of_ne apart _ _⟩

/-- An event without a copy moves the order of its key and stays out of the log. A state without a
copy leaves its event in the log. -/
structure Uncopied (copying : EventCopying) (received : AgentStateEvent) (store next : Store) :
    Prop where
  states : ∀ other, other ≠ received.key → next.states other = store.states other
  stops : ∃ event, received.sequenced (store.order received.key) = .ok event ∧
    next.lastOrder = Function.update store.lastOrder received.key (some event.order) ∧
    ((copying.event event = false ∧ next.events = store.events) ∨
      (copying.event event = true ∧ next.events = store.events ++ [event] ∧
        ∃ state, next.states received.key = some state ∧ copying.state state = false))

/-- An event that raises before its copies counts neither in the log nor in the orders. It leaves
the states of the other keys alone. -/
theorem appendEventWith_stops {copying : EventCopying} {env : Environment} {fresh : Fresh}
    {received : AgentStateEvent} {store next : Store} {error : Exception}
    (raised : appendEventWith copying env fresh received store = .error error next) :
    OnlyState received.key store next ∨ Uncopied copying received store next := by
  unfold appendEventWith at raised
  rw [get_bind] at raised
  rcases bind_raised raised with unnumbered | ⟨event, _, sequenced, raised⟩
  · rw [lift_raised unnumbered]
    exact .inl (.refl _ _)
  obtain ⟨numbered, rfl⟩ := lift_ok sequenced
  dsimp only at raised
  split at raised
  · cases raised
  rcases bind_raised raised with incomparable | ⟨stale, _, compared, raised⟩
  · rw [lift_raised incomparable]
    exact .inl (.refl _ _)
  obtain ⟨_, rfl⟩ := lift_ok compared
  split at raised
  · cases raised
  rcases bind_raised raised with failed | ⟨_, middle, applied, raised⟩
  · obtain ⟨state, rfl⟩ := zoom_raised failed
    exact .inl (onlyState_update _ _ _)
  -- The copies come after the order has moved.
  obtain ⟨state, updated, rfl⟩ := zoom_ok applied
  rcases bind_raised raised with impossible | ⟨_, _, moved, raised⟩
  · cases impossible
  cases moved
  rcases bind_raised raised with failed | ⟨_, _, copied, raised⟩
  · rw [lift_raised failed]
    refine .inr ⟨fun _ apart => Function.update_of_ne apart _ _, event, numbered, rfl, .inl ⟨?_, rfl⟩⟩
    cases copies : copying.event event with
    | false => rfl
    | true =>
        rw [copies] at failed
        cases failed
  obtain ⟨copies, rfl⟩ := lift_ok copied
  have copies : copying.event event = true := by
    by_contra refused
    rw [Bool.eq_false_iff.mpr refused] at copies
    cases copies
  rcases bind_raised raised with impossible | ⟨_, _, logged, raised⟩
  · cases impossible
  cases logged
  rw [get_bind] at raised
  rcases bind_raised raised with failed | ⟨_, _, _, raised⟩
  · rw [lift_raised failed]
    refine .inr ⟨fun _ apart => Function.update_of_ne apart _ _, event, numbered, rfl, .inr ⟨copies, rfl, state,
      Function.update_self _ _ _, ?_⟩⟩
    cases refused : copying.state state with
    | false => rfl
    | true =>
        simp [refused, Python.copied] at failed
        cases failed
  · cases raised

/-- An event of values that can be copied counts neither in the log nor in the orders when it
raises. -/
theorem appendEvent_raised {env : Environment} {fresh : Fresh} {received : AgentStateEvent}
    {store next : Store} {error : Exception}
    (raised : appendEvent env fresh received store = .error error next) :
    OnlyState received.key store next := by
  rcases appendEventWith_stops raised with only | ⟨_, _, _, _, ⟨refused, _⟩ | ⟨_, _, _, _, refused⟩⟩
  · exact only
  · cases refused
  · cases refused

section Demo

/-- A response with five output tokens and some other fields. -/
def responseEvent (fields : List (String × Value)) : AgentStateEvent where
  eventType := "MODEL_RESPONSE"
  sessionId := "session"
  observedAt := 0
  payload := ("output_tokens", .int 5) :: fields

def appendResponse (fields : List (String × Value)) :
    EStateM Exception Store AppendResult :=
  appendEvent demoEnvironment ⟨"state", 0⟩ (responseEvent fields)

/-- The stored context size of the session. -/
def Store.tokens (store : Store) : Option Value :=
  (store.states ("session", "default-task")).map fun state => state.get .context "total_tokens"

theorem halfResponse_raises : ∃ error next,
    appendResponse [("progress", .str "half")] Store.empty = .error error next := by
  have raises : answersWith (fun _ => true)
      (appendResponse [("progress", .str "half")] Store.empty) = false := by decide +kernel
  cases ran : appendResponse [("progress", .str "half")] Store.empty with
  | ok result last =>
      rw [ran] at raises
      cases raises
  | error error next => exact ⟨error, next, rfl⟩

/-- Only an event about a lock has no copy. -/
def withoutLock : EventCopying :=
  { EventCopying.all with event := fun event => (event.payload.lookup "lock").isNone }

/-- A response about a lock raises after its order was counted, and it stays out of the log. -/
theorem lockResponse_moves : ∃ error next,
    appendEventWith withoutLock demoEnvironment ⟨"state", 0⟩
      (responseEvent [("lock", .object "lock" [])]) Store.empty = .error error next ∧
    (next.lastOrder ("session", "default-task")).isSome = true ∧ next.events.isEmpty = true := by
  have raises : answersWith (fun _ => true) (appendEventWith withoutLock demoEnvironment ⟨"state", 0⟩
      (responseEvent [("lock", .object "lock" [])]) Store.empty) = false := by decide +kernel
  have moved : ((finalState (appendEventWith withoutLock demoEnvironment ⟨"state", 0⟩
      (responseEvent [("lock", .object "lock" [])]) Store.empty)).lastOrder
        ("session", "default-task")).isSome = true := by decide +kernel
  have unlogged : (finalState (appendEventWith withoutLock demoEnvironment ⟨"state", 0⟩
      (responseEvent [("lock", .object "lock" [])]) Store.empty)).events.isEmpty = true := by
    decide +kernel
  cases ran : appendEventWith withoutLock demoEnvironment ⟨"state", 0⟩
      (responseEvent [("lock", .object "lock" [])]) Store.empty with
  | ok result last =>
      rw [ran] at raises
      cases raises
  | error error next =>
      rw [ran] at moved unlogged
      exact ⟨error, next, rfl, moved, unlogged⟩

end Demo

end StateFlow.State
