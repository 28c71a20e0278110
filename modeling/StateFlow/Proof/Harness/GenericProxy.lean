import StateFlow.Library.Ascii
import StateFlow.Construction.Harness.GenericProxy

namespace StateFlow.Harness
open Python Table Effect State

section Metadata
variable {adapter : GenericProxyHarnessAdapter} {text : Text} {first second : Native}

theorem identifySession_agree (agree : AgreeOff bodyFields first second) :
    identifySession adapter text first = identifySession adapter text second := by
  have read (name : String) (default : Value) (shown : name ∉ bodyFields) :
      getD first name default = getD second name default := agree.getD shown default
  unfold identifySession
  rw [read "session_id" _ (by decide), read "task_id" _ (by decide), read "tenant_id" _ (by decide),
    read "harness_type" _ (by decide), read "harness_version" _ (by decide),
    read "agent_type" _ (by decide), read "agent_version" _ (by decide)]

theorem nativeText_agree (agree : AgreeOff bodyFields first second) {name : String}
    (shown : name ∉ bodyFields) : nativeText text first name = nativeText text second name := by
  rw [nativeText, nativeText, agree.getD shown]

theorem nativeInt_agree (agree : AgreeOff bodyFields first second) {name : String}
    (shown : name ∉ bodyFields) : nativeInt text first name = nativeInt text second name := by
  rw [nativeInt, nativeInt, agree.getD shown]

/-- An event takes its payload and its instant from the call. -/
theorem event_made {now : Int} {eventType : String} {native payload : Native}
    {made : AgentStateEvent} (emitted : event adapter text now eventType native payload = .ok made) :
    made.payload = eventPayload native payload ∧ made.observedAt = now := by
  unfold event at emitted
  iterate 5 obtain ⟨_, _, emitted⟩ := except_bind_ok emitted
  cases emitted
  exact ⟨rfl, rfl⟩

/-- The metadata determines an event up to its payload and its instant. -/
theorem event_agree (agree : AgreeOff bodyFields first second) {now later : Int}
    {eventType : String} {left right : Native} {made : AgentStateEvent}
    (emitted : event adapter text now eventType first left = .ok made) :
    event adapter text later eventType second right =
      .ok { made with observedAt := later, payload := eventPayload second right } := by
  unfold event at emitted ⊢
  rw [identifySession_agree agree, nativeInt_agree agree (by decide),
    nativeInt_agree agree (by decide), nativeInt_agree agree (by decide),
    agree.getD (by decide), agree.getD (by decide), agree.getD (by decide),
    nativeText_agree agree (by decide), nativeText_agree agree (by decide),
    nativeText_agree agree (by decide), nativeText_agree agree (by decide)] at emitted
  obtain ⟨turnId, readTurn, emitted⟩ := except_bind_ok emitted
  obtain ⟨sequence, readSequence, emitted⟩ := except_bind_ok emitted
  obtain ⟨epoch, readEpoch, emitted⟩ := except_bind_ok emitted
  obtain ⟨confidence, readConfidence, emitted⟩ := except_bind_ok emitted
  obtain ⟨ttl, readTtl, emitted⟩ := except_bind_ok emitted
  cases emitted
  rw [readTurn, readSequence, readEpoch, readConfidence, readTtl]
  rfl

end Metadata

section Payload
variable {first second native payload : Native}

/-- A payload that copies the native event never falls back. -/
theorem eventPayload_copy (native : Native) : eventPayload native native = native := by
  cases native with
  | nil => rfl
  | cons entry rest => rfl

theorem eventPayload_lacks (lacks : Lacks bodyFields payload) (native : Native) :
    Lacks bodyFields (eventPayload native payload) := by
  unfold eventPayload
  split
  · exact (without_lacks bodyFields native).without
  · exact lacks

/-- A payload of shown fields depends on the metadata only. -/
theorem eventPayload_agree (agree : AgreeOff bodyFields first second) (payload : Native) :
    SameMapping (eventPayload first payload) (eventPayload second payload) := by
  unfold eventPayload
  split
  · exact agree.without.without identityFields
  · exact fun _ => rfl

end Payload

/-- The event type of a hook. -/
def Hook.eventType : Hook → String
  | .taskStart => "TASK_STARTED"
  | .turnStart => "TURN_STARTED"
  | .modelRequest => "MODEL_REQUESTED"
  | .modelResponse => "MODEL_RESPONSE_RECEIVED"
  | .toolStart => "TOOL_STARTED"
  | .toolProgress => "TOOL_PROGRESS"
  | .toolResult => "TOOL_RESULT_READY"
  | .contextCompaction => "CONTEXT_COMPACTED"
  | .subagentStart => "SUBAGENT_STARTED"
  | .taskComplete => "TASK_COMPLETED"

/-- The payload that a hook asks for. -/
def Hook.payload : Hook → Native → Native
  | .taskStart | .turnStart => fun _ => []
  | .modelRequest => only requestFields
  | .modelResponse => only responseFields
  | .toolStart | .toolProgress | .toolResult | .contextCompaction | .subagentStart
  | .taskComplete => id

/-- These hooks build their payload from metadata fields. The others copy the native event. -/
def Hook.filters (hook : Hook) : Bool :=
  hook ∈ [Hook.taskStart, .turnStart, .modelRequest, .modelResponse]

section Hooks
variable {adapter : GenericProxyHarnessAdapter} {text : Text} {first second : Native}
  {hook : Hook}

theorem Hook.run_eq (adapter : GenericProxyHarnessAdapter) (text : Text) (now : Int) (hook : Hook)
    (native : Native) : hook.run adapter text now native =
      event adapter text now hook.eventType native (hook.payload native) := by
  cases hook <;> rfl

/-- A filtering hook asks for shown fields only. -/
theorem Hook.payload_filters (filters : hook.filters = true)
    (agree : AgreeOff bodyFields first second) :
    hook.payload first = hook.payload second ∧ Lacks bodyFields (hook.payload first) := by
  cases hook with
  | taskStart | turnStart => exact ⟨rfl, fun _ _ => rfl⟩
  | modelRequest => exact ⟨agree.only (by decide), only_lacks (by decide)⟩
  | modelResponse => exact ⟨agree.only (by decide), only_lacks (by decide)⟩
  | _ => cases filters

theorem Hook.payload_copies (copies : hook.filters = false) (native : Native) :
    eventPayload native (hook.payload native) = native := by
  cases hook with
  | taskStart | turnStart | modelRequest | modelResponse => cases copies
  | _ => exact eventPayload_copy native

/-- Two events are equal apart from the instants of their observation. -/
structure SameEvent (first second : AgentStateEvent) : Prop where
  metadata : { first with observedAt := 0, payload := [] } =
    { second with observedAt := 0, payload := [] }
  payload : SameMapping first.payload second.payload

/-- Two native events that differ only in bodies give equal events without bodies. -/
structure Noninterfering (first second : AgentStateEvent) : Prop where
  same : SameEvent first second
  left : Lacks bodyFields first.payload
  right : Lacks bodyFields second.payload

end Hooks

/-- A hook emits events that depend on the metadata only and carry no body exactly when it filters
its payload or neither native event carries a body. -/
theorem hooks_noninterfering_iff {adapter : GenericProxyHarnessAdapter} {text : Text}
    {hook : Hook} {first second : Native} {now later : Int} {made : AgentStateEvent}
    (agree : AgreeOff bodyFields first second)
    (emitted : hook.run adapter text now first = .ok made) :
    ∃ other, hook.run adapter text later second = .ok other ∧
      (Noninterfering made other ↔
        hook.filters = true ∨ Lacks bodyFields first ∧ Lacks bodyFields second) := by
  rw [Hook.run_eq] at emitted
  have payload := (event_made emitted).1
  refine ⟨_, (Hook.run_eq adapter text later hook second).trans (event_agree agree emitted), ?_⟩
  cases filters : hook.filters with
  | true =>
      obtain ⟨asked, shown⟩ := Hook.payload_filters filters agree
      refine iff_of_true ⟨⟨rfl, ?_⟩, ?_, ?_⟩ (Or.inl rfl)
      · change SameMapping made.payload (eventPayload second (hook.payload second))
        rw [payload, ← asked]
        exact eventPayload_agree agree _
      · rw [payload]
        exact eventPayload_lacks shown first
      · change Lacks bodyFields (eventPayload second (hook.payload second))
        rw [← asked]
        exact eventPayload_lacks shown second
  | false =>
      rw [Hook.payload_copies filters] at payload
      have copied : eventPayload second (hook.payload second) = second :=
        Hook.payload_copies filters second
      rw [copied]
      constructor
      · rintro ⟨_, left, right⟩
        rw [payload] at left
        exact Or.inr ⟨left, right⟩
      · rintro (filtered | ⟨left, right⟩)
        · cases filtered
        · refine ⟨⟨rfl, ?_⟩, ?_, right⟩
          · rw [payload]
            exact agree.same left right
          · rw [payload]
            exact left

section Demo

/-- A finished tool call with its result. -/
def toolReport (result : String) : Native :=
  [("session_id", .str "session"), ("tool_id", .str "tool"), ("tool_result", .str result)]

theorem toolReport_agree (first second : String) :
    AgreeOff bodyFields (toolReport first) (toolReport second) := by
  intro key shown
  have other : key ≠ "tool_result" := by
    rintro rfl
    exact shown (by decide)
  unfold toolReport
  simp only [lookup_cons, if_neg other]

/-- A start of a task keeps no result. -/
theorem taskStart_noninterfering : ∃ made other,
    Hook.taskStart.run {} asciiText 0 (toolReport "first") = .ok made ∧
      Hook.taskStart.run {} asciiText 1 (toolReport "second") = .ok other ∧
        Noninterfering made other := by
  obtain ⟨other, emitted, exact⟩ := hooks_noninterfering_iff (toolReport_agree "first" "second")
    (Eq.refl (Hook.taskStart.run {} asciiText 0 (toolReport "first")))
  exact ⟨_, other, rfl, emitted, exact.mpr (Or.inl rfl)⟩

/-- A tool result copies its body into the payload. -/
theorem toolResult_interferes : ¬ ∀ hook first second made other,
    AgreeOff bodyFields first second →
      Hook.run {} asciiText 0 hook first = .ok made → Hook.run {} asciiText 0 hook second = .ok other →
        Noninterfering made other := by
  intro claimed
  have kept := (claimed .toolResult (toolReport "first") (toolReport "second") _ _
    (toolReport_agree "first" "second") rfl rfl).left
  have lost := kept "tool_result" (by decide)
  cases lost

end Demo

end StateFlow.Harness
