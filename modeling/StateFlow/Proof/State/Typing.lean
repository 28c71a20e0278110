import StateFlow.Library.Triple
import StateFlow.Proof.State.Updates
import StateFlow.Proof.Scheduler.Selection

namespace StateFlow.State
open Python Table Effect Scheduler

/-- The declared types of the attributes that a computation depends on. -/
inductive Kind where
  | number | integer | double | scalar | optionalNumber | optionalDouble | deadline | set | textSet
  | container | sequence | mapping | phase | history | any
  deriving DecidableEq

/-- A plain value is no container and no instant. -/
def scalar : Value → Bool
  | .none | .bool _ | .int _ | .float _ | .str _ => true
  | _ => false

/-- A count is an integer or a boolean. -/
def wholeNumber : Value → Bool
  | .bool _ | .int _ => true
  | _ => false

/-- A routing history has the attributes that a decision reads. -/
def historyAttrs (attrs : List (String × Value)) : Bool :=
  (attrs.lookup "current_model").isSome &&
    ((attrs.lookup "current_tier").bind Value.text?).isSome &&
    ((attrs.lookup "stable_steps").bind Value.number?).isSome &&
    ((attrs.lookup "failure_streak").bind Value.number?).isSome

namespace Kind

/-- The stored values of a type. -/
def admits : Kind → Value → Bool
  | .number, value => value.number?.isSome
  | .integer, value => wholeNumber value
  | .double, value => value.double.isOk
  | .scalar, value => State.scalar value
  | .optionalNumber, value => value.isNone || value.number?.isSome
  | .optionalDouble, value => value.isNone || value.double.isOk
  | .deadline, .none | .deadline, .datetime _ => true
  | .deadline, _ => false
  | .set, .set items => items.all Value.hashable
  | .set, _ => false
  | .textSet, .set items => items.all fun item => item.text?.isSome
  | .textSet, _ => false
  | .container, .set items => items.all Value.hashable
  | .container, _ => true
  | .sequence, .list _ | .sequence, .tuple _ => true
  | .sequence, _ => false
  | .mapping, .dict _ => true
  | .mapping, _ => false
  | .phase, .enum _ _ => true
  | .phase, _ => false
  | .history, .object _ attrs => historyAttrs attrs
  | .history, _ => false
  | .any, _ => true

/-- The texts of a reported set. Another value never becomes a set. -/
def textItems (value : Value) : Bool :=
  match (value.orElse (.list [])).iter with
  | .ok items => items.all fun item => item.text?.isSome
  | .error _ => true

/-- The reported values of a type. The conversion rejects or repairs the others. -/
def accepts : Kind → Value → Bool
  | .set, _ | .phase, _ => true
  | .textSet, value => textItems value
  | kind, value => kind.admits value

/-- These attributes take part in a computation. Every other attribute may hold any value. The view
converts a double, which an integer beyond the doubles is not. -/
def table : List ((Section × String) × Kind) :=
  [((.header, "turn_id"), .number), ((.header, "epoch"), .number),
    ((.header, "sequence_number"), .number), ((.header, "dirty_fields"), .set),
    ((.identity, "tenant_id"), .scalar), ((.identity, "harness_type"), .scalar),
    ((.identity, "required_capabilities"), .textSet),
    ((.lifecycle, "phase"), .phase), ((.lifecycle, "progress"), .double),
    ((.lifecycle, "current_turn"), .number),
    ((.execution, "critical_path_nodes"), .sequence),
    ((.context, "prompt_tokens"), .integer), ((.context, "total_tokens"), .integer),
    ((.context, "assistant_tokens"), .integer), ((.context, "reusable_prefix_tokens"), .number),
    ((.context, "immutable_prefix_tokens"), .number), ((.context, "truncation_risk"), .double),
    ((.context, "reusable_prefix_ratio"), .double),
    ((.model, "prompt_tokens"), .number), ((.model, "predicted_output_tokens"), .number),
    ((.tools, "active_tools"), .container),
    ((.tools, "predicted_time_until_next_model_call_seconds"), .number),
    ((.kvCache, "local_reusable_tokens"), .double), ((.kvCache, "remote_reusable_tokens"), .double),
    ((.scheduling, "routing_history"), .history),
    ((.prediction, "next_action_probabilities"), .mapping),
    ((.prediction, "continuation_probability"), .double),
    ((.prediction, "predicted_inter_request_gap_seconds"), .number),
    ((.prediction, "predicted_next_decode_tokens"), .number),
    ((.prediction, "predicted_kv_reuse_ratio"), .double),
    ((.prediction, "predicted_tool_wait_seconds"), .number),
    ((.prediction, "predicted_remaining_turns"), .number),
    ((.qos, "task_deadline"), .deadline), ((.qos, "task_latency_target_seconds"), .optionalDouble),
    ((.qos, "task_cost_budget"), .optionalNumber),
    ((.affinity, "migration_penalty"), .number),
    ((.failure, "retry_count"), .number), ((.failure, "failure_streak"), .number),
    ((.failure, "error_severity"), .double),
    ((.security, "tenant_id"), .scalar), ((.security, "security_domain"), .scalar),
    ((.security, "allowed_models"), .set), ((.security, "allowed_regions"), .set),
    ((.security, "allowed_cache_domains"), .set), ((.security, "remote_kv_allowed"), .scalar),
    ((.progressSignals, "exploring_score"), .double), ((.progressSignals, "production_score"), .double),
    ((.progressSignals, "error_severity"), .double), ((.progressSignals, "spinning_score"), .double),
    ((.progressSignals, "recovery_score"), .double),
    ((.progressSignals, "verification_score"), .double),
    ((.progressSignals, "plan_stability"), .double),
    ((.progressSignals, "consecutive_failures"), .number)]

end Kind

/-- The declared type of an attribute. -/
def kindOf (part : Section) (name : String) : Kind := (Kind.table.lookup (part, name)).getD .any

section Values

theorem isSome_number {value : Value} : value.number?.isSome = true ↔ IsNumber value :=
  Option.isSome_iff_exists

theorem isNumber_int (count : Int) : IsNumber (.int count) := ⟨count, rfl⟩

theorem wholeNumber_int (count : Int) : wholeNumber (.int count) = true := rfl

theorem isNumber_float (amount : ℚ) : IsNumber (.float amount) := ⟨amount, rfl⟩

/-- A number is a boolean, an integer, or a float. -/
theorem isNumber_cases {value : Value} (numeric : IsNumber value) :
    (∃ flag, value = .bool flag) ∨ (∃ count, value = .int count) ∨ ∃ amount, value = .float amount := by
  obtain ⟨amount, known⟩ := numeric
  cases value with
  | bool flag => exact .inl ⟨flag, rfl⟩
  | int count => exact .inr (.inl ⟨count, rfl⟩)
  | float amount => exact .inr (.inr ⟨amount, rfl⟩)
  | _ => cases known

/-- A value that converts to a float is a number. -/
theorem isNumber_double {value : Value} (converts : value.double.isOk = true) : IsNumber value := by
  cases value with
  | bool | int | float => exact ⟨_, rfl⟩
  | _ => cases converts

theorem isNumber_integer {value : Value} (whole : wholeNumber value = true) : IsNumber value := by
  cases value with
  | bool | int => exact ⟨_, rfl⟩
  | _ => cases whole

/-- The sum of two numbers that convert to floats is a number. -/
theorem add_doubles {first second : Value} (left : first.double.isOk = true)
    (right : second.double.isOk = true) : Yields (first.add second) IsNumber := by
  have converted {value : Value} (converts : value.double.isOk = true) :
      ∃ amount, value.double = .ok amount := by
    cases read : value.double with
    | ok amount => exact ⟨amount, rfl⟩
    | error exception => rw [read] at converts; cases converts
  obtain ⟨one, leftRead⟩ := converted left
  obtain ⟨two, rightRead⟩ := converted right
  rcases isNumber_cases (isNumber_double left) with ⟨_, rfl⟩ | ⟨_, rfl⟩ | ⟨_, rfl⟩ <;>
    rcases isNumber_cases (isNumber_double right) with ⟨_, rfl⟩ | ⟨_, rfl⟩ | ⟨_, rfl⟩
  all_goals
    unfold Value.add
    simp only [leftRead, rightRead]
    exact ⟨_, rfl, _, rfl⟩

/-- The successor of a number is a number. -/
theorem add_one {value : Value} (numeric : IsNumber value) : Yields (value.add (.int 1)) IsNumber := by
  rcases isNumber_cases numeric with ⟨_, rfl⟩ | ⟨_, rfl⟩ | ⟨_, rfl⟩
  · exact ⟨_, rfl, _, rfl⟩
  · exact ⟨_, rfl, _, rfl⟩
  · unfold Value.add
    simp only [Value.double, floatOfInt_one]
    exact ⟨_, rfl, _, rfl⟩

/-- The sum of two counts is a count. -/
theorem add_integers {first second : Value} (left : wholeNumber first = true)
    (right : wholeNumber second = true) : Yields (first.add second) fun sum => wholeNumber sum = true := by
  cases first <;> first | exact Bool.noConfusion left | skip
  all_goals cases second <;> first | exact Bool.noConfusion right | exact ⟨_, rfl, rfl⟩

theorem lt_number {first second : Value} (left : IsNumber first) (right : IsNumber second) :
    Yields (first.lt second) fun _ => True := by
  obtain ⟨one, left⟩ := left
  obtain ⟨two, right⟩ := right
  refine ⟨decide (one < two), ?_, trivial⟩
  unfold Value.lt
  rw [left, right]

/-- The larger of two numbers is one of them. -/
theorem max_either {first second : Value} {test : Value → Prop} (left : IsNumber first)
    (right : IsNumber second) (one : test first) (two : test second) :
    Yields (first.max second) test := by
  refine yields_bind (lt_number left right) fun less _ => ?_
  cases less with
  | true => exact yields_pure two
  | false => exact yields_pure one

theorem max_numbers {first second : Value} (left : IsNumber first) (right : IsNumber second) :
    Yields (first.max second) IsNumber :=
  max_either left right left right

theorem max_doubles {first second : Value} (left : first.double.isOk = true)
    (right : second.double.isOk = true) :
    Yields (first.max second) fun largest => largest.double.isOk = true :=
  max_either (isNumber_double left) (isNumber_double right) left right

theorem max_integers {first second : Value} (left : wholeNumber first = true)
    (right : wholeNumber second = true) :
    Yields (first.max second) fun largest => wholeNumber largest = true :=
  max_either (isNumber_integer left) (isNumber_integer right) left right

theorem maxOf_numbers {first : Value} {others : List Value} (start : IsNumber first)
    (rest : ∀ value ∈ others, IsNumber value) :
    Yields (maxOf first others) IsNumber := by
  induction others generalizing first with
  | nil => exact yields_ok start
  | cons second others ih =>
      obtain ⟨here, later⟩ := List.forall_mem_cons.mp rest
      exact yields_bind (max_numbers start here) fun larger numeric => ih numeric later

end Values

/-- A plain value has a hash. -/
theorem scalar_hashable {value : Value} (plain : scalar value = true) : value.hashable = true := by
  cases value with
  | none | bool | int | float | str => rfl
  | _ => cases plain

theorem text_hashable {value : Value} (text : value.text?.isSome = true) : value.hashable = true := by
  cases value with
  | str | enum => rfl
  | _ => cases text

section Conversions

/-- The items of a converted set are items of the value. -/
theorem toSet_ok {value converted : Value} (returned : value.toSet = .ok converted) :
    ∃ items, value.iter = .ok items ∧ items.all Value.hashable = true ∧
      converted = .set (distinct items) := by
  obtain ⟨items, iterated, finished⟩ := except_bind_ok returned
  split at finished
  · rename_i hashed
    cases finished
    exact ⟨items, iterated, hashed, rfl⟩
  · cases finished

theorem distinct_all {items : List Value} {test : Value → Bool} (all : items.all test = true) :
    (distinct items).all test = true :=
  List.all_eq_true.mpr fun item member =>
    List.all_eq_true.mp all item (mem_of_mem_distinct member)

/-- A converted member is a member of an enumeration. -/
theorem enumValue_enum (text : Text) (kind : String) (value : Value) (owner member : String) :
    ∃ found : String × String, enumValue text kind value (.enum owner member) =
      .enum found.1 found.2 := by
  unfold enumValue
  extract_lets named
  split
  · split
    · exact ⟨(_, _), rfl⟩
    · split
      · exact ⟨(_, _), rfl⟩
      · exact ⟨(_, _), rfl⟩
  · split
    · exact ⟨(_, _), rfl⟩
    · exact ⟨(_, _), rfl⟩

theorem timedeltaOfSeconds_ok {seconds : ℚ} {value : Value}
    (returned : timedeltaOfSeconds seconds = .ok value) : ∃ micros, value = .timedelta micros := by
  unfold timedeltaOfSeconds at returned
  extract_lets micros at returned
  split at returned
  · cases returned
    exact ⟨micros, rfl⟩
  · cases returned

theorem parseInstant_ok {text : Text} {instant : String} {value : Value}
    (returned : parseInstant text instant = .ok value) : ∃ micros, value = .datetime micros := by
  unfold parseInstant at returned
  split at returned
  · cases returned
    exact ⟨_, rfl⟩
  · cases returned

/-- A converted list is a list or the reported value. -/
theorem convertForField_list {text : Text} {items : List Value} {value converted : Value}
    {name : String} (returned : convertForField text (.list items) value name = .ok converted) :
    (∃ items, converted = .list items) ∨ converted = value := by
  unfold convertForField at returned
  simp only at returned
  split at returned
  · cases returned
    exact .inl ⟨[], rfl⟩
  · split at returned
    · obtain ⟨_, _, finished⟩ := except_bind_ok returned
      obtain ⟨converted, _, finished⟩ := except_bind_ok finished
      cases finished
      exact .inl ⟨converted, rfl⟩
    · cases returned
      exact .inr rfl

/-- A converted enumeration value belongs to some enumeration. -/
theorem convertForField_enum {text : Text} {kind member name : String} {value converted : Value}
    (returned : convertForField text (.enum kind member) value name = .ok converted) :
    ∃ found : String × String, converted = .enum found.1 found.2 := by
  cases returned
  exact enumValue_enum text kind value kind member

theorem convertForField_tuple {text : Text} {items : List Value} {value converted : Value}
    {name : String} (returned : convertForField text (.tuple items) value name = .ok converted) :
    ∃ items, converted = .tuple items := by
  obtain ⟨items, _, finished⟩ := except_bind_ok returned
  cases finished
  exact ⟨items, rfl⟩

/-- A stored value keeps its type when it takes a reported value of the type. -/
theorem convertForField_admits {kind : Kind} {text : Text} {old value converted : Value}
    {name : String} (stored : kind.admits old = true) (reported : kind.accepts value = true)
    (returned : convertForField text old value name = .ok converted) :
    kind.admits converted = true := by
  cases kind with
  | any => rfl
  | number | integer | double | optionalDouble | scalar | optionalNumber | mapping | history =>
      cases old <;> first | exact Bool.noConfusion stored | (cases returned; exact reported)
  | deadline =>
      cases old with
      | none => cases returned; exact reported
      | datetime instant =>
          cases value <;> first | exact Bool.noConfusion reported | (cases returned; rfl)
      | _ => exact Bool.noConfusion stored
  | phase =>
      cases old with
      | enum kind member =>
          obtain ⟨_, rfl⟩ := convertForField_enum returned
          rfl
      | _ => exact Bool.noConfusion stored
  | set =>
      cases old with
      | set items =>
          obtain ⟨items, _, hashed, rfl⟩ := toSet_ok returned
          exact distinct_all hashed
      | _ => exact Bool.noConfusion stored
  | textSet =>
      cases old with
      | set items =>
          obtain ⟨items, iterated, hashed, rfl⟩ := toSet_ok returned
          refine distinct_all ?_
          change Kind.textItems value = true at reported
          unfold Kind.textItems at reported
          rwa [iterated] at reported
      | _ => exact Bool.noConfusion stored
  | container =>
      cases old with
      | enum kind member =>
          obtain ⟨_, rfl⟩ := convertForField_enum returned
          rfl
      | set items =>
          obtain ⟨items, _, hashed, rfl⟩ := toSet_ok returned
          exact distinct_all hashed
      | tuple items =>
          obtain ⟨_, rfl⟩ := convertForField_tuple returned
          rfl
      | datetime instant =>
          unfold convertForField at returned
          simp only at returned
          split at returned
          · obtain ⟨_, rfl⟩ := parseInstant_ok returned
            rfl
          · cases returned
            exact reported
      | timedelta micros =>
          unfold convertForField at returned
          simp only at returned
          split at returned
          · obtain ⟨_, rfl⟩ := timedeltaOfSeconds_ok returned
            rfl
          · cases returned
            exact reported
      | list items =>
          rcases convertForField_list returned with ⟨_, rfl⟩ | rfl
          · rfl
          · exact reported
      | _ =>
          cases returned
          exact reported
  | sequence =>
      cases old with
      | list items =>
          rcases convertForField_list returned with ⟨_, rfl⟩ | rfl
          · rfl
          · exact reported
      | tuple items =>
          obtain ⟨_, rfl⟩ := convertForField_tuple returned
          rfl
      | _ => exact Bool.noConfusion stored

end Conversions

/-- The expiry of a mark stays inside the calendar. -/
def StateField.representable (field : StateField) : Bool :=
  match field.ttl, field.observedAt with
  | .none, _ => true
  | .timedelta ttl, .datetime observedAt =>
      decide (minDateTime ≤ observedAt + ttl ∧ observedAt + ttl ≤ maxDateTime)
  | _, _ => false

theorem representable_fresh {field : StateField} (valid : field.representable = true) (now : Int) :
    Yields (field.isFresh now) fun _ => True := by
  unfold StateField.representable at valid
  unfold StateField.isFresh
  split at valid
  · rename_i absent
    rw [absent]
    exact yields_ok trivial
  · rename_i ttl observedAt lifetime instant
    have added : addDuration observedAt ttl = .ok (observedAt + ttl) := if_pos (of_decide_eq_true valid)
    rw [lifetime, instant]
    simp only [added]
    exact yields_ok trivial
  · cases valid

/-- This extension takes part in the hot view. -/
def urgencyName : String := "critical_path_urgency"

/-- The attributes of a state have their types, and each mark has an expiry. -/
structure Typed (state : AgentState) : Prop where
  admitted : ∀ part name, (kindOf part name).admits (state.get part name) = true
  marks : ∀ entry ∈ state.fieldMeta, entry.2.representable = true
  urgency : (getD state.extensions urgencyName (.float 0)).double.isOk = true

namespace Typed
variable {state : AgentState} (typed : Typed state)
include typed

theorem number {part : Section} {name : String} (kind : kindOf part name = .number) :
    IsNumber (state.get part name) := by
  have admitted := typed.admitted part name
  rw [kind] at admitted
  exact isSome_number.mp admitted

theorem integer {part : Section} {name : String} (kind : kindOf part name = .integer) :
    wholeNumber (state.get part name) = true := by
  have admitted := typed.admitted part name
  rwa [kind] at admitted

theorem double {part : Section} {name : String} (kind : kindOf part name = .double) :
    (state.get part name).double.isOk = true := by
  have admitted := typed.admitted part name
  rwa [kind] at admitted

theorem set_value {part : Section} {name : String} {value : Value}
    (admits : (kindOf part name).admits value = true) : Typed (state.set part name value) := by
  refine ⟨fun query other => ?_, typed.marks, typed.urgency⟩
  rw [AgentState.get_set]
  split
  · rename_i same
    rw [same.1, same.2]
    exact admits
  · exact typed.admitted query other

theorem set_any {part : Section} {name : String} (value : Value) (free : kindOf part name = .any) :
    Typed (state.set part name value) :=
  typed.set_value (by rw [free]; rfl)

theorem set_number {part : Section} {name : String} {value : Value} (numeric : IsNumber value)
    (kind : kindOf part name = .number) : Typed (state.set part name value) :=
  typed.set_value (by rw [kind]; exact isSome_number.mpr numeric)

end Typed

/-- The default of an attribute has its declared type. -/
theorem default_admitted (fresh : Fresh) (part : Section) (name : String) :
    (kindOf part name).admits (part.default fresh name) = true := by
  have listed : Kind.table.all (fun entry => entry.2.admits (entry.1.1.default fresh entry.1.2)) = true :=
    rfl
  unfold kindOf
  cases found : Kind.table.lookup (part, name) with
  | none => rfl
  | some kind => exact List.all_eq_true.mp listed _ (mem_of_lookup found)

/-- A new state of a plain tenant is typed. -/
theorem newAgentState_typed (fresh : Fresh) (sessionId taskId : String) {tenantId : Value}
    (plain : scalar tenantId = true) : Typed (newAgentState fresh sessionId taskId tenantId) := by
  have start : Typed ⟨fun part name => part.default fresh name, [], []⟩ :=
    ⟨default_admitted fresh, fun _ inside => by (cases inside), rfl⟩
  unfold newAgentState
  refine Typed.set_value ?_ plain
  refine Typed.set_value ?_ rfl
  refine Typed.set_value ?_ plain
  exact (start.set_any _ rfl).set_any _ rfl

end StateFlow.State
