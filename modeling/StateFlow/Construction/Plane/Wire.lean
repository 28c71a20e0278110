import StateFlow.Construction.Plane.Api
import StateFlow.Library.Calendar
import StateFlow.Library.Double

namespace StateFlow.Plane
open Python Table Calendar

mutual

/-- `to_jsonable` turns enumerations into texts, sequences into lists, and a float that is not finite
into none. The caller supplies the conversion of the other objects. -/
def toJsonable (other : Value → Value) : Value → Value
  | .none => .none
  | .bool value => .bool value
  | .int value => .int value
  | .float value => .float value
  | .str value => .str value
  | .enum _ member => .str member
  | .list items => .list (toJsonableItems other items)
  | .tuple items => .list (toJsonableItems other items)
  | .dict entries => .dict (toJsonableEntries other entries)
  | .set items => other (.set items)
  | .datetime micros => other (.datetime micros)
  | .timedelta micros => other (.timedelta micros)
  | .object kind attrs => if kind = "float" then .none else other (.object kind attrs)

def toJsonableItems (other : Value → Value) : List Value → List Value
  | [] => []
  | item :: rest => toJsonable other item :: toJsonableItems other rest

def toJsonableEntries (other : Value → Value) : List (String × Value) → List (String × Value)
  | [] => []
  | (key, value) :: rest => (key, toJsonable other value) :: toJsonableEntries other rest

end

mutual

/-- A JSON value has no other objects inside. -/
def isJson : Value → Bool
  | .none | .bool _ | .int _ | .float _ | .str _ => true
  | .list items => isJsonItems items
  | .dict entries => isJsonEntries entries
  | _ => false

def isJsonItems : List Value → Bool
  | [] => true
  | item :: rest => isJson item && isJsonItems rest

def isJsonEntries : List (String × Value) → Bool
  | [] => true
  | (_, value) :: rest => isJson value && isJsonEntries rest

end

def StateSemantic.value : StateSemantic → String
  | observed => "observed"
  | derived => "derived"
  | reserved => "reserved"
  | committed => "committed"

/-- `total_seconds` divides microseconds in double precision. -/
def totalSeconds (micros : Int) : ℚ := Double.nearest ((micros : ℚ) / 1000000)

/-- `_milliseconds` multiplies the seconds in double precision and truncates. -/
def milliseconds : Option Int → Value
  | none => .none
  | some ttl =>
      let scaled := Double.nearest (totalSeconds ttl * 1000)
      .int (max 0 (if 0 ≤ scaled then ⌊scaled⌋ else ⌈scaled⌉))

/-- The wire carries a lifetime in milliseconds in place of its seconds. -/
def withMilliseconds (ttl : Option Int) (fields : List (String × Value)) : List (String × Value) :=
  (assign "ttl_ms" (milliseconds ttl) fields).filter fun entry => entry.1 ≠ "ttl"

section Encode
variable (other : Value → Value)

def timestampText (clock : DateTime) : Value := .str (String.ofList clock.isoformat)

def secondsValue (ttl : Option Int) : Value := (ttl.map fun ttl => .float (totalSeconds ttl)).getD .none

def encodeSourceRef (source : SourceRef) : Value :=
  .dict [("backend", .str source.backend), ("reference", .str source.reference),
    ("trace_id", .str source.traceId), ("span_id", .str source.spanId)]

def encodeCorrelation (correlation : CorrelationIdentity) : Value :=
  .dict [("trace_id", .str correlation.traceId), ("span_id", .str correlation.spanId),
    ("agent_id", .str correlation.agentId), ("session_id", .str correlation.sessionId),
    ("request_id", .str correlation.requestId), ("action_id", .str correlation.actionId),
    ("component_id", .str correlation.componentId), ("instance_id", .str correlation.instanceId)]

/-- `encode_state_update` -/
def encodeStateUpdate (update : StateUpdate) (clock : DateTime) : List (String × Value) :=
  withMilliseconds update.ttl
    [("entity_ref", .str update.entityRef), ("key", .str update.key),
      ("value", toJsonable other update.value), ("producer", .str update.producer),
      ("timestamp", timestampText clock), ("ttl", secondsValue update.ttl),
      ("authority", .int update.authority.rank), ("version", .int update.version),
      ("semantic", .str update.semantic.value), ("confidence", .float update.confidence),
      ("source_ref", (update.sourceRef.map encodeSourceRef).getD .none),
      ("correlation", encodeCorrelation update.correlation),
      ("expected_version", (update.expectedVersion.map Value.int).getD .none),
      ("idempotency_key", .str update.idempotencyKey)]

/-- `encode_relation_update` -/
def encodeRelationUpdate (update : RelationUpdate) (clock : DateTime) : List (String × Value) :=
  withMilliseconds update.ttl
    [("source_ref", .str update.sourceRef), ("relation_type", .str update.relationType),
      ("target_ref", .str update.targetRef), ("producer", .str update.producer),
      ("timestamp", timestampText clock), ("authority", .int update.authority.rank),
      ("attributes", .dict (toJsonableEntries other update.attributes)),
      ("ttl", secondsValue update.ttl), ("version", .int update.version),
      ("expected_version", (update.expectedVersion.map Value.int).getD .none),
      ("idempotency_key", .str update.idempotencyKey)]

/-- `encode_heartbeat` -/
def encodeHeartbeat (beat : Heartbeat) (clock : DateTime) : List (String × Value) :=
  withMilliseconds (some beat.ttl)
    [("subject_ref", .str beat.subjectRef), ("producer", .str beat.producer),
      ("source_watermark", .str beat.sourceWatermark), ("schema_version", .str beat.schemaVersion),
      ("timestamp", timestampText clock), ("ttl", secondsValue (some beat.ttl))]

end Encode

section Decode
variable (text : Text) (now : DateTime)

/-- `value.get(key)` of a JSON object. -/
def jsonGet (json : List (String × Value)) (key : String) : Value := getD json key .none

def jsonText (json : List (String × Value)) (key default : String) : String :=
  text.str (getD json key (.str default))

/-- `_required` rejects an empty text. -/
def requiredText (json : List (String × Value)) (key : String) : Except Exception String :=
  let result := jsonText text json key ""
  if result = "" then .error .valueError else .ok result

def replaceZulu (letters : List Char) : List Char :=
  letters.flatMap fun letter => if letter = 'Z' then "+00:00".toList else [letter]

/-- `_datetime` reads the clock without a text. -/
def datetimeOf : Value → Except Exception DateTime
  | .none | .str "" => .ok now
  | value =>
      match fromisoformat (replaceZulu (text.str value).toList) with
      | some clock => .ok clock
      | none => .error .valueError

/-- `_duration_ms` of a JSON value. -/
def durationOf : Value → Except Exception (Option Int)
  | .none => durationMs none
  | value => do durationMs (some (← text.int value))

def authorityOfRank : Int → Except Exception SourceAuthority
  | 0 => .ok .logHint
  | 1 => .ok .derived
  | 2 => .ok .directTelemetry
  | 3 => .ok .structuredLifecycle
  | 4 => .ok .authoritativeDomain
  | _ => .error .valueError

/-- `removeprefix` -/
def removePrefix (start : String) (letters : List Char) : List Char :=
  if start.toList.isPrefixOf letters then letters.drop start.length else letters

def authorityOfName (name : String) : Except Exception SourceAuthority :=
  match [("DOMAIN_OWNER", SourceAuthority.authoritativeDomain), ("OWNER", .authoritativeDomain),
      ("LIFECYCLE", .structuredLifecycle), ("TELEMETRY", .directTelemetry), ("LOG", .logHint),
      ("LOG_HINT", .logHint), ("DERIVED", .derived), ("DIRECT_TELEMETRY", .directTelemetry),
      ("STRUCTURED_LIFECYCLE", .structuredLifecycle),
      ("AUTHORITATIVE_DOMAIN", .authoritativeDomain)].lookup name with
  | some authority => .ok authority
  | none => .error .valueError

/-- `isdigit` of a text whose letters are decimal digits. -/
def isDigits (letters : List Char) : Bool :=
  !letters.isEmpty && letters.all fun letter => (text.parseInt (String.singleton letter)).isSome

/-- `SourceAuthority.parse` reads a number or a name. `_authority` reports every failure alike. -/
def authorityOf (value : Value) : Except Exception SourceAuthority :=
  match value.text? with
  | some name =>
      if isDigits text (name.toList.dropWhile fun letter => letter = '+' || letter = '-') then
        match text.parseInt name with
        | some rank => authorityOfRank rank
        | none => .error .valueError
      else
        authorityOfName (String.ofList (["A0_", "A1_", "A2_", "A3_", "A4_"].foldl
          (fun letters start => removePrefix start letters) (text.upper name).toList))
  | none =>
      match text.int value with
      | .ok rank => authorityOfRank rank
      | .error _ => .error .valueError

def semanticOf (value : Value) : Except Exception StateSemantic :=
  match value.text? with
  | some "observed" => .ok .observed
  | some "derived" => .ok .derived
  | some "reserved" => .ok .reserved
  | some "committed" => .ok .committed
  | _ => .error .valueError

/-- `_source_ref` -/
def sourceRefOf : Value → Except Exception (Option SourceRef)
  | .none => .ok none
  | .dict source =>
      let backend := jsonText text source "backend" ""
      let reference := jsonText text source "reference" ""
      if backend = "" || reference = "" then .error .valueError
      else .ok (some ⟨backend, reference, jsonText text source "trace_id" "",
        jsonText text source "span_id" ""⟩)
  | _ => .error .valueError

/-- A false correlation is an empty one. -/
def correlationOf (value : Value) : Except Exception CorrelationIdentity :=
  match value.orElse (.dict []) with
  | .dict identity =>
      let part := fun key => jsonText text identity key ""
      .ok ⟨part "trace_id", part "span_id", part "agent_id", part "session_id", part "request_id",
        part "action_id", part "component_id", part "instance_id"⟩
  | _ => .error .attributeError

/-- `_mapping` -/
def mappingOf : Value → Except Exception (List (String × Value))
  | .none => .ok []
  | .dict entries => .ok entries
  | _ => .error .valueError

/-- `_int_or_none` -/
def intOrNone : Value → Except Exception (Option Int)
  | .none => .ok none
  | value => do return some (← text.int value)

/-- `_state_update` of a JSON object. The clock shows the timestamp. -/
def decodeStateUpdate (json : List (String × Value)) : Except Exception (StateUpdate × DateTime) := do
  let entityRef ← requiredText text json "entity_ref"
  let key ← requiredText text json "key"
  let producer ← requiredText text json "producer"
  let clock ← datetimeOf text now (jsonGet json "timestamp")
  let ttl ← durationOf text (jsonGet json "ttl_ms")
  let authority ← authorityOf text (getD json "authority" (.int 2))
  let version ← text.int (getD json "version" (.int 0))
  let semantic ← semanticOf (getD json "semantic" (.str "observed"))
  let confidence ← text.float (getD json "confidence" (.float 1))
  let sourceRef ← sourceRefOf text (jsonGet json "source_ref")
  let correlation ← correlationOf text (jsonGet json "correlation")
  let expectedVersion ← intOrNone text (jsonGet json "expected_version")
  return ({ entityRef, key, value := jsonGet json "value", producer, timestamp := clock.instant, ttl,
            authority, version, semantic, confidence, sourceRef, correlation, expectedVersion,
            idempotencyKey := jsonText text json "idempotency_key" "" }, clock)

/-- `_relation_update` of a JSON object. -/
def decodeRelationUpdate (json : List (String × Value)) :
    Except Exception (RelationUpdate × DateTime) := do
  let sourceRef ← requiredText text json "source_ref"
  let relationType ← requiredText text json "relation_type"
  let targetRef ← requiredText text json "target_ref"
  let producer ← requiredText text json "producer"
  let clock ← datetimeOf text now (jsonGet json "timestamp")
  let authority ← authorityOf text (getD json "authority" (.int 3))
  let attributes ← mappingOf (jsonGet json "attributes")
  let ttl ← durationOf text (jsonGet json "ttl_ms")
  let version ← text.int (getD json "version" (.int 0))
  let expectedVersion ← intOrNone text (jsonGet json "expected_version")
  return ({ sourceRef, relationType, targetRef, producer, timestamp := clock.instant
            zone := clock.offset.getD 0, authority, attributes, ttl, version, expectedVersion
            idempotencyKey := jsonText text json "idempotency_key" "" }, clock)

/-- `_heartbeat` of a JSON object. -/
def decodeHeartbeat (json : List (String × Value)) : Except Exception (Heartbeat × DateTime) := do
  let subjectRef ← requiredText text json "subject_ref"
  let producer ← requiredText text json "producer"
  let clock ← datetimeOf text now (jsonGet json "timestamp")
  let ttl ← durationOf text (jsonGet json "ttl_ms")
  return ({ subjectRef, producer
            sourceWatermark := jsonText text json "source_watermark" ""
            schemaVersion := jsonText text json "schema_version" "1.1"
            timestamp := clock.instant, zone := clock.offset.getD 0, ttl := heartbeatTtl ttl }, clock)

end Decode

end StateFlow.Plane
