import StateFlow.Construction.Plane.Wire
import StateFlow.Library.Ascii
import StateFlow.Library.Effect

namespace StateFlow.Plane
open Python Table Calendar Double Effect

mutual

/-- `to_jsonable` keeps a JSON value. -/
theorem toJsonable_of_isJson (other : Value → Value) :
    ∀ value : Value, isJson value = true → toJsonable other value = value
  | .none, _ | .bool _, _ | .int _, _ | .float _, _ | .str _, _ => rfl
  | .list items, json => congrArg Value.list (toJsonableItems_of_isJson other items json)
  | .dict entries, json => congrArg Value.dict (toJsonableEntries_of_isJson other entries json)
  | .tuple _, json | .set _, json | .enum _ _, json | .datetime _, json | .timedelta _, json
  | .object _ _, json => by cases json

theorem toJsonableItems_of_isJson (other : Value → Value) :
    ∀ items : List Value, isJsonItems items = true → toJsonableItems other items = items
  | [], _ => rfl
  | item :: rest, json => by
      obtain ⟨first, later⟩ := Bool.and_eq_true_iff.mp json
      rw [toJsonableItems, toJsonable_of_isJson other item first,
        toJsonableItems_of_isJson other rest later]

theorem toJsonableEntries_of_isJson (other : Value → Value) :
    ∀ entries : List (String × Value), isJsonEntries entries = true →
      toJsonableEntries other entries = entries
  | [], _ => rfl
  | (key, value) :: rest, json => by
      obtain ⟨first, later⟩ := Bool.and_eq_true_iff.mp json
      rw [toJsonableEntries, toJsonable_of_isJson other value first,
        toJsonableEntries_of_isJson other rest later]

end

section Parts
variable {text : Text} {now : DateTime}

theorem datetimeOf_timestampText (clock : DateTime) :
    datetimeOf text now (timestampText clock) = .ok clock := by
  have letters : replaceZulu clock.isoformat = clock.isoformat := by
    unfold replaceZulu
    have single : ∀ letter ∈ clock.isoformat,
        (if letter = 'Z' then "+00:00".toList else [letter]) = [letter] :=
      fun letter member => if_neg (isoformat_ne_zulu member)
    rw [List.flatMap_congr single]
    exact List.flatMap_singleton' _
  have present : String.ofList clock.isoformat ≠ "" := by
    intro empty
    have none := congrArg String.toList empty
    rw [String.toList_ofList] at none
    cases none
  unfold timestampText datetimeOf
  split
  · rename_i same
    cases same
  · rename_i same
    exact absurd (Value.str.inj same) present
  · simp only [Text.str, String.toList_ofList, letters, fromisoformat_isoformat]

theorem authorityOf_rank (authority : SourceAuthority) :
    authorityOf text (.int authority.rank) = .ok authority := by
  cases authority <;> rfl

theorem semanticOf_value (semantic : StateSemantic) :
    semanticOf (.str semantic.value) = .ok semantic := by
  cases semantic <;> rfl

theorem sourceRefOf_encode {source : Option SourceRef}
    (referenced : ∀ item ∈ source, item.backend ≠ "" ∧ item.reference ≠ "") :
    sourceRefOf text ((source.map encodeSourceRef).getD .none) = .ok source := by
  cases source with
  | none => rfl
  | some item =>
      obtain ⟨backend, reference⟩ := referenced item rfl
      have present : ¬ (item.backend = "" || item.reference = "") = true := by
        simp [backend, reference]
      exact if_neg present

theorem correlationOf_encode (correlation : CorrelationIdentity) :
    correlationOf text (encodeCorrelation correlation) = .ok correlation := rfl

theorem intOrNone_encode (version : Option Int) :
    intOrNone text ((version.map Value.int).getD .none) = .ok version := by
  cases version <;> rfl

/-- The wire keeps every field but the seconds of a lifetime. -/
theorem lookup_withMilliseconds {fields : List (String × Value)} {ttl : Option Int} {key : String}
    (kept : key ≠ "ttl") :
    (withMilliseconds ttl fields).lookup key =
      if key = "ttl_ms" then some (milliseconds ttl) else fields.lookup key := by
  have filtered (entries : List (String × Value)) :
      (entries.filter fun entry => entry.1 ≠ "ttl").lookup key = entries.lookup key := by
    induction entries with
    | nil => rfl
    | cons entry rest ih =>
        rw [List.filter_cons]
        split
        · rw [Table.lookup_cons, Table.lookup_cons, ih]
        · rename_i seconds
          rw [Table.lookup_cons, if_neg (by rintro rfl; simp [kept] at seconds), ih]
  rw [withMilliseconds, filtered, lookup_assign]

/-- A whole number of milliseconds passes through its seconds. -/
theorem milliseconds_whole (count : Nat) :
    milliseconds (some ((count : Int) * 1000)) = .int (throughSeconds count) := by
  have seconds : totalSeconds ((count : Int) * 1000) = secondsOf count := by
    unfold totalSeconds secondsOf
    congr 1
    push_cast
    ring
  have nonneg : 0 ≤ secondsOf count := nearest_nonneg (by positivity)
  have scaled : 0 ≤ nearest (secondsOf count * 1000) := nearest_nonneg (by positivity)
  unfold milliseconds
  simp only [seconds, if_pos scaled]
  rw [max_eq_right (Int.floor_nonneg.mpr scaled)]
  rfl

/-- A lifetime of whole milliseconds, in microseconds. -/
def wholeTtl (lifetime : Option Nat) : Option Int :=
  lifetime.map fun (count : Nat) => (count : Int) * 1000

/-- A lifetime comes back exactly when its milliseconds survive. -/
theorem durationOf_milliseconds {lifetime : Option Nat}
    (bounded : ∀ count ∈ lifetime, (count : Int) * 1000 ≤ maxTimedelta) :
    durationOf text (milliseconds (wholeTtl lifetime)) = .ok (wholeTtl lifetime) ↔
      ∀ count ∈ lifetime, Survives count := by
  cases lifetime with
  | none => exact ⟨fun _ _ member => (by cases member), fun _ => rfl⟩
  | some count =>
      have small := bounded count rfl
      have nonneg := @throughSeconds_nonneg count
      have read : durationOf text (milliseconds (some ((count : Int) * 1000))) =
          do return some (← timedeltaOfMs (throughSeconds count)) := by
        rw [milliseconds_whole]
        change durationMs (some (throughSeconds count)) = _
        rw [durationMs, max_eq_right nonneg]
      have iff : (throughSeconds count = count) ↔ Survives count :=
        throughSeconds_eq_iff (by unfold maxTimedelta at small; omega)
      simp only [wholeTtl, Option.map_some, Option.mem_def, Option.some.injEq, forall_eq', read, ← iff]
      constructor
      · intro kept
        obtain ⟨micros, found, same⟩ := except_bind_ok kept
        cases same
        unfold timedeltaOfMs at found
        simp only at found
        split at found
        · have equal := Except.ok.inj found
          omega
        · cases found
      · intro same
        have inside : -maxTimedelta ≤ (count : Int) * 1000 ∧ (count : Int) * 1000 ≤ maxTimedelta :=
          ⟨by unfold maxTimedelta; omega, small⟩
        rw [same, timedeltaOfMs, if_pos inside]
        rfl

end Parts

/-- An update can be sent when its required texts are present, its value is JSON, its timestamp is
aware, and its lifetime is a whole number of milliseconds. -/
structure SendableState (update : StateUpdate) (clock : DateTime) (lifetime : Option Nat) : Prop where
  named : update.entityRef ≠ "" ∧ update.key ≠ "" ∧ update.producer ≠ ""
  referenced : ∀ source ∈ update.sourceRef, source.backend ≠ "" ∧ source.reference ≠ ""
  json : isJson update.value = true
  dated : update.timestamp = clock.instant
  aware : clock.offset.isSome = true
  whole : update.ttl = wholeTtl lifetime
  bounded : ∀ count ∈ lifetime, (count : Int) * 1000 ≤ maxTimedelta

structure SendableRelation (update : RelationUpdate) (clock : DateTime) (lifetime : Option Nat) :
    Prop where
  named : update.sourceRef ≠ "" ∧ update.relationType ≠ "" ∧ update.targetRef ≠ ""
    ∧ update.producer ≠ ""
  json : isJsonEntries update.attributes = true
  dated : update.timestamp = clock.instant
  aware : clock.offset = some update.zone
  whole : update.ttl = wholeTtl lifetime
  bounded : ∀ count ∈ lifetime, (count : Int) * 1000 ≤ maxTimedelta

structure SendableHeartbeat (beat : Heartbeat) (clock : DateTime) (lifetime : Nat) : Prop where
  named : beat.subjectRef ≠ "" ∧ beat.producer ≠ ""
  dated : beat.timestamp = clock.instant
  aware : clock.offset = some beat.zone
  whole : beat.ttl = lifetime * 1000
  bounded : (lifetime : Int) * 1000 ≤ maxTimedelta

section Records
variable {text : Text} {now clock : DateTime} {other : Value → Value}

theorem requiredText_ok {json : List (String × Value)} {key value : String}
    (found : json.lookup key = some (.str value)) (present : value ≠ "") :
    requiredText text json key = .ok value := by
  have same : jsonText text json key "" = value := by
    rw [jsonText, getD, found]
    rfl
  unfold requiredText
  rw [same]
  exact if_neg present

/-- The decoder reads the JSON form of a value and every other field but the lifetime. -/
theorem decode_encode_value {update : StateUpdate}
    (named : update.entityRef ≠ "" ∧ update.key ≠ "" ∧ update.producer ≠ "")
    (referenced : ∀ source ∈ update.sourceRef, source.backend ≠ "" ∧ source.reference ≠ "")
    (dated : update.timestamp = clock.instant) :
    decodeStateUpdate text now (encodeStateUpdate other update clock) =
      (durationOf text (milliseconds update.ttl)).map fun ttl =>
        ({ update with value := toJsonable other update.value, ttl := ttl }, clock) := by
  obtain ⟨entity, key, producer⟩ := named
  have texts : jsonText text (encodeStateUpdate other update clock) "idempotency_key" "" =
      update.idempotencyKey := by
    simp [jsonText, getD, encodeStateUpdate, lookup_withMilliseconds, Table.lookup_cons, Text.str]
  unfold decodeStateUpdate
  rw [requiredText_ok (by simp [encodeStateUpdate, lookup_withMilliseconds, Table.lookup_cons])
      entity,
    requiredText_ok (by simp [encodeStateUpdate, lookup_withMilliseconds, Table.lookup_cons]) key,
    requiredText_ok (by simp [encodeStateUpdate, lookup_withMilliseconds, Table.lookup_cons])
      producer, texts]
  simp [jsonGet, getD, encodeStateUpdate, lookup_withMilliseconds, Table.lookup_cons,
    datetimeOf_timestampText, authorityOf_rank, semanticOf_value, sourceRefOf_encode referenced,
    correlationOf_encode, intOrNone_encode, Text.int, Text.float, dated]
  cases durationOf text (milliseconds update.ttl) <;> rfl

/-- The decoder reads every field of a sent update but its lifetime. -/
theorem decode_encode_state {update : StateUpdate} {lifetime : Option Nat}
    (sendable : SendableState update clock lifetime) :
    decodeStateUpdate text now (encodeStateUpdate other update clock) =
      (durationOf text (milliseconds update.ttl)).map fun ttl => ({ update with ttl := ttl }, clock) := by
  rw [decode_encode_value sendable.named sendable.referenced sendable.dated,
    toJsonable_of_isJson other update.value sendable.json]

theorem decode_encode_relation {update : RelationUpdate} {lifetime : Option Nat}
    (sendable : SendableRelation update clock lifetime) :
    decodeRelationUpdate text now (encodeRelationUpdate other update clock) =
      (durationOf text (milliseconds update.ttl)).map fun ttl => ({ update with ttl := ttl }, clock) := by
  obtain ⟨⟨source, relation, target, producer⟩, json, dated, aware, _, _⟩ := sendable
  have zone : update.zone = clock.offset.getD 0 := by rw [aware]; rfl
  have texts : jsonText text (encodeRelationUpdate other update clock) "idempotency_key" "" =
      update.idempotencyKey := by
    simp [jsonText, getD, encodeRelationUpdate, lookup_withMilliseconds, Table.lookup_cons, Text.str]
  unfold decodeRelationUpdate
  rw [requiredText_ok (by simp [encodeRelationUpdate, lookup_withMilliseconds, Table.lookup_cons])
      source,
    requiredText_ok (by simp [encodeRelationUpdate, lookup_withMilliseconds, Table.lookup_cons])
      relation,
    requiredText_ok (by simp [encodeRelationUpdate, lookup_withMilliseconds, Table.lookup_cons])
      target,
    requiredText_ok (by simp [encodeRelationUpdate, lookup_withMilliseconds, Table.lookup_cons])
      producer, texts]
  simp [jsonGet, getD, encodeRelationUpdate, lookup_withMilliseconds, Table.lookup_cons,
    datetimeOf_timestampText, authorityOf_rank, intOrNone_encode, mappingOf,
    toJsonableEntries_of_isJson other update.attributes json, Text.int, dated, zone]
  cases durationOf text (milliseconds update.ttl) <;> rfl

theorem decode_encode_heartbeat {beat : Heartbeat} {lifetime : Nat}
    (sendable : SendableHeartbeat beat clock lifetime) :
    decodeHeartbeat text now (encodeHeartbeat beat clock) =
      (durationOf text (milliseconds (some beat.ttl))).map fun ttl =>
        ({ beat with ttl := heartbeatTtl ttl }, clock) := by
  obtain ⟨⟨subject, producer⟩, dated, aware, _, _⟩ := sendable
  have zone : beat.zone = clock.offset.getD 0 := by rw [aware]; rfl
  have watermark : jsonText text (encodeHeartbeat beat clock) "source_watermark" "" =
      beat.sourceWatermark := by
    simp [jsonText, getD, encodeHeartbeat, lookup_withMilliseconds, Table.lookup_cons, Text.str]
  have version : jsonText text (encodeHeartbeat beat clock) "schema_version" "1.1" =
      beat.schemaVersion := by
    simp [jsonText, getD, encodeHeartbeat, lookup_withMilliseconds, Table.lookup_cons, Text.str]
  unfold decodeHeartbeat
  rw [requiredText_ok (by simp [encodeHeartbeat, lookup_withMilliseconds, Table.lookup_cons])
      subject,
    requiredText_ok (by simp [encodeHeartbeat, lookup_withMilliseconds, Table.lookup_cons])
      producer, watermark, version]
  simp [jsonGet, getD, encodeHeartbeat, lookup_withMilliseconds, Table.lookup_cons,
    datetimeOf_timestampText, dated, zone]
  cases durationOf text (milliseconds (some beat.ttl)) <;> rfl

theorem map_ttl_iff {U V : Type} {result : Except Exception U} {build : U → V} {ttl : U}
    (injective : ∀ first second, build first = build second → first = second) :
    result.map build = .ok (build ttl) ↔ result = .ok ttl := by
  cases result with
  | error exception => exact ⟨fun same => (by cases same), fun same => (by cases same)⟩
  | ok found =>
      refine ⟨fun same => ?_, fun same => by rw [same]; rfl⟩
      rw [injective _ _ (Except.ok.inj same)]

/-- A heartbeat comes back exactly when its lifetime is positive and survives. -/
theorem heartbeatTtl_iff {lifetime : Nat} (bounded : (lifetime : Int) * 1000 ≤ maxTimedelta) :
    (∃ ttl, durationOf text (milliseconds (some ((lifetime : Int) * 1000))) = .ok ttl ∧
      heartbeatTtl ttl = lifetime * 1000) ↔ lifetime ≠ 0 ∧ Survives lifetime := by
  have kept := @durationOf_milliseconds text (some lifetime) (by simpa using bounded)
  simp only [wholeTtl, Option.map_some, Option.mem_def, Option.some.injEq, forall_eq'] at kept
  constructor
  · rintro ⟨ttl, read, same⟩
    have found := read
    rw [milliseconds_whole] at found
    change durationMs (some (throughSeconds lifetime)) = .ok ttl at found
    obtain ⟨micros, bound, answer⟩ := except_bind_ok found
    cases answer
    have count : micros = throughSeconds lifetime * 1000 := by
      rw [max_eq_right throughSeconds_nonneg, timedeltaOfMs] at bound
      split at bound
      · exact (Except.ok.inj bound).symm
      · cases bound
    by_cases zero : micros = 0
    · subst zero
      have fixed : lifetime = 10000 := by
        change (10000000 : Int) = lifetime * 1000 at same
        omega
      subst fixed
      have survives : throughSeconds 10000 = (10000 : Nat) :=
        (throughSeconds_eq_iff (by norm_num)).mpr (by decide)
      omega
    · have whole : heartbeatTtl (some micros) = micros := by
        unfold heartbeatTtl
        split
        · rename_i same
          cases same
        · rename_i same
          exact absurd (Option.some.inj same) zero
        · rename_i same
          exact (Option.some.inj same).symm
      rw [whole] at same
      subst same
      exact ⟨by rintro rfl; exact zero rfl, kept.mp read⟩
  · rintro ⟨positive, survives⟩
    refine ⟨_, kept.mpr survives, ?_⟩
    unfold heartbeatTtl
    split
    · rename_i same
      cases same
    · rename_i same
      have zero := Option.some.inj same
      omega
    · rename_i same
      exact (Option.some.inj same).symm

end Records

/-- A sent record comes back exactly when its milliseconds survive the seconds. A heartbeat also
needs a lifetime. -/
theorem wire_round_trip_iff (text : Text) (now clock : DateTime) (other : Value → Value) :
    (∀ update lifetime, SendableState update clock lifetime →
      (decodeStateUpdate text now (encodeStateUpdate other update clock) = .ok (update, clock) ↔
        ∀ count ∈ lifetime, Survives count)) ∧
    (∀ update lifetime, SendableRelation update clock lifetime →
      (decodeRelationUpdate text now (encodeRelationUpdate other update clock) =
          .ok (update, clock) ↔ ∀ count ∈ lifetime, Survives count)) ∧
    (∀ beat lifetime, SendableHeartbeat beat clock lifetime →
      (decodeHeartbeat text now (encodeHeartbeat beat clock) = .ok (beat, clock) ↔
        lifetime ≠ 0 ∧ Survives lifetime)) := by
  refine ⟨fun update lifetime sendable => ?_, fun update lifetime sendable => ?_,
    fun beat lifetime sendable => ?_⟩
  · rw [decode_encode_state sendable, ← @durationOf_milliseconds text lifetime sendable.bounded,
      ← sendable.whole]
    exact @map_ttl_iff _ _ _ (fun ttl => ({ update with ttl := ttl }, clock)) _ fun _ _ same =>
      congrArg (fun pair => pair.1.ttl) same
  · rw [decode_encode_relation sendable, ← @durationOf_milliseconds text lifetime sendable.bounded,
      ← sendable.whole]
    exact @map_ttl_iff _ _ _ (fun ttl => ({ update with ttl := ttl }, clock)) _ fun _ _ same =>
      congrArg (fun pair => pair.1.ttl) same
  · rw [decode_encode_heartbeat sendable, ← @heartbeatTtl_iff text lifetime sendable.bounded,
      ← sendable.whole]
    cases durationOf text (milliseconds (some beat.ttl)) with
    | error exception => exact ⟨fun same => (by cases same), fun ⟨_, read, _⟩ => (by cases read)⟩
    | ok ttl =>
        constructor
        · intro same
          exact ⟨ttl, rfl, congrArg (fun pair => pair.1.ttl) (Except.ok.inj same)⟩
        · rintro ⟨other, read, same⟩
          cases read
          exact congrArg Except.ok (by simp only [same])

/-- The first instant of the epoch in UTC. -/
def epochClock : DateTime := ⟨1970, 1, 1, 0, 0, 0, 0, some 0, by decide⟩

/-- A heartbeat of an adapter at the epoch. -/
def epochBeat (lifetime : Nat) : Heartbeat :=
  { subjectRef := "component/component/a", producer := "a", timestamp := 0, ttl := lifetime * 1000 }

theorem epochClock_instant : epochClock.instant = 0 := by decide

theorem epochBeat_sendable {lifetime : Nat} (bounded : (lifetime : Int) * 1000 ≤ maxTimedelta) :
    SendableHeartbeat (epochBeat lifetime) epochClock lifetime :=
  ⟨⟨by simp [epochBeat], by simp [epochBeat]⟩, epochClock_instant.symm, rfl, rfl, bounded⟩

theorem wire_round_trip_of_beat :
    decodeHeartbeat asciiText epochClock (encodeHeartbeat (epochBeat 1500) epochClock) =
      .ok (epochBeat 1500, epochClock) :=
  ((wire_round_trip_iff asciiText epochClock epochClock id).2.2 (epochBeat 1500) 1500
    (epochBeat_sendable (by decide))).mpr (by decide)

/-- The decoder replaces a zero lifetime by ten seconds, and a lifetime of 1001 milliseconds loses
one of them. -/
theorem wire_lifetime_lost :
    decodeHeartbeat asciiText epochClock (encodeHeartbeat (epochBeat 0) epochClock) =
        .ok (epochBeat 10000, epochClock) ∧
      decodeHeartbeat asciiText epochClock (encodeHeartbeat (epochBeat 1001) epochClock) ≠
        .ok (epochBeat 1001, epochClock) := by
  constructor
  · have read := (@durationOf_milliseconds asciiText (some 0) (by decide)).mpr (by decide)
    rw [decode_encode_heartbeat (epochBeat_sendable (by decide))]
    change (durationOf asciiText (milliseconds (wholeTtl (some 0)))).map _ = _
    rw [read]
    rfl
  · intro kept
    have lifetime := @heartbeatTtl_iff asciiText 1001 (by decide)
    rw [decode_encode_heartbeat (epochBeat_sendable (by decide))] at kept
    change (durationOf asciiText (milliseconds (some ((1001 : Nat) * 1000)))).map _ = _ at kept
    refine absurd (lifetime.mp ?_).2 (by decide)
    cases read : durationOf asciiText (milliseconds (some ((1001 : Nat) * 1000))) with
    | error exception => rw [read] at kept; cases kept
    | ok ttl =>
        rw [read] at kept
        exact ⟨ttl, rfl, congrArg (fun pair => pair.1.ttl) (Except.ok.inj kept)⟩

end StateFlow.Plane
