import StateFlow.Construction.Gateway.Server
import StateFlow.Proof.Gateway.Prompts
import StateFlow.Proof.State.Event

namespace StateFlow.Gateway
open Python Table Effect State Scheduler

section Headers
variable (text : Text) (fields : List (String × String))

/-- The first header of a name in any case. -/
def firstHeader (name : String) : Option String :=
  (fields.find? fun field => text.lower field.1 = text.lower name).map Prod.snd

/-- The table of a message has the names that were read, each with its first header. -/
structure Gathers (seen table : List (String × String)) : Prop where
  all : ∀ field ∈ seen, (table.lookup field.1).isSome = true
  first : ∀ entry ∈ table, firstHeader text fields entry.1 = some entry.2

variable {text fields}

theorem firstHeader_some {field : String × String} (member : field ∈ fields) :
    ∃ value, firstHeader text fields field.1 = some value := by
  have present : (fields.find? fun other => text.lower other.1 = text.lower field.1).isSome = true := by
    rw [List.find?_isSome]
    exact ⟨field, member, decide_eq_true rfl⟩
  obtain ⟨found, known⟩ := Option.isSome_iff_exists.mp present
  exact ⟨found.2, congrArg (Option.map Prod.snd) known⟩

theorem firstHeader_congr {first second : String} (same : text.lower first = text.lower second) :
    firstHeader text fields first = firstHeader text fields second := by
  unfold firstHeader
  rw [same]

/-- One more header of a message. -/
theorem Gathers.assign {seen table : List (String × String)} (gathers : Gathers text fields seen table)
    {field : String × String} (member : field ∈ fields) :
    Gathers text fields (seen ++ [field])
      (assign field.1 ((firstHeader text fields field.1).getD field.2) table) := by
  obtain ⟨value, first⟩ := @firstHeader_some text fields field member
  rw [first, Option.getD_some]
  constructor
  · intro other inside
    rw [lookup_assign]
    split
    · rfl
    · rename_i apart
      rcases List.mem_append.mp inside with earlier | last
      · exact gathers.all other earlier
      · exact absurd (congrArg Prod.fst (List.mem_singleton.mp last)) apart
  · intro entry inside
    rcases mem_assign inside with rfl | earlier
    · exact first
    · exact gathers.first entry earlier

theorem gathers_messageDict : Gathers text fields fields (messageDict text fields) := by
  have each : ∀ rest seen table, (∀ field ∈ rest, field ∈ fields) → Gathers text fields seen table →
      Gathers text fields (seen ++ rest) (rest.foldl (fun table field =>
        Table.assign field.1 ((firstHeader text fields field.1).getD field.2) table) table) := by
    intro rest
    induction rest with
    | nil =>
        intro seen table _ gathers
        rwa [List.append_nil]
    | cons field rest ih =>
        intro seen table inside gathers
        have next := ih (seen ++ [field]) _ (fun other member => inside other (List.mem_cons_of_mem _ member))
          (gathers.assign (inside field List.mem_cons_self))
        rwa [List.append_assoc] at next
  exact each fields [] [] (fun _ member => member)
    ⟨fun _ inside => by (cases inside), fun _ inside => by (cases inside)⟩

/-- A repeated header counts by its first occurrence, whatever the case of its name. -/
theorem header_messageDict (names : List String) :
    header text (messageDict text fields) names =
      (names.findSome? (firstHeader text fields)).getD "" := by
  have gathers := @gathers_messageDict text fields
  induction names with
  | nil => rfl
  | cons name names ih =>
      unfold header
      cases found : (messageDict text fields).reverse.find? fun entry =>
          text.lower entry.1 = text.lower name with
      | some entry =>
          have listed := List.mem_reverse.mp (List.mem_of_find?_eq_some found)
          have same : text.lower entry.1 = text.lower name := by
            simpa using List.find?_some found
          rw [List.findSome?_cons, ← firstHeader_congr same, gathers.first entry listed]
          rfl
      | none =>
          have absent : firstHeader text fields name = none := by
            unfold firstHeader
            rw [Option.map_eq_none_iff, List.find?_eq_none]
            intro field member same
            obtain ⟨value, known⟩ := Option.isSome_iff_exists.mp (gathers.all field member)
            exact List.find?_eq_none.mp found _ (List.mem_reverse.mpr (mem_of_lookup known)) same
          rw [List.findSome?_cons, absent]
          exact ih

end Headers

section Serve
variable {gateway : RequestGateway} {backends : BackendRegistry} {received : Received}
  {written : HttpResponse → Except Exception Unit}

/-- The report of a request, when it has one, has declared types. -/
def Received.Typed (env : Environment) (received : Received) : Prop :=
  ∀ entries fields event, received.body = .json (.dict entries) →
    fromMapping received.now entries = .ok fields → eventOf fields = some event → TypedEvent env event

/-- Reads and model calls promise nothing. -/
def HttpRequest.Typed (env : Environment) : HttpRequest → Prop
  | .fetch _ => True
  | .post received => received.path = "/v1/state/events" → received.Typed env

theorem keeps_postEvent {entries : List (String × Value)}
    (typed : ∀ fields event, fromMapping received.now entries = .ok fields →
      eventOf fields = some event → TypedEvent gateway.env event) :
    Keeps TypedStore (postEvent gateway received entries) fun _ => True := by
  unfold postEvent
  refine keeps_lift_bind fun fields read => ?_
  split
  · rename_i event known
    exact keeps_bind (keeps_appendEvent (typed fields event read known)) fun _ _ => keeps_pure trivial
  · exact keeps_throw _

variable (names : KeepsNames gateway.env)
include names

/-- A request that normalizes is answered from every typed store, or the scheduler raises on its view. -/
theorem submit_cases {call : ModelCall} {normalized : NormalizedRequest}
    {request : ProviderNeutralRequest} (normal : call.normalize gateway.env.toText = .ok normalized)
    (neutral : normalized.neutral = some request) {store : Store} (inside : TypedStore store) :
    (∃ response last, submit gateway backends call store = .ok response last ∧ TypedStore last) ∨
    ∃ exception recorded, ScheduleRaises (gateway.through backends normalized) call.moment request
        recorded exception ∧
      submit gateway backends call store = .error exception recorded ∧ TypedStore recorded := by
  rw [submit_neutral normal neutral]
  rcases @handle_cases (gateway.through backends normalized) call.moment request names store inside with
    answered | ⟨exception, recorded, _, raises⟩
  · exact .inl answered
  · exact .inr ⟨exception, recorded, raises⟩

theorem keeps_submit (call : ModelCall) :
    Keeps TypedStore (submit gateway backends call) fun _ => True := by
  cases normal : call.normalize gateway.env.toText with
  | error exception =>
      unfold submit
      rw [normal]
      exact keeps_throw exception
  | ok normalized =>
      cases neutral : normalized.neutral with
      | none =>
          rw [submit_untyped normal neutral]
          exact keeps_throw _
      | some request =>
          intro store inside
          rcases submit_cases names normal neutral inside with
            ⟨response, last, ran, kept⟩ | ⟨exception, recorded, _, ran, kept⟩
          · rw [ran]
            exact ⟨kept, trivial⟩
          · rw [ran]
            exact kept

theorem keeps_respond (typed : received.path = "/v1/state/events" → received.Typed gateway.env) :
    Keeps TypedStore (respond gateway backends received) fun _ => True := by
  unfold respond
  refine keeps_lift_bind fun entries read => ?_
  refine keeps_ite (fun events => keeps_postEvent fun fields event parsed known => ?_) fun _ => ?_
  · refine typed events entries fields event ?_ parsed known
    cases body : received.body with
    | json value =>
        rw [body] at read
        cases value with
        | dict found =>
            cases read
            rfl
        | _ => cases read
    | _ =>
        rw [body] at read
        cases read
  · exact keeps_ite (fun _ => keeps_bind (keeps_submit names _) fun _ _ => keeps_pure trivial)
      fun _ => keeps_pure trivial

theorem keeps_request {request : HttpRequest} (typed : request.Typed gateway.env) :
    Within (Frame.keeps TypedStore) (request.run gateway backends written) := by
  intro store inside
  cases request with
  | fetch received =>
      change TypedStore (finalState ((lift (doGet gateway received written store) :
        EStateM Exception Store HttpResponse) store))
      cases doGet gateway received written store <;> exact inside
  | post received =>
      have kept := @keeps_respond gateway backends received names typed store inside
      change TypedStore (finalState (doPost gateway backends received store))
      unfold doPost
      cases ran : respond gateway backends received store with
      | ok response last =>
          rw [ran] at kept
          exact kept.1
      | error exception last =>
          rw [ran] at kept
          exact kept

end Serve

/-- The store that some requests reach. -/
def serveAll (gateway : RequestGateway) (backends : BackendRegistry)
    (written : HttpResponse → Except Exception Unit) (requests : List HttpRequest) : Store :=
  runAll (HttpRequest.run gateway backends written) requests Store.empty

/-- The endpoints of the model APIs -/
def modelPaths : List String := ["/v1/chat/completions", "/v1/responses", "/v1/messages"]

section Run
variable {gateway : RequestGateway} {backends : BackendRegistry} {received : Received}

/-- A read of a typed store has an answer. -/
theorem answerGet_answers {store : Store} (inside : TypedStore store) :
    ∃ response, answerGet gateway received store = .ok response ∧
      response.statusCode ∈ [200, 400, 404] := by
  unfold answerGet
  split
  · exact ⟨_, rfl, by simp⟩
  · split
    · dsimp only
      split
      · exact ⟨_, rfl, by simp⟩
      · obtain ⟨view, shown, _⟩ := @getSchedulingView_yields gateway.env store inside received.moment.viewed
          (received.parameter "session_id" "") (received.parameter "task_id" "default-task")
        rw [shown]
        exact ⟨⟨200, .view view⟩, rfl, by simp⟩
    · exact ⟨_, rfl, by simp⟩

/-- A model call runs through the gateway. -/
theorem respond_model {entries : List (String × Value)} (body : received.body = .json (.dict entries))
    (path : received.path ∈ modelPaths) : respond gateway backends received = (do
      let response ← submit gateway backends (received.call gateway.env.toText entries)
      return ⟨response.statusCode, .model response⟩) := by
  have apart : received.path ≠ "/v1/state/events" := by
    intro same
    rw [same] at path
    exact absurd path (by decide)
  unfold respond
  rw [body]
  change (if received.path = "/v1/state/events" then _ else _) = _
  rw [if_neg apart,
    if_pos (show received.path ∈ ["/v1/chat/completions", "/v1/responses", "/v1/messages"] from path)]

end Run

/-- A report with the clock of its observation. -/
structure Report where
  moment : Moment
  now : Int
  event : AgentStateEvent
  clock : Calendar.DateTime

/-- A client posts the wire form of its event. -/
def Report.received (other : Value → Value) (report : Report) : Received where
  moment := report.moment
  now := report.now
  unique := ""
  path := "/v1/state/events"
  body := .json (.dict (report.event.toDict other report.clock))

def Report.append (env : Environment) (report : Report) : EStateM Exception Store AppendResult :=
  appendEvent env report.moment.requested report.event

/-- The server answers a report with the result of the store or with a status. -/
def reportAnswer : Except Exception AppendResult → Except Exception HttpResponse
  | .ok result => .ok ⟨200, .appended result⟩
  | .error exception => .ok (failureOf exception)

section Demo

def demoReport : Report := ⟨firstMoment, 0, halfReport, Plane.epochClock⟩

/-- A report, then a call without a session. -/
def demoRequests : List HttpRequest :=
  [.post (demoReport.received id),
    .post { demoReport.received id with path := "/v1/messages", body := .json (.dict []) }]

end Demo

end StateFlow.Gateway
