import StateFlow.Proof.Adapters.Cluster
import StateFlow.Proof.Adapters.Quantities

namespace StateFlow.Adapters
open Python Table Effect Decimal Double

/-- The graphics processors of a container, before they are parsed. -/
def requestedGpu : Value → Option Value
  | .dict container =>
      match getD container "resources" (.dict []) with
      | .dict resources =>
          match ((getD resources "limits" .none).orElse (getD resources "requests" .none)).orElse
            (.dict []) with
          | .dict values => values.lookup "nvidia.com/gpu"
          | _ => none
      | _ => none
  | _ => none

/-- The quantities that the decoding of an object reads. -/
inductive Quantified (text : Text) (item : List (String × Value)) :
    Resource → Measure → Value → Prop
  | node {metadata status : List (String × Value)} {measure : Measure} {amount : String}
      (described : getD item "metadata" .none = .dict metadata)
      (named : textOf text metadata "name" "" ≠ "")
      (observed : getD item "status" .none = .dict status)
      (found : Allocates text (getD status "allocatable" .none) measure amount) :
      Quantified text item .nodes measure (.str amount)
  | pod {spec : List (String × Value)} {containers : List Value} {container amount : Value}
      (specified : getD item "spec" .none = .dict spec)
      (scheduled : textOf text spec "nodeName" "" ≠ "")
      (listed : iterated spec "containers" = .ok containers) (inside : container ∈ containers)
      (found : requestedGpu container = some amount) : Quantified text item .pods .gpu amount

/-- Nothing but a quantity can stop the decoding of this object, and its quantities are texts of
quantities. -/
structure Valid (text : Text) (resource : Resource) (change : ClusterChange) : Prop where
  described : ∃ metadata, getD change.item "metadata" .none = .dict metadata
  observed : ∃ status, getD change.item "status" .none = .dict status ∧
    ∃ ready, isReady text status = .ok ready
  specified : resource = .pods → ∃ spec, getD change.item "spec" .none = .dict spec ∧
    ∃ containers, iterated spec "containers" = .ok containers
  quantities : ∀ measure value, Quantified text change.item resource measure value →
    ∃ amount, value = .str amount ∧ IsQuantity amount

/-- The parsers know the suffix of each quantity of an object. -/
def AllKnown (text : Text) (resource : Resource) (item : List (String × Value)) : Prop :=
  ∀ measure amount, Quantified text item resource measure (.str amount) → Known measure amount

section Objects
variable {text : Text} {client : KubernetesSourceClient} {timestamp : Int} {change : ClusterChange}

theorem gated_raised {A : Type} {failure : Exception} {condition : Prop}
    {program : Except Exception A} (gated : Gated failure condition program) :
    Gated (.raised failure) condition (raised program) := by
  cases gated with
  | passes held value => exact .passes held value
  | fails broken => exact .fails broken

theorem containerGpu_eq (container : Value) : containerGpu text container =
    (requestedGpu container).elim (.ok none) fun amount => do return some (← text.float amount) := by
  cases container with
  | dict container =>
      unfold containerGpu requestedGpu
      dsimp only
      cases getD container "resources" (.dict []) with
      | dict resources =>
          dsimp only
          cases ((getD resources "limits" .none).orElse (getD resources "requests" .none)).orElse
              (.dict []) with
          | dict values =>
              dsimp only
              cases values.lookup "nvidia.com/gpu" <;> rfl
          | _ => rfl
      | _ => rfl
  | _ => rfl

theorem gated_podGpu (floats : Floats text) {spec : List (String × Value)} {containers : List Value}
    (listed : iterated spec "containers" = .ok containers)
    (valid : ∀ container ∈ containers, ∀ value, requestedGpu container = some value →
      ∃ amount, value = .str amount ∧ IsQuantity amount) :
    Gated .valueError (∀ container ∈ containers, ∀ amount,
      requestedGpu container = some (.str amount) → Known .gpu amount) (podGpu text spec) := by
  unfold podGpu
  refine gated_of_bind listed ?_
  have each : ∀ container ∈ containers, Gated .valueError
      (∀ amount, requestedGpu container = some (.str amount) → Known .gpu amount)
      (containerGpu text container) := by
    intro container inside
    rw [containerGpu_eq]
    cases requested : requestedGpu container with
    | none => exact .passes (by rintro amount ⟨⟩) none
    | some value =>
        obtain ⟨amount, rfl, quantity⟩ := valid container inside value requested
        have same : Known .gpu amount ↔
            ∀ other, some (Value.str amount) = some (.str other) → Known .gpu other :=
          ⟨fun held _ spelled => Value.str.inj (Option.some.inj spelled) ▸ held,
            fun all => all amount rfl⟩
        exact (gated_map (gated_parse floats .gpu quantity).of_map).congr same
  exact gated_map (gated_mapM each)

theorem quantified_node_iff {item metadata status : List (String × Value)} {measure : Measure}
    {amount : String} (described : getD item "metadata" .none = .dict metadata)
    (named : textOf text metadata "name" "" ≠ "")
    (observed : getD item "status" .none = .dict status) :
    Quantified text item .nodes measure (.str amount) ↔
      Allocates text (getD status "allocatable" .none) measure amount := by
  constructor
  · rintro ⟨_, _, again, found⟩
    cases observed.symm.trans again
    exact found
  · intro found
    exact .node described named observed found

theorem quantified_pod_iff {item spec : List (String × Value)} {containers : List Value}
    {measure : Measure} {value : Value} (specified : getD item "spec" .none = .dict spec)
    (scheduled : textOf text spec "nodeName" "" ≠ "")
    (listed : iterated spec "containers" = .ok containers) :
    Quantified text item .pods measure value ↔
      measure = .gpu ∧ ∃ container ∈ containers, requestedGpu container = some value := by
  constructor
  · rintro (_ | ⟨again, _, repeated, inside, found⟩)
    cases specified.symm.trans again
    cases listed.symm.trans repeated
    exact ⟨rfl, _, inside, found⟩
  · rintro ⟨rfl, container, inside, found⟩
    exact .pod specified scheduled listed inside found

/-- A valid node decodes exactly when its parsers know its quantities. -/
theorem gated_decodeNode (floats : Floats text) (valid : Valid text .nodes change) :
    Gated (.raised .valueError) (AllKnown text .nodes change.item)
      (decodeNode text client timestamp change.deleted change.item) := by
  obtain ⟨metadata, described⟩ := valid.described
  obtain ⟨status, observed, ready, answered⟩ := valid.observed
  obtain ⟨health, healthy⟩ : ∃ health, observedHealth text change.deleted status = .ok health := by
    unfold observedHealth
    split_ifs
    · exact ⟨_, rfl⟩
    · rw [answered]
      exact ⟨_, rfl⟩
  unfold decodeNode
  rw [described, observed]
  refine gated_of_bind rfl (gated_of_bind rfl ?_)
  dsimp only
  split_ifs with unnamed
  · refine .passes ?_ none
    rintro measure amount ⟨again, named, _, _⟩
    cases described.symm.trans again
    exact absurd unnamed named
  · have read {measure : Measure} {amount : String} :=
      @quantified_node_iff text change.item metadata status measure amount described unnamed
        observed
    have quantities : ∀ measure amount,
        Allocates text (getD status "allocatable" .none) measure amount → IsQuantity amount := by
      intro measure amount found
      obtain ⟨_, ⟨⟩, quantity⟩ := valid.quantities measure (.str amount) (read.mpr found)
      exact quantity
    refine gated_of_bind healthy
      (gated_map ((gated_raised (gated_allocatable floats quantities)).congr ?_))
    exact forall₂_congr fun measure amount => by rw [read]

theorem gated_decodePod (floats : Floats text) (valid : Valid text .pods change) :
    Gated (.raised .valueError) (AllKnown text .pods change.item)
      (decodePod text client timestamp change.deleted change.item) := by
  obtain ⟨metadata, described⟩ := valid.described
  obtain ⟨status, observed, ready, answered⟩ := valid.observed
  obtain ⟨spec, specified, containers, listed⟩ := valid.specified rfl
  obtain ⟨decided, ready⟩ : ∃ decided, observedReady text change.deleted status = .ok decided := by
    unfold observedReady
    split_ifs
    · exact ⟨_, rfl⟩
    · rw [answered]
      exact ⟨_, rfl⟩
  unfold decodePod
  rw [described, specified, observed]
  refine gated_of_bind rfl (gated_of_bind rfl (gated_of_bind rfl ?_))
  dsimp only
  split_ifs with unscheduled
  · refine .passes ?_ none
    rintro measure amount (_ | ⟨again, scheduled, _, _, _⟩)
    cases specified.symm.trans again
    exact absurd unscheduled scheduled
  · have read {measure : Measure} {value : Value} :=
      @quantified_pod_iff text change.item spec containers measure value specified unscheduled
        listed
    have quantities : ∀ container ∈ containers, ∀ value, requestedGpu container = some value →
        ∃ amount, value = .str amount ∧ IsQuantity amount := fun container inside value found =>
      valid.quantities .gpu value (read.mpr ⟨rfl, container, inside, found⟩)
    refine gated_of_bind ready
      (gated_map ((gated_raised (gated_podGpu floats listed quantities)).congr ?_))
    constructor
    · intro known measure amount found
      obtain ⟨rfl, container, inside, requested⟩ := read.mp found
      exact known container inside amount requested
    · intro known container inside amount requested
      exact known .gpu amount (read.mpr ⟨rfl, container, inside, requested⟩)

/-- A valid object decodes exactly when its parsers know its quantities. -/
theorem gated_decodeChange (floats : Floats text) {resource : Resource}
    (valid : Valid text resource change) :
    Gated (.raised .valueError) (AllKnown text resource change.item)
      (decodeChange text client timestamp change resource) := by
  cases resource with
  | nodes => exact gated_decodeNode floats valid
  | pods => exact gated_decodePod floats valid

/-- A list decodes exactly when the parsers know the quantities of all of its objects. -/
theorem gated_decode (floats : Floats text) {deleted : Bool} {nodePayload podPayload : Value}
    {nodes pods : List (List (String × Value))} (listed : listItems nodePayload = .ok nodes)
    (also : listItems podPayload = .ok pods)
    (validNodes : ∀ node ∈ nodes, Valid text .nodes ⟨node, deleted⟩)
    (validPods : ∀ pod ∈ pods, Valid text .pods ⟨pod, deleted⟩) :
    Gated (.raised .valueError)
      ((∀ node ∈ nodes, AllKnown text .nodes node) ∧ ∀ pod ∈ pods, AllKnown text .pods pod)
      (decode text client timestamp deleted nodePayload podPayload) := by
  unfold decode
  refine gated_of_bind listed (gated_of_bind also ?_)
  apply gated_bind
  · exact gated_mapM fun node inside => gated_decodeNode floats (validNodes node inside)
  · intro nodeObservations _
    exact gated_map (gated_mapM fun pod inside => gated_decodePod floats (validPods pod inside))

end Objects

section Events
variable {text : Text} {client : KubernetesSourceClient}

/-- An event is a bookmark, or it carries a valid object. -/
def ValidEvent (text : Text) (resource : Resource) (event : List (String × Value)) : Prop :=
  eventType text event = "BOOKMARK" ∨
    eventType text event ∈ ["ADDED", "MODIFIED", "DELETED"] ∧
      Valid text resource ⟨eventObject event, decide (eventType text event = "DELETED")⟩

/-- A bookmark has no quantities. -/
def EventKnown (text : Text) (resource : Resource) (event : List (String × Value)) : Prop :=
  eventType text event ≠ "BOOKMARK" → AllKnown text resource (eventObject event)

theorem gated_decodeResource (floats : Floats text) {timestamp : Int} {resource : Resource}
    {change : ClusterChange} (valid : Valid text resource change) :
    Gated (.raised .valueError) (AllKnown text resource change.item)
      (decodeResource text client timestamp change.deleted resource (.dict change.item)) := by
  rw [decodeResource_eq]
  exact gated_map (gated_decodeChange floats valid)

/-- A valid event is read exactly when the parsers know the quantities of its object. -/
theorem gated_watchEvent (floats : Floats text) {timestamp : Int} {resource : Resource}
    {event : List (String × Value)} (valid : ValidEvent text resource event)
    (progress : WatchProgress) :
    Gated (.raised .valueError) (EventKnown text resource event)
      (watchEvent text client timestamp resource progress event) := by
  unfold ValidEvent eventType at valid
  unfold EventKnown eventType watchEvent
  dsimp only
  rcases valid with marked | ⟨typed, valid⟩
  · rw [if_neg (by rw [marked]; decide), if_pos marked]
    exact .passes (fun moving => absurd marked moving) _
  · have correct : text.upper (textOf text event "type" "") ≠ "ERROR" := by
      intro wrong
      rw [wrong] at typed
      exact absurd typed (by decide)
    have moving : text.upper (textOf text event "type" "") ≠ "BOOKMARK" := by
      intro wrong
      rw [wrong] at typed
      exact absurd typed (by decide)
    rw [if_neg correct, if_neg moving, if_neg (not_not.mpr typed)]
    have gate := @gated_decodeResource text client floats timestamp resource _ valid
    exact (gated_map gate).congr ⟨fun known _ => known, fun known => known moving⟩

/-- The events of a watch are read exactly when the parsers know the quantities of their objects. -/
theorem gated_watchResource (floats : Floats text) {answers : ApiAnswers} {resource : Resource}
    {version : String} {values : List Value} {events : List (List (String × Value))}
    (answered : answers.watch resource version = .ok values)
    (mapped : values.mapM mapping = .ok events)
    (valid : ∀ event ∈ events, ValidEvent text resource event) :
    Gated (.raised .valueError) (∀ event ∈ events, EventKnown text resource event)
      (watchResource text client answers resource version) := by
  unfold watchResource
  refine gated_of_bind answered (gated_of_bind mapped ?_)
  exact gated_foldlM
    (fun event inside progress => gated_watchEvent floats (valid event inside) progress) _

/-- The events behind the versions of a cursor. -/
structure EventsBehind (text : Text) (answers : ApiAnswers) (cursor : KubernetesWatchCursor)
    (events : Resource → List (List (String × Value))) : Prop where
  initialized : cursor.initialized = true
  answered : ∀ resource, ∃ values,
    answers.watch resource (cursor.version resource) = .ok values ∧
      values.mapM mapping = .ok (events resource)
  valid : ∀ resource, ∀ event ∈ events resource, ValidEvent text resource event

/-- A batch is collected exactly when the parsers know the quantities of all objects. -/
theorem gated_collectBatch (floats : Floats text) {answers : ApiAnswers}
    {cursor : KubernetesWatchCursor} {events : Resource → List (List (String × Value))}
    (watched : EventsBehind text answers cursor events) :
    Gated (.raised .valueError)
      (∀ resource, ∀ event ∈ events resource, EventKnown text resource event)
      (collectBatch text client answers cursor) := by
  have each (resource : Resource) :
      Gated (.raised .valueError) (∀ event ∈ events resource, EventKnown text resource event)
        (watchResource text client answers resource (cursor.version resource)) := by
    obtain ⟨values, answered, mapped⟩ := watched.answered resource
    exact gated_watchResource floats answered mapped (watched.valid resource)
  have parts : Gated (.raised .valueError)
      ((∀ event ∈ events .nodes, EventKnown text .nodes event) ∧
        ∀ event ∈ events .pods, EventKnown text .pods event)
      (watchBoth text client answers cursor) :=
    gated_bind (each .nodes) fun _ _ => gated_map (each .pods)
  unfold collectBatch
  rw [if_pos watched.initialized]
  generalize watchBoth text client answers cursor = batch at parts
  have split : ((∀ event ∈ events .nodes, EventKnown text .nodes event) ∧
      ∀ event ∈ events .pods, EventKnown text .pods event) ↔
      ∀ resource, ∀ event ∈ events resource, EventKnown text resource event := by
    refine ⟨?_, fun all => ⟨all .nodes, all .pods⟩⟩
    rintro ⟨nodes, pods⟩ (_ | _)
    · exact nodes
    · exact pods
  refine Gated.congr ?_ split
  -- An unknown suffix is no expiry, and the poll does not list again.
  cases parts with
  | passes held value => exact .passes held value
  | fails broken => exact .fails broken

end Events

/-- A parser accepts a quantity exactly when it knows the suffix. It returns the exact value when the
scaled number also rounds to it. A list or a batch decodes exactly when the parsers know every suffix
in it. -/
theorem quantities_read_iff {text : Text} (floats : Floats text) :
    (∀ (measure : Measure) (quantity : Quantity),
      (∃ value, measure.parse text quantity.text = .ok value) ↔
        measure.knows quantity.suffix = true) ∧
    (∀ (measure : Measure) (quantity : Quantity),
      measure.parse text quantity.text = .ok (measure.exact quantity) ↔
        measure.knows quantity.suffix = true ∧ Keeps measure quantity) ∧
    (∀ (client : KubernetesSourceClient) (timestamp : Int) (deleted : Bool)
      (nodePayload podPayload : Value) (nodes pods : List (List (String × Value))),
      listItems nodePayload = .ok nodes → listItems podPayload = .ok pods →
      (∀ node ∈ nodes, Valid text .nodes ⟨node, deleted⟩) →
      (∀ pod ∈ pods, Valid text .pods ⟨pod, deleted⟩) →
      ((∃ observations,
          decode text client timestamp deleted nodePayload podPayload = .ok observations) ↔
        (∀ node ∈ nodes, AllKnown text .nodes node) ∧ ∀ pod ∈ pods, AllKnown text .pods pod)) ∧
    ∀ (client : KubernetesSourceClient) (answers : ApiAnswers) (cursor : KubernetesWatchCursor)
      (events : Resource → List (List (String × Value))), EventsBehind text answers cursor events →
      ((∃ batch, collectBatch text client answers cursor = .ok batch) ↔
        ∀ resource, ∀ event ∈ events resource, EventKnown text resource event) := by
  refine ⟨?_, fun measure quantity => parse_exact_iff floats, ?_, ?_⟩
  · intro measure quantity
    rw [parse_quantity quantity floats]
    split_ifs with known
    · exact iff_of_true ⟨_, rfl⟩ known
    · exact iff_of_false (by rintro ⟨value, ⟨⟩⟩) known
  · intro client timestamp deleted nodePayload podPayload nodes pods listed also validNodes validPods
    exact (gated_decode floats listed also validNodes validPods).returns_iff
  · intro client answers cursor events watched
    exact (gated_collectBatch floats watched).returns_iff

section Instances

/-- This interpreter of texts reads decimal literals. -/
def decimalText : Text :=
  { asciiText with
    parseFloat := fun text => (readLiteral text.toList).map fun literal => nearest literal.value }

theorem floats_decimalText : Floats decimalText where
  literal literal _ := by
    change (readLiteral (String.ofList literal.letters).toList).map _ = _
    rw [String.toList_ofList, readLiteral_eq_some_iff.mpr rfl]
    rfl
  suffix front letter known := by
    have strange : suffixEnds.all foreign = true := by decide
    change (readLiteral (String.ofList (front ++ [letter])).toList).map _ = _
    rw [String.toList_ofList, readLiteral_of_last (List.all_eq_true.mp strange letter known)]
    rfl

/-- One gibibyte. -/
def gibibyte : Quantity where
  number := ⟨.absent, ⟨['1'], rfl⟩, none, by decide⟩
  suffix := .gibi
  bounded := by decide +kernel
  precise := ⟨1024 ^ 3 * 1000, by decide +kernel⟩

def pebibyte : Quantity where
  number := ⟨.absent, ⟨['1'], rfl⟩, none, by decide⟩
  suffix := .pebi
  bounded := by decide +kernel
  precise := ⟨1024 ^ 5 * 1000, by decide +kernel⟩

def kilobyte : Quantity where
  number := ⟨.absent, ⟨['1'], rfl⟩, none, by decide⟩
  suffix := .kilo
  bounded := by decide +kernel
  precise := ⟨1000 * 1000, by decide +kernel⟩

/-- The double of this number of megabytes is below it. -/
def megabytes : Quantity where
  number := ⟨.absent, ⟨['1'], rfl⟩, some ⟨['0', '0', '1'], rfl⟩, by decide⟩
  suffix := .mega
  bounded := by decide +kernel
  precise := ⟨1001000 * 1000, by decide +kernel⟩

/-- A ready node that reports its memory. -/
def memoryNode (memory : String) : List (String × Value) :=
  [("metadata", .dict [("name", .str "node")]),
    ("status", .dict [("allocatable", .dict [("memory", .str memory)]), ("phase", .str "Running")])]

theorem valid_memoryNode {memory : String} (quantity : IsQuantity memory) (deleted : Bool) :
    Valid decimalText .nodes ⟨memoryNode memory, deleted⟩ where
  described := ⟨_, rfl⟩
  observed := ⟨_, rfl, _, rfl⟩
  specified := by rintro ⟨⟩
  quantities := by
    rintro measure value ⟨_, _, observed, found⟩
    cases observed
    refine ⟨_, rfl, ?_⟩
    cases measure with
    | memory =>
        cases found
        exact quantity
    | cpu => cases found
    | gpu => cases found

theorem known_memoryNode {quantity : Quantity}
    (known : Measure.memory.knows quantity.suffix = true) :
    AllKnown decimalText .nodes (memoryNode quantity.text) := by
  rintro measure amount ⟨_, _, observed, found⟩
  cases observed
  cases measure with
  | memory =>
      cases found
      exact ⟨quantity, rfl, known⟩
  | cpu => cases found
  | gpu => cases found

def addedNode (memory : String) : List (String × Value) :=
  [("type", .str "ADDED"), ("object", .dict (memoryNode memory))]

theorem eventType_addedNode (memory : String) :
    eventType decimalText (addedNode memory) = "ADDED" :=
  show String.toUpper "ADDED" = "ADDED" by decide +kernel

/-- The watch of the nodes reports one node. -/
def nodeAnswers (memory : String) : ApiAnswers where
  list _ := .error .client
  watch
    | .nodes, _ => .ok [.dict (addedNode memory)]
    | .pods, _ => .ok []
  clock := 0

def nodeEvents (memory : String) : Resource → List (List (String × Value))
  | .nodes => [addedNode memory]
  | .pods => []

theorem watched_nodeAnswers {memory : String} (quantity : IsQuantity memory) :
    EventsBehind decimalText (nodeAnswers memory) ⟨"1", "1"⟩ (nodeEvents memory) where
  initialized := rfl
  answered
    | .nodes => ⟨_, rfl, rfl⟩
    | .pods => ⟨_, rfl, rfl⟩
  valid
    | .nodes => by
        rintro event (_ | ⟨_, ⟨⟩⟩)
        exact .inr ⟨by rw [eventType_addedNode]; decide, valid_memoryNode quantity _⟩
    | .pods => by rintro event ⟨⟩

end Instances

theorem quantities_read_iff_gibibyte :
    gibibyte.text = "1Gi" ∧
    Measure.memory.parse decimalText gibibyte.text = .ok (.int (1024 ^ 3)) ∧
    (∃ observations, decode decimalText ⟨"cluster", ""⟩ 0 false
      (nodeList [.dict (memoryNode gibibyte.text)]) (podList []) = .ok observations) ∧
    ∃ batch, collectBatch decimalText ⟨"cluster", ""⟩ (nodeAnswers gibibyte.text) ⟨"1", "1"⟩ =
      .ok batch := by
  obtain ⟨_, exact_iff, decode_iff, batch_iff⟩ := quantities_read_iff floats_decimalText
  have known : Measure.memory.knows gibibyte.suffix = true := rfl
  refine ⟨by decide +kernel, ?_, ?_, ?_⟩
  · have keeps : Keeps .memory gibibyte := by
      unfold Keeps
      decide +kernel
    have read := (exact_iff .memory gibibyte).mpr ⟨known, keeps⟩
    have amount : Measure.memory.exact gibibyte = .int (1024 ^ 3) :=
      congrArg Value.int (by decide +kernel)
    rwa [amount] at read
  · apply (decode_iff ⟨"cluster", ""⟩ 0 false _ _ [memoryNode gibibyte.text] [] rfl rfl _ _).mpr
    · exact ⟨List.forall_mem_singleton.mpr (known_memoryNode known), by rintro pod ⟨⟩⟩
    · exact List.forall_mem_singleton.mpr (valid_memoryNode ⟨gibibyte, rfl⟩ false)
    · rintro pod ⟨⟩
  · apply (batch_iff _ _ _ _ (watched_nodeAnswers ⟨gibibyte, rfl⟩)).mpr
    rintro (_ | _) event inside
    · cases List.mem_singleton.mp inside
      exact fun _ => known_memoryNode known
    · cases inside

theorem unknown_memoryNode : ¬ AllKnown decimalText .nodes (memoryNode pebibyte.text) := by
  intro known
  have spelled : Known .memory pebibyte.text :=
    known .memory pebibyte.text (.node rfl (by decide) rfl rfl)
  have parsed := (gated_parse floats_decimalText .memory ⟨pebibyte, rfl⟩).returns_iff.mpr spelled
  rw [parse_quantity pebibyte floats_decimalText, if_neg (by decide)] at parsed
  obtain ⟨value, ⟨⟩⟩ := parsed

/-- One node with an unknown suffix loses the whole list and the whole batch, and a rounded number
loses a byte. -/
theorem quantities_misread :
    (pebibyte.text = "1Pi" ∧ kilobyte.text = "1k" ∧ megabytes.text = "1.001M") ∧
    (∀ measure : Measure, measure.parse decimalText pebibyte.text = .error .valueError ∧
      measure.parse decimalText kilobyte.text = .error .valueError) ∧
    decode decimalText ⟨"cluster", ""⟩ 0 false
      (nodeList [.dict (memoryNode gibibyte.text), .dict (memoryNode pebibyte.text)])
      (podList []) = .error (.raised .valueError) ∧
    collectBatch decimalText ⟨"cluster", ""⟩ (nodeAnswers pebibyte.text) ⟨"1", "1"⟩ =
      .error (.raised .valueError) ∧
    Measure.memory.parse decimalText megabytes.text = .ok (.int 1000999) ∧
    Measure.memory.exact megabytes = .int 1001000 := by
  refine ⟨by decide +kernel, ?_, ?_, ?_, ?_, congrArg Value.int (by decide +kernel)⟩
  · intro measure
    rw [parse_quantity pebibyte floats_decimalText, parse_quantity kilobyte floats_decimalText]
    cases measure <;> exact ⟨rfl, rfl⟩
  · refine (gated_decode floats_decimalText rfl rfl ?_ ?_).error
      (fun known => unknown_memoryNode (known.1 _ (List.mem_cons_of_mem _ List.mem_cons_self)))
    · intro node inside
      rcases List.mem_pair.mp inside with rfl | rfl
      · exact valid_memoryNode ⟨gibibyte, rfl⟩ false
      · exact valid_memoryNode ⟨pebibyte, rfl⟩ false
    · rintro pod ⟨⟩
  · refine (gated_collectBatch floats_decimalText (watched_nodeAnswers ⟨pebibyte, rfl⟩)).error ?_
    intro known
    have moving : eventType decimalText (addedNode pebibyte.text) ≠ "BOOKMARK" := by
      rw [eventType_addedNode]
      decide
    exact unknown_memoryNode (known .nodes _ List.mem_cons_self moving)
  · rw [parse_quantity megabytes floats_decimalText, if_pos (by decide)]
    exact congrArg (fun bytes => Except.ok (Value.int bytes)) (by decide +kernel)

end StateFlow.Adapters
