import Mathlib.Logic.Basic
import Mathlib.Data.List.Forall2
import Mathlib.Order.Defs.Unbundled

namespace StateFlow.Effect

variable {ε σ τ α β ι : Type}

/-- An exception keeps the state that the computation reached. -/
def finalState : EStateM.Result ε σ α → σ
  | .ok _ state => state
  | .error _ state => state

/-- A test of the returned value. An exception fails it. -/
def answersWith (test : α → Bool) : EStateM.Result ε σ α → Bool
  | .ok value _ => test value
  | .error _ _ => false

theorem returned_of_answers {test : α → Bool} {result : EStateM.Result ε σ α}
    (answers : answersWith test result = true) :
    ∃ value last, result = .ok value last ∧ test value = true := by
  cases result with
  | ok value last => exact ⟨value, last, rfl, answers⟩
  | error error last => cases answers

@[simp] theorem finalState_ok (value : α) (state : σ) :
    finalState (.ok value state : EStateM.Result ε σ α) = state := rfl

@[simp] theorem finalState_error (error : ε) (state : σ) :
    finalState (.error error state : EStateM.Result ε σ α) = state := rfl

/-- A frame relates each state to the states that a computation may leave behind. -/
structure Frame (σ : Type) where
  rel : σ → σ → Prop
  refl : ∀ state, rel state state
  trans : ∀ {first second third}, rel first second → rel second third → rel first third

/-- This frame keeps one observation. -/
def Frame.fixes (observe : σ → α) : Frame σ where
  rel before after := observe after = observe before
  refl _ := rfl
  trans first second := second.trans first

/-- This frame keeps one invariant. -/
def Frame.keeps (invariant : σ → Prop) : Frame σ where
  rel before after := invariant before → invariant after
  refl _ := id
  trans first second := second ∘ first

/-- This frame observes a part of the state. -/
def Frame.on (frame : Frame σ) (observe : τ → σ) : Frame τ where
  rel before after := frame.rel (observe before) (observe after)
  refl state := frame.refl (observe state)
  trans first second := frame.trans first second

@[simp] theorem Frame.fixes_rel (observe : σ → α) (before after : σ) :
    (Frame.fixes observe).rel before after ↔ observe after = observe before := Iff.rfl

@[simp] theorem Frame.keeps_rel (invariant : σ → Prop) (before after : σ) :
    (Frame.keeps invariant).rel before after ↔ (invariant before → invariant after) := Iff.rfl

/-- A computation stays inside a frame on both outcomes. -/
def Within (frame : Frame σ) (program : EStateM ε σ α) : Prop :=
  ∀ state, frame.rel state (finalState (program state))

section Within
variable {frame : Frame σ}

theorem within_pure (value : α) : Within frame (pure value : EStateM ε σ α) :=
  fun state => frame.refl state

theorem within_throw (error : ε) : Within frame (throw error : EStateM ε σ α) :=
  fun state => frame.refl state

theorem within_get : Within frame (get : EStateM ε σ σ) :=
  fun state => frame.refl state

theorem within_modify (update : σ → σ) (allowed : ∀ state, frame.rel state (update state)) :
    Within frame (modify update : EStateM ε σ Unit) :=
  fun state => allowed state

theorem within_bind {program : EStateM ε σ α} {next : α → EStateM ε σ β}
    (first : Within frame program) (rest : ∀ value, Within frame (next value)) :
    Within frame (program >>= next) := by
  intro state
  have reached := first state
  change frame.rel state (finalState (EStateM.bind program next state))
  unfold EStateM.bind
  cases outcome : program state with
  | ok value middle =>
      rw [outcome] at reached
      exact frame.trans reached (rest value middle)
  | error error middle =>
      rw [outcome] at reached
      exact reached

theorem within_seq {program : EStateM ε σ Unit} {next : EStateM ε σ β}
    (first : Within frame program) (rest : Within frame next) :
    Within frame (do program; next) :=
  within_bind first fun _ => rest

theorem within_ite {condition : Prop} [Decidable condition] {first second : EStateM ε σ α}
    (positive : condition → Within frame first) (negative : ¬ condition → Within frame second) :
    Within frame (if condition then first else second) := by
  split
  · exact positive ‹_›
  · exact negative ‹_›

theorem within_forM {items : List ι} {body : ι → EStateM ε σ PUnit}
    (each : ∀ item ∈ items, Within frame (body item)) :
    Within frame (items.forM body) := by
  induction items with
  | nil => exact within_pure _
  | cons item rest ih =>
      exact within_bind (each item List.mem_cons_self)
        fun _ => ih fun later member => each later (List.mem_cons_of_mem _ member)

theorem within_mapM {items : List ι} {body : ι → EStateM ε σ α}
    (each : ∀ item ∈ items, Within frame (body item)) : Within frame (items.mapM body) := by
  induction items with
  | nil => exact within_pure _
  | cons item rest ih =>
      rw [List.mapM_cons]
      apply within_bind (each item List.mem_cons_self)
      intro value
      apply within_bind (ih fun later member => each later (List.mem_cons_of_mem _ member))
      intro values
      exact within_pure _

/-- A computation that returned stayed inside its frame. -/
theorem Within.returned {program : EStateM ε σ α} (inside : Within frame program) {state last : σ}
    {value : α} (returned : program state = .ok value last) : frame.rel state last := by
  have reached := inside state
  rwa [returned] at reached

/-- A continuation that fixes an observation leaves it where the first computation ended. -/
theorem observe_bind {observe : σ → β} {program : EStateM ε σ α} {next : α → EStateM ε σ ι}
    (kept : ∀ value, Within (Frame.fixes observe) (next value)) (state : σ) :
    observe (finalState ((program >>= next) state)) = observe (finalState (program state)) := by
  change observe (finalState (EStateM.bind program next state)) = _
  unfold EStateM.bind
  cases program state with
  | error error middle => rfl
  | ok value middle => exact kept value middle

/-- A computation that fixes an observation returns with the same one. -/
theorem Within.fixed {observe : σ → β} {program : EStateM ε σ α} {state last : σ} {value : α}
    (inside : Within (Frame.fixes observe) program) (returned : program state = .ok value last) :
    observe last = observe state :=
  inside.returned returned

end Within

/-- A computation inside a frame is inside every weaker one. -/
theorem Within.mono {strong weak : Frame σ} {program : EStateM ε σ α}
    (implied : ∀ before after, strong.rel before after → weak.rel before after)
    (inside : Within strong program) : Within weak program :=
  fun state => implied _ _ (inside state)

/-- A computation returns normally from each state of its precondition. -/
def Returns (pre : σ → Prop) (program : EStateM ε σ α) (post : α → σ → Prop) : Prop :=
  ∀ state, pre state → ∃ value next, program state = .ok value next ∧ post value next

section Returns
variable {pre : σ → Prop}

theorem returns_pure {value : α} {post : α → σ → Prop} (holds : ∀ state, pre state → post value state) :
    Returns pre (pure value : EStateM ε σ α) post :=
  fun state start => ⟨value, state, rfl, holds state start⟩

theorem returns_bind {program : EStateM ε σ α} {next : α → EStateM ε σ β}
    {middle : α → σ → Prop} {post : β → σ → Prop}
    (first : Returns pre program middle) (rest : ∀ value, Returns (middle value) (next value) post) :
    Returns pre (program >>= next) post := by
  intro state start
  obtain ⟨value, between, ran, held⟩ := first state start
  obtain ⟨result, last, finished, final⟩ := rest value between held
  refine ⟨result, last, ?_, final⟩
  change EStateM.bind program next state = _
  simp only [EStateM.bind, ran, finished]

theorem returns_seq {program : EStateM ε σ Unit} {next : EStateM ε σ β}
    {middle : σ → Prop} {post : β → σ → Prop}
    (first : Returns pre program fun _ => middle) (rest : Returns middle next post) :
    Returns pre (do program; next) post :=
  returns_bind first fun _ => rest

theorem Returns.weaken {program : EStateM ε σ α} {strong weak : α → σ → Prop} {strongPre : σ → Prop}
    (total : Returns pre program strong) (starts : ∀ state, strongPre state → pre state)
    (ends : ∀ value state, strong value state → weak value state) :
    Returns strongPre program weak := by
  intro state start
  obtain ⟨value, next, ran, held⟩ := total state (starts state start)
  exact ⟨value, next, ran, ends value next held⟩

theorem returns_forM {items : List ι} {body : ι → EStateM ε σ PUnit} {invariant : σ → Prop}
    (each : ∀ item ∈ items, Returns invariant (body item) fun _ => invariant) :
    Returns invariant (items.forM body) fun _ => invariant := by
  induction items with
  | nil => exact returns_pure fun _ start => start
  | cons item rest ih =>
      exact returns_bind (each item List.mem_cons_self)
        fun _ => ih fun later member => each later (List.mem_cons_of_mem _ member)

theorem returns_mapM {items : List ι} {body : ι → EStateM ε σ α} {invariant : σ → Prop}
    (each : ∀ item ∈ items, Returns invariant (body item) fun _ => invariant) :
    Returns invariant (items.mapM body) fun _ => invariant := by
  induction items with
  | nil => exact returns_pure fun _ start => start
  | cons item rest ih =>
      rw [List.mapM_cons]
      apply returns_bind (each item List.mem_cons_self)
      intro value
      apply returns_bind (ih fun later member => each later (List.mem_cons_of_mem _ member))
      intro values
      exact returns_pure fun _ start => start

/-- A computation that returns to an invariant also keeps it. -/
theorem Returns.within {program : EStateM ε σ α}
    (total : Returns pre program fun _ => pre) : Within (Frame.keeps pre) program := by
  intro state start
  obtain ⟨value, next, ran, held⟩ := total state start
  rw [ran]
  exact held

/-- A computation that returns keeps what its frame keeps. -/
theorem Returns.frame {program : EStateM ε σ α} {post : α → σ → Prop} {frame : Frame σ}
    {kept : σ → Prop} (total : Returns pre program post) (inside : Within frame program)
    (stable : ∀ before after, frame.rel before after → kept before → kept after) :
    Returns (fun state => pre state ∧ kept state) program fun value state =>
      post value state ∧ kept state := by
  intro state ⟨start, held⟩
  obtain ⟨value, next, ran, final⟩ := total state start
  exact ⟨value, next, ran, final, stable _ _ (inside.returned ran) held⟩

end Returns

/-- A pure traversal returns when each of its items does. -/
theorem mapM_returns {body : ι → Except ε α} {items : List ι}
    (each : ∀ item ∈ items, ∃ value, body item = .ok value) :
    ∃ values, items.mapM body = .ok values := by
  induction items with
  | nil => exact ⟨[], rfl⟩
  | cons item rest ih =>
      obtain ⟨value, first⟩ := each item List.mem_cons_self
      obtain ⟨values, later⟩ := ih fun other inside => each other (List.mem_cons_of_mem _ inside)
      refine ⟨value :: values, ?_⟩
      rw [List.mapM_cons, first, later]
      rfl

/-- A computation that returned split into its parts. -/
theorem bind_ok {program : EStateM ε σ α} {next : α → EStateM ε σ β} {state last : σ} {result : β}
    (returned : (program >>= next) state = .ok result last) :
    ∃ value middle, program state = .ok value middle ∧ next value middle = .ok result last := by
  change EStateM.bind program next state = _ at returned
  unfold EStateM.bind at returned
  cases outcome : program state with
  | ok value middle =>
      rw [outcome] at returned
      exact ⟨value, middle, rfl, returned⟩
  | error error middle =>
      rw [outcome] at returned
      cases returned

/-- A sequence raises in its first part or in its second one. -/
theorem bind_raised {program : EStateM ε σ α} {next : α → EStateM ε σ β} {state last : σ} {error : ε}
    (raised : (program >>= next) state = .error error last) :
    program state = .error error last ∨
      ∃ value middle, program state = .ok value middle ∧ next value middle = .error error last := by
  change EStateM.bind program next state = _ at raised
  unfold EStateM.bind at raised
  cases ran : program state with
  | ok value middle =>
      rw [ran] at raised
      exact Or.inr ⟨value, middle, rfl, raised⟩
  | error cause middle =>
      rw [ran] at raised
      cases raised
      exact Or.inl rfl

/-- A sequence continues with the result of its first part. -/
theorem bind_of_ok {program : EStateM ε σ α} {next : α → EStateM ε σ β} {state middle : σ} {value : α}
    (ran : program state = .ok value middle) : (program >>= next) state = next value middle := by
  change EStateM.bind program next state = _
  unfold EStateM.bind
  rw [ran]

/-- A sequence stops with the exception of its first part. -/
theorem bind_of_error {program : EStateM ε σ α} {next : α → EStateM ε σ β} {state middle : σ}
    {error : ε} (ran : program state = .error error middle) :
    (program >>= next) state = .error error middle := by
  change EStateM.bind program next state = _
  unfold EStateM.bind
  rw [ran]

/-- A computation that reads its state continues with it. -/
theorem get_bind (next : σ → EStateM ε σ α) (state : σ) :
    (get >>= next) state = next state state := rfl

theorem modify_bind (update : σ → σ) (next : PUnit → EStateM ε σ α) (state : σ) :
    (modify update >>= next) state = next ⟨⟩ (update state) := rfl

/-- A traversal of two lists that returned split into two traversals. -/
theorem mapM_append_ok {body : ι → EStateM ε σ α} {front back : List ι} {state last : σ}
    {results : List α} (returned : (front ++ back).mapM body state = .ok results last) :
    ∃ early late middle, front.mapM body state = .ok early middle ∧
      back.mapM body middle = .ok late last := by
  rw [List.mapM_append] at returned
  obtain ⟨early, middle, first, continued⟩ := bind_ok returned
  obtain ⟨late, final, second, finished⟩ := bind_ok continued
  cases finished
  exact ⟨early, late, middle, first, second⟩

/-- A pure computation that returned split into its parts. -/
theorem except_bind_ok {program : Except ε α} {next : α → Except ε β} {result : β}
    (returned : program >>= next = .ok result) :
    ∃ value, program = .ok value ∧ next value = .ok result := by
  cases program with
  | error error => cases returned
  | ok value => exact ⟨value, rfl, returned⟩

/-- A pure traversal that returned answers each item. -/
theorem forall₂_of_mapM {body : ι → Except ε α} {items : List ι} {results : List α}
    (returned : items.mapM body = .ok results) :
    List.Forall₂ (fun item result => body item = .ok result) items results := by
  induction items generalizing results with
  | nil =>
      cases returned
      exact .nil
  | cons item rest ih =>
      rw [List.mapM_cons] at returned
      simp only [bind, Except.bind, pure, Except.pure] at returned
      cases first : body item with
      | error error => rw [first] at returned; cases returned
      | ok result =>
          rw [first] at returned
          cases later : rest.mapM body with
          | error error => simp only [later] at returned; cases returned
          | ok others =>
              simp only [later] at returned
              cases returned
              exact .cons first (ih later)

/-- Each item of the second list belongs to some item of the first one. -/
theorem exists_of_forall₂ {related : ι → α → Prop} {items : List ι} {results : List α}
    (pairs : List.Forall₂ related items results) {result : α} (member : result ∈ results) :
    ∃ item ∈ items, related item result := by
  induction pairs with
  | nil => cases member
  | @cons item _ rest _ here _ ih =>
      rcases List.mem_cons.mp member with same | later
      · exact ⟨item, List.mem_cons_self, same ▸ here⟩
      · obtain ⟨other, inside, answered⟩ := ih later
        exact ⟨other, List.mem_cons_of_mem item inside, answered⟩

/-- Each answer of a pure traversal belongs to some item. -/
theorem mem_of_mapM {body : ι → Except ε α} {items : List ι} {results : List α}
    (returned : items.mapM body = .ok results) {result : α} (member : result ∈ results) :
    ∃ item ∈ items, body item = .ok result :=
  exists_of_forall₂ (forall₂_of_mapM returned) member

/-- Each item of a pure traversal has its answer. -/
theorem answer_of_mapM {body : ι → Except ε α} {items : List ι} {results : List α}
    (returned : items.mapM body = .ok results) {item : ι} (member : item ∈ items) :
    ∃ result ∈ results, body item = .ok result :=
  exists_of_forall₂ (forall₂_of_mapM returned).flip member

/-- A relation follows item by item from two others. -/
theorem forall₂_both {first : ι → α → Prop} {second : ι → β → Prop}
    {both : α → β → Prop} {items : List ι} {left : List α} {right : List β}
    (one : List.Forall₂ first items left) (two : List.Forall₂ second items right)
    (each : ∀ item one two, first item one → second item two → both one two) :
    List.Forall₂ both left right := by
  induction one generalizing right with
  | nil => cases two; exact .nil
  | cons here _ ih => cases two with
    | cons there rest => exact .cons (each _ _ _ here there) (ih rest)

/-- Each answer of a traversal that returned belongs to its item. -/
theorem forall₂_of_mapM_ok {body : ι → EStateM ε σ α} {items : List ι} {results : List α}
    {state last : σ} (returned : items.mapM body state = .ok results last) :
    List.Forall₂ (fun item result => ∃ before after, body item before = .ok result after)
      items results := by
  induction items generalizing results state with
  | nil =>
      cases returned
      exact .nil
  | cons item rest ih =>
      rw [List.mapM_cons] at returned
      obtain ⟨value, middle, first, returned⟩ := bind_ok returned
      obtain ⟨values, final, later, returned⟩ := bind_ok returned
      cases returned
      exact .cons ⟨state, middle, first⟩ (ih later)

/-- A traversal that never reads its state but may change it answers with a map. -/
theorem mapM_ok_eq {body : ι → EStateM ε σ α} {answer : ι → α} {items : List ι}
    {results : List α} {state last : σ}
    (each : ∀ item ∈ items, ∀ before value after, body item before = .ok value after →
      value = answer item)
    (returned : items.mapM body state = .ok results last) : results = items.map answer := by
  have answered := forall₂_of_mapM_ok returned
  clear returned
  induction answered with
  | nil => rfl
  | @cons item result rest results here _ ih =>
      obtain ⟨before, after, ran⟩ := here
      rw [each item List.mem_cons_self _ _ _ ran,
        ih fun other inside => each other (List.mem_cons_of_mem item inside)]
      rfl

/-- A traversal stops in the state of its first exception. -/
theorem finalState_mapM_cons (item : ι) (rest : List ι) (body : ι → EStateM ε σ α) (state : σ) :
    finalState ((item :: rest).mapM body state) =
      match body item state with
      | .ok _ next => finalState (rest.mapM body next)
      | .error _ next => next := by
  rw [List.mapM_cons]
  change finalState (EStateM.bind (body item) _ state) = _
  unfold EStateM.bind
  cases body item state with
  | error error next => rfl
  | ok value next =>
      change finalState (EStateM.bind (rest.mapM body) _ next) = _
      unfold EStateM.bind
      cases ran : rest.mapM body next with
      | ok values last => simp only [ran]; rfl
      | error error last => simp only [ran]

/-- A pure result enters a computation without a state change. -/
def lift (result : Except ε α) : EStateM ε σ α :=
  match result with
  | .ok value => pure value
  | .error error => throw error

theorem within_lift {frame : Frame σ} (result : Except ε α) :
    Within frame (lift result : EStateM ε σ α) := by
  cases result
  · exact within_throw _
  · exact within_pure _

/-- The rest of a computation starts from the pure result. -/
theorem within_lift_bind {frame : Frame σ} {result : Except ε α} {next : α → EStateM ε σ β}
    (rest : ∀ value, result = .ok value → Within frame (next value)) :
    Within frame (lift result >>= next) := by
  cases result with
  | error error => exact fun state => frame.refl state
  | ok value => exact rest value rfl

/-- A computation continues with the value of a pure result. -/
theorem returns_lift_bind {pre : σ → Prop} {result : Except ε α} {value : α}
    {next : α → EStateM ε σ β} {post : β → σ → Prop} (succeeds : result = .ok value)
    (rest : Returns pre (next value) post) : Returns pre (lift result >>= next) post := by
  subst succeeds
  exact rest

theorem lift_ok {result : Except ε α} {state last : σ} {value : α}
    (returned : (lift result : EStateM ε σ α) state = .ok value last) :
    result = .ok value ∧ last = state := by
  cases result with
  | ok found => cases returned; exact ⟨rfl, rfl⟩
  | error error => cases returned

theorem lift_raised {result : Except ε α} {state last : σ} {error : ε}
    (raised : (lift result : EStateM ε σ α) state = .error error last) : last = state := by
  cases result with
  | ok found => cases raised
  | error cause => cases raised; rfl

theorem lift_of_ok {result : Except ε α} {value : α} (succeeds : result = .ok value) (state : σ) :
    (lift result : EStateM ε σ α) state = .ok value state := by
  subst succeeds
  rfl

@[simp] theorem lift_ok_bind (value : α) (next : α → EStateM ε σ β) :
    lift (.ok value) >>= next = next value := rfl

/-- A pure result decides whether a computation continues. -/
theorem lift_bind (result : Except ε α) (next : α → EStateM ε σ β) (state : σ) :
    (lift result >>= next) state = match result with
      | .ok value => next value state
      | .error error => .error error state := by
  cases result <;> rfl

/-- A computation on a part writes that part back on both outcomes. -/
def zoom (read : τ → σ) (write : τ → σ → τ) (program : EStateM ε σ α) : EStateM ε τ α :=
  fun whole =>
    match program (read whole) with
    | .ok value part => .ok value (write whole part)
    | .error error part => .error error (write whole part)

theorem zoom_finalState (read : τ → σ) (write : τ → σ → τ) (program : EStateM ε σ α) (whole : τ) :
    finalState (zoom read write program whole) =
      write whole (finalState (program (read whole))) := by
  unfold zoom
  cases program (read whole) <;> rfl

/-- A part stays inside its frame when the frame of the whole follows from it. -/
theorem within_zoom {part : Frame σ} {frame : Frame τ} {read : τ → σ} {write : τ → σ → τ}
    {program : EStateM ε σ α} (inside : Within part program)
    (lifts : ∀ whole next, part.rel (read whole) next → frame.rel whole (write whole next)) :
    Within frame (zoom read write program) := by
  intro whole
  rw [zoom_finalState]
  exact lifts whole _ (inside (read whole))

theorem zoom_ok {read : τ → σ} {write : τ → σ → τ} {program : EStateM ε σ α} {whole last : τ}
    {value : α} (returned : zoom read write program whole = .ok value last) :
    ∃ part, program (read whole) = .ok value part ∧ last = write whole part := by
  unfold zoom at returned
  cases outcome : program (read whole) with
  | ok found part =>
      rw [outcome] at returned
      cases returned
      exact ⟨part, rfl, rfl⟩
  | error error part =>
      rw [outcome] at returned
      cases returned

theorem zoom_raised {read : τ → σ} {write : τ → σ → τ} {program : EStateM ε σ α} {whole last : τ}
    {error : ε} (raised : zoom read write program whole = .error error last) :
    ∃ part, last = write whole part := by
  unfold zoom at raised
  cases outcome : program (read whole) with
  | ok found part =>
      rw [outcome] at raised
      cases raised
  | error cause part =>
      rw [outcome] at raised
      cases raised
      exact ⟨part, rfl⟩

theorem zoom_of_ok {read : τ → σ} {write : τ → σ → τ} {program : EStateM ε σ α} {whole : τ}
    {value : α} {part : σ} (ran : program (read whole) = .ok value part) :
    zoom read write program whole = .ok value (write whole part) := by
  unfold zoom
  rw [ran]

/-- Programs on a part run after each other like programs on the whole. -/
theorem zoom_bind {read : τ → σ} {write : τ → σ → τ} (found : ∀ whole part, read (write whole part) = part)
    (last : ∀ whole part other, write (write whole part) other = write whole other)
    (program : EStateM ε σ α) (next : α → EStateM ε σ β) :
    zoom read write (program >>= next) =
      zoom read write program >>= fun value => zoom read write (next value) := by
  funext whole
  cases outcome : program (read whole) with
  | error error part =>
      have stopped : zoom read write program whole = .error error (write whole part) := by
        unfold zoom
        rw [outcome]
      rw [bind_of_error stopped]
      unfold zoom
      rw [bind_of_error outcome]
  | ok value part =>
      rw [bind_of_ok (zoom_of_ok outcome)]
      unfold zoom
      rw [bind_of_ok outcome, found]
      cases next value part <;> simp only [last]

theorem zoom_mapM {read : τ → σ} {write : τ → σ → τ} (found : ∀ whole part, read (write whole part) = part)
    (last : ∀ whole part other, write (write whole part) other = write whole other)
    (same : ∀ whole, write whole (read whole) = whole) (body : ι → EStateM ε σ α) (items : List ι) :
    zoom read write (items.mapM body) = items.mapM fun item => zoom read write (body item) := by
  have single (value : List α) : zoom read write (pure value : EStateM ε σ (List α)) = pure value := by
    funext whole
    change EStateM.Result.ok value (write whole (read whole)) = _
    rw [same]
    rfl
  induction items with
  | nil => exact single []
  | cons item rest ih =>
      rw [List.mapM_cons, List.mapM_cons, zoom_bind found last, ← ih]
      simp only [zoom_bind found last, single]

end StateFlow.Effect
