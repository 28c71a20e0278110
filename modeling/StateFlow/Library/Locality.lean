import StateFlow.Library.ProgramLogic

namespace StateFlow.Effect

variable {ε σ τ α β ι : Type}

/-- The answer of a computation. -/
def outcome : EStateM.Result ε σ α → Except ε α
  | .ok value _ => .ok value
  | .error error _ => .error error

@[simp] theorem outcome_ok (value : α) (state : σ) :
    outcome (.ok value state : EStateM.Result ε σ α) = .ok value := rfl

@[simp] theorem outcome_error (error : ε) (state : σ) :
    outcome (.error error state : EStateM.Result ε σ α) = .error error := rfl

/-- A computation answers from a view of the state, changes that view alike in all states with the
same view, and keeps an invariant of the view. -/
def Local (inv : τ → Prop) (view : σ → τ) (program : EStateM ε σ α) : Prop :=
  ∀ state other, inv (view state) → view state = view other →
    outcome (program state) = outcome (program other) ∧
      view (finalState (program state)) = view (finalState (program other)) ∧
      inv (view (finalState (program state)))

section Local
variable {inv : τ → Prop} {view : σ → τ}

theorem local_pure (value : α) : Local inv view (pure value : EStateM ε σ α) :=
  fun _ _ start same => ⟨rfl, same, start⟩

theorem local_throw (error : ε) : Local inv view (throw error : EStateM ε σ α) :=
  fun _ _ start same => ⟨rfl, same, start⟩

theorem local_lift (result : Except ε α) : Local inv view (lift result : EStateM ε σ α) := by
  cases result with
  | ok value => exact local_pure value
  | error error => exact local_throw error

theorem local_bind {program : EStateM ε σ α} {next : α → EStateM ε σ β}
    (first : Local inv view program) (rest : ∀ value, Local inv view (next value)) :
    Local inv view (program >>= next) := by
  intro state other start same
  obtain ⟨answers, seen, kept⟩ := first state other start same
  change outcome (EStateM.bind program next state) = outcome (EStateM.bind program next other) ∧
    view (finalState (EStateM.bind program next state)) =
      view (finalState (EStateM.bind program next other)) ∧
    inv (view (finalState (EStateM.bind program next state)))
  unfold EStateM.bind
  cases one : program state with
  | ok value middle =>
      cases two : program other with
      | ok found reached =>
          rw [one, two] at answers seen
          rw [one] at kept
          cases answers
          exact rest value middle reached kept seen
      | error error reached =>
          rw [one, two] at answers
          cases answers
  | error error middle =>
      cases two : program other with
      | ok found reached =>
          rw [one, two] at answers
          cases answers
      | error found reached =>
          rw [one, two] at answers seen
          rw [one] at kept
          cases answers
          exact ⟨rfl, seen, kept⟩

/-- The rest of a computation starts from the pure result. -/
theorem local_lift_bind {result : Except ε α} {next : α → EStateM ε σ β}
    (rest : ∀ value, result = .ok value → Local inv view (next value)) :
    Local inv view (lift result >>= next) := by
  cases result with
  | ok value => exact rest value rfl
  | error error => exact local_throw error

theorem local_seq {program : EStateM ε σ Unit} {next : EStateM ε σ β}
    (first : Local inv view program) (rest : Local inv view next) :
    Local inv view (do program; next) :=
  local_bind first fun _ => rest

theorem local_ite {condition : Prop} [Decidable condition] {first second : EStateM ε σ α}
    (positive : condition → Local inv view first) (negative : ¬ condition → Local inv view second) :
    Local inv view (if condition then first else second) := by
  split
  · exact positive ‹_›
  · exact negative ‹_›

theorem local_modify {update : σ → σ}
    (same : ∀ state other, view state = view other → view (update state) = view (update other))
    (keeps : ∀ state, inv (view state) → inv (view (update state))) :
    Local inv view (modify update : EStateM ε σ PUnit) :=
  fun state other start agree => ⟨rfl, same state other agree, keeps state start⟩

/-- A computation may read the whole state and continue with what depends on the view. -/
theorem local_get_bind {next : σ → EStateM ε σ β}
    (agree : ∀ state other, inv (view state) → view state = view other → next state = next other)
    (rest : ∀ state, inv (view state) → Local inv view (next state)) :
    Local inv view (get >>= next) := by
  intro state other start same
  have continued := rest state start state other start same
  change outcome (next state state) = outcome (next other other) ∧
    view (finalState (next state state)) = view (finalState (next other other)) ∧
    inv (view (finalState (next state state)))
  rw [← agree state other start same]
  exact continued

/-- A computation on a part that the view determines. -/
theorem local_zoom {ρ : Type} {read : σ → ρ} {write : σ → ρ → σ} {program : EStateM ε ρ α}
    (reads : ∀ state other, inv (view state) → view state = view other → read state = read other)
    (writes : ∀ state other part, view state = view other →
      view (write state part) = view (write other part))
    (keeps : ∀ state, inv (view state) →
      inv (view (write state (finalState (program (read state)))))) :
    Local inv view (zoom read write program) := by
  intro state other start same
  have kept := keeps state start
  have agree := reads state other start same
  unfold zoom
  rw [← agree]
  cases ran : program (read state) <;> rw [ran] at kept <;>
    exact ⟨rfl, writes state other _ same, kept⟩

end Local

/-- Two computations reach the same states and answer alike up to an observation. -/
def Agree (observe : α → β) (program other : EStateM ε σ α) : Prop :=
  ∀ state, (outcome (program state)).map observe = (outcome (other state)).map observe ∧
    finalState (program state) = finalState (other state)

section Agree
variable {γ : Type} {observe : α → β}

theorem agree_refl (program : EStateM ε σ α) : Agree observe program program :=
  fun _ => ⟨rfl, rfl⟩

/-- Pure results with one observation. -/
theorem agree_pure {value other : α} (same : observe value = observe other) :
    Agree observe (pure value : EStateM ε σ α) (pure other) :=
  fun _ => ⟨congrArg Except.ok same, rfl⟩

/-- Two computations begin alike and go on alike. -/
theorem agree_bind {program : EStateM ε σ γ} {next other : γ → EStateM ε σ α}
    (rest : ∀ value, Agree observe (next value) (other value)) :
    Agree observe (program >>= next) (program >>= other) := by
  intro state
  change (outcome (EStateM.bind program next state)).map observe =
      (outcome (EStateM.bind program other state)).map observe ∧
    finalState (EStateM.bind program next state) = finalState (EStateM.bind program other state)
  unfold EStateM.bind
  cases program state with
  | ok value middle => exact rest value middle
  | error error middle => exact ⟨rfl, rfl⟩

/-- An observation of the observed answers. -/
theorem Agree.map {program other : EStateM ε σ α} (agree : Agree observe program other)
    {wrap : α → γ} {seen : γ → ι} {shown : β → ι} (shows : ∀ value, seen (wrap value) = shown (observe value)) :
    Agree seen (do return wrap (← program)) (do return wrap (← other)) := by
  intro state
  obtain ⟨answers, reached⟩ := agree state
  change (outcome (EStateM.bind program (fun value => pure (wrap value)) state)).map seen =
      (outcome (EStateM.bind other (fun value => pure (wrap value)) state)).map seen ∧
    finalState (EStateM.bind program (fun value => pure (wrap value)) state) =
      finalState (EStateM.bind other (fun value => pure (wrap value)) state)
  unfold EStateM.bind
  cases one : program state <;> cases two : other state <;> rw [one, two] at answers reached
  · refine ⟨?_, reached⟩
    change Except.ok (seen (wrap _)) = Except.ok (seen (wrap _))
    rw [shows, shows, Except.ok.inj answers]
  · cases answers
  · cases answers
  · refine ⟨?_, reached⟩
    exact congrArg Except.error (Except.error.inj answers)

end Agree

/-- From a state with an invariant, this frame keeps the invariant and a view. -/
def Frame.guards (good : σ → Prop) (view : σ → τ) : Frame σ where
  rel before after := good before → good after ∧ view after = view before
  refl _ start := ⟨start, rfl⟩
  trans first second start :=
    ⟨(second (first start).1).1, (second (first start).1).2.trans (first start).2⟩

section Guards
variable {good : σ → Prop} {view : σ → τ}

/-- A computation that keeps the invariant and the view stays inside the frame. -/
theorem Within.guards {program : EStateM ε σ α} (keeps : Within (Frame.keeps good) program)
    (fixes : Within (Frame.fixes view) program) : Within (Frame.guards good view) program :=
  fun state start => ⟨keeps state start, fixes state⟩

/-- A computation that reads the state may use its invariant. -/
theorem within_get_guards {next : σ → EStateM ε σ β}
    (rest : ∀ state, good state → Within (Frame.guards good view) (next state)) :
    Within (Frame.guards good view) (get >>= next) :=
  fun state start => rest state start state start

end Guards

/-- Each item of a run is answered, and an exception ends only its own item. -/
def transcript (run : ι → EStateM ε σ α) : List ι → σ → List (ι × Except ε α)
  | [], _ => []
  | item :: rest, state =>
      (item, outcome (run item state)) :: transcript run rest (finalState (run item state))

/-- The state that a run reaches. -/
def runAll (run : ι → EStateM ε σ α) (items : List ι) (state : σ) : σ :=
  items.foldl (fun reached item => finalState (run item reached)) state

/-- Runs of items that agree pairwise answer alike and reach one state. -/
theorem run_agrees {run : ι → EStateM ε σ α} {observe : α → β} {related : ι → ι → Prop}
    {items others : List ι} (each : ∀ item other, related item other → Agree observe (run item) (run other))
    (pairs : List.Forall₂ related items others) (state : σ) :
    (transcript run items state).map (fun entry => entry.2.map observe) =
        (transcript run others state).map (fun entry => entry.2.map observe) ∧
      runAll run items state = runAll run others state := by
  induction pairs generalizing state with
  | nil => exact ⟨rfl, rfl⟩
  | @cons item other _ _ here _ ih =>
      obtain ⟨answers, reached⟩ := each item other here state
      obtain ⟨later, last⟩ := ih (finalState (run item state))
      simp only [transcript, List.map_cons, runAll, List.foldl_cons]
      rw [answers, ← reached]
      exact ⟨congrArg _ later, last⟩

/-- A run of translated items translates the answers and reaches the same state. -/
theorem run_translated {κ δ : Type} {first : ι → EStateM ε σ α} {second : κ → EStateM δ σ β}
    {send : ι → κ} {reply : ι → Except ε α → Except δ β} {items : List ι}
    (each : ∀ item ∈ items, ∀ state,
      outcome (second (send item) state) = reply item (outcome (first item state)) ∧
        finalState (second (send item) state) = finalState (first item state)) (state : σ) :
    (transcript second (items.map send) state).map Prod.snd =
        (transcript first items state).map (fun entry => reply entry.1 entry.2) ∧
      runAll second (items.map send) state = runAll first items state := by
  induction items generalizing state with
  | nil => exact ⟨rfl, rfl⟩
  | cons item rest ih =>
      obtain ⟨answers, reached⟩ := each item List.mem_cons_self state
      obtain ⟨later, last⟩ := ih (fun next inside => each next (List.mem_cons_of_mem _ inside))
        (finalState (first item state))
      simp only [List.map_cons, transcript, runAll, List.foldl_cons]
      rw [answers, reached]
      exact ⟨congrArg _ later, last⟩

section Runs
variable {good : σ → Prop} {inv : τ → Prop} {view : σ → τ} {run : ι → EStateM ε σ α}
  {mine : ι → Bool} {items : List ι}

/-- When all other items leave a view alone, a run looks like the run of the items that use it. -/
theorem run_isolated (shows : ∀ state, good state → inv (view state))
    (keeps : ∀ item ∈ items, Within (Frame.keeps good) (run item))
    (own : ∀ item ∈ items, mine item = true → Local inv view (run item))
    (others : ∀ item ∈ items, mine item = false → Within (Frame.guards good view) (run item))
    (state other : σ) (start : good state) (same : view state = view other) :
    (transcript run items state).filter (fun entry => mine entry.1) =
        transcript run (items.filter mine) other ∧
      view (runAll run items state) = view (runAll run (items.filter mine) other) := by
  induction items generalizing state other with
  | nil => exact ⟨rfl, same⟩
  | cons item rest ih =>
      have kept := keeps item List.mem_cons_self state start
      have later := ih (fun next inside => keeps next (List.mem_cons_of_mem _ inside))
        (fun next inside => own next (List.mem_cons_of_mem _ inside))
        fun next inside => others next (List.mem_cons_of_mem _ inside)
      cases owner : mine item with
      | true =>
          obtain ⟨answers, seen, _⟩ :=
            own item List.mem_cons_self owner state other (shows state start) same
          obtain ⟨shown, reached⟩ := later _ _ kept seen
          rw [List.filter_cons_of_pos owner]
          refine ⟨?_, reached⟩
          simp only [transcript, List.filter_cons, owner, if_true, shown, answers]
      | false =>
          have fixed := (others item List.mem_cons_self owner state start).2
          obtain ⟨shown, reached⟩ := later _ other kept (fixed.trans same)
          rw [List.filter_cons_of_neg (by rw [owner]; exact Bool.false_ne_true)]
          refine ⟨?_, reached⟩
          simpa only [transcript, List.filter_cons, owner, Bool.false_eq_true, if_false] using shown

end Runs

end StateFlow.Effect
