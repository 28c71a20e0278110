import StateFlow.Library.Effect

namespace StateFlow.Effect

variable {ε σ α β ι : Type}

/-- A computation that returns from an allowed state returns to a described one. -/
def Ensures (pre : σ → Prop) (program : EStateM ε σ α) (post : α → σ → Prop) : Prop :=
  ∀ state value last, pre state → program state = .ok value last → post value last

section Ensures
variable {pre : σ → Prop}

theorem ensures_pure {value : α} {post : α → σ → Prop}
    (holds : ∀ state, pre state → post value state) :
    Ensures pre (pure value : EStateM ε σ α) post := by
  intro state result last start returned
  cases returned
  exact holds state start

theorem ensures_bind {program : EStateM ε σ α} {next : α → EStateM ε σ β}
    {middle : α → σ → Prop} {post : β → σ → Prop} (first : Ensures pre program middle)
    (rest : ∀ value, Ensures (middle value) (next value) post) :
    Ensures pre (program >>= next) post := by
  intro state value last start returned
  obtain ⟨answer, reached, ran, continued⟩ := bind_ok returned
  exact rest answer reached value last (first state answer reached start ran) continued

theorem ensures_seq {program : EStateM ε σ Unit} {next : EStateM ε σ β} {middle : σ → Prop}
    {post : β → σ → Prop} (first : Ensures pre program fun _ => middle)
    (rest : Ensures middle next post) : Ensures pre (do program; next) post :=
  ensures_bind first fun _ => rest

/-- A computation continues with the value of a pure result. -/
theorem ensures_lift_bind {result : Except ε α} {value : α} {next : α → EStateM ε σ β}
    {post : β → σ → Prop} (succeeds : result = .ok value) (rest : Ensures pre (next value) post) :
    Ensures pre (lift result >>= next) post := by
  subst succeeds
  exact rest

/-- A fact that every allowed state implies may be assumed. -/
theorem ensures_known {fact : Prop} {program : EStateM ε σ α} {post : α → σ → Prop}
    (known : ∀ state, pre state → fact) (rest : fact → Ensures pre program post) :
    Ensures pre program post :=
  fun state value last start returned => rest (known state start) state value last start returned

/-- Fewer states are allowed. -/
theorem Ensures.of_imp {other : σ → Prop} {program : EStateM ε σ α} {post : α → σ → Prop}
    (ensured : Ensures pre program post) (allowed : ∀ state, other state → pre state) :
    Ensures other program post :=
  fun state value last start returned => ensured state value last (allowed state start) returned

/-- Two descriptions of the end hold together. -/
theorem Ensures.and {program : EStateM ε σ α} {first second : α → σ → Prop}
    (one : Ensures pre program first) (two : Ensures pre program second) :
    Ensures pre program fun value state => first value state ∧ second value state :=
  fun state value last start returned =>
    ⟨one state value last start returned, two state value last start returned⟩

/-- A computation that keeps an invariant ensures it. -/
theorem Within.ensures {program : EStateM ε σ α} (inside : Within (Frame.keeps pre) program) :
    Ensures pre program fun _ => pre :=
  fun _ _ _ start returned => inside.returned returned start

/-- A computation that fixes an observation ensures its value. -/
theorem Within.ensures_fixed {observe : σ → β} {program : EStateM ε σ α} {value : β}
    (inside : Within (Frame.fixes observe) program) :
    Ensures (fun state => observe state = value) program fun _ state => observe state = value :=
  fun _ _ _ start returned => (inside.fixed returned).trans start

/-- A traversal ensures what each of its steps keeps. -/
theorem ensures_mapM {items : List ι} {body : ι → EStateM ε σ α}
    (each : ∀ item ∈ items, Ensures pre (body item) fun _ => pre) :
    Ensures pre (items.mapM body) fun _ => pre := by
  induction items with
  | nil => exact ensures_pure fun _ start => start
  | cons item rest ih =>
      rw [List.mapM_cons]
      refine ensures_bind (each item List.mem_cons_self) fun _ => ?_
      refine ensures_bind (ih fun later member => each later (List.mem_cons_of_mem _ member))
        fun _ => ?_
      exact ensures_pure fun _ start => start

theorem ensures_forM {items : List ι} {body : ι → EStateM ε σ PUnit}
    (each : ∀ item ∈ items, Ensures pre (body item) fun _ => pre) :
    Ensures pre (items.forM body) fun _ => pre := by
  induction items with
  | nil => exact ensures_pure fun _ start => start
  | cons item rest ih =>
      exact ensures_bind (each item List.mem_cons_self)
        fun _ => ih fun later member => each later (List.mem_cons_of_mem _ member)

end Ensures

/-- A run that returns from one of two related states is repeated from the other with the same
value, and the states stay related. -/
def Respects (related : σ → σ → Prop) (program : EStateM ε σ α) : Prop :=
  ∀ state other value last, related state other → program state = .ok value last →
    ∃ reached, program other = .ok value reached ∧ related last reached

section Respects
variable {related : σ → σ → Prop}

theorem respects_pure (value : α) : Respects related (pure value : EStateM ε σ α) := by
  intro state other result last start returned
  cases returned
  exact ⟨other, rfl, start⟩

/-- No run of a computation that raises has to be repeated. -/
theorem respects_throw (error : ε) : Respects related (throw error : EStateM ε σ α) := by
  intro state other value last start returned
  cases returned

theorem respects_lift (result : Except ε α) :
    Respects related (lift result : EStateM ε σ α) := by
  intro state other value last start returned
  obtain ⟨succeeds, same⟩ := lift_ok returned
  rw [same]
  exact ⟨other, lift_of_ok succeeds other, start⟩

/-- Related states answer alike when they agree on the observation. -/
theorem respects_observe {observe : σ → α}
    (agree : ∀ state other, related state other → observe state = observe other) :
    Respects related (do return observe (← get) : EStateM ε σ α) := by
  intro state other value last start returned
  cases returned
  exact ⟨other, congrArg (EStateM.Result.ok · other) (agree state other start).symm, start⟩

theorem respects_modify {update : σ → σ}
    (keeps : ∀ state other, related state other → related (update state) (update other)) :
    Respects related (modify update : EStateM ε σ PUnit) := by
  intro state other value last start returned
  cases returned
  exact ⟨_, rfl, keeps state other start⟩

theorem respects_bind {program : EStateM ε σ α} {next : α → EStateM ε σ β}
    (first : Respects related program) (rest : ∀ value, Respects related (next value)) :
    Respects related (program >>= next) := by
  intro state other value last start returned
  obtain ⟨answer, middle, ran, after⟩ := bind_ok returned
  obtain ⟨reached, repeated, between⟩ := first state other answer middle start ran
  obtain ⟨final, ended, finished⟩ := rest answer middle reached value last between after
  exact ⟨final, (bind_of_ok repeated).trans ended, finished⟩

end Respects

end StateFlow.Effect
