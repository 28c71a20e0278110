import Mathlib.Data.List.Induction
import StateFlow.Construction.Adapters.Identity

namespace StateFlow.Adapters
open Python Table Effect

/-- One call of the resolver with its keyword identities. -/
structure BindCall where
  entity : String
  identities : List (String × String)

/-- The bindings after a call, also when the call raises. -/
def BindCall.apply (bindings : Bindings) (call : BindCall) : Bindings :=
  finalState (bind call.entity call.identities bindings)

/-- The bindings that a run of calls reaches. -/
def runBinds (calls : List BindCall) : Bindings := calls.foldl BindCall.apply []

/-- The entities that an identity is bound to. -/
def boundTo (bindings : Bindings) (identity : String × String) : List String :=
  getD bindings (identity.1, strip identity.2) []

/-- A unique value that belongs to another entity conflicts. -/
def Conflicts (bindings : Bindings) (entity : String) (identity : String × String) : Prop :=
  strip identity.2 ≠ "" ∧ identity.1 ∈ uniqueNamespaces ∧ boundTo bindings identity ≠ [] ∧
    entity ∉ boundTo bindings identity

/-- An identity is new when it is not blank and not yet bound to the entity. -/
def IsNew (bindings : Bindings) (entity : String) (identity : String × String) : Prop :=
  strip identity.2 ≠ "" ∧ entity ∉ boundTo bindings identity

instance (bindings : Bindings) (entity : String) (identity : String × String) :
    Decidable (Conflicts bindings entity identity) := inferInstanceAs (Decidable (_ ∧ _))

instance (bindings : Bindings) (entity : String) (identity : String × String) :
    Decidable (IsNew bindings entity identity) := inferInstanceAs (Decidable (_ ∧ _))

/-- Every value of a unique namespace is bound to at most one entity. -/
def UniquelyBound (bindings : Bindings) : Prop :=
  ∀ namespaceName value, namespaceName ∈ uniqueNamespaces →
    (getD bindings (namespaceName, value) []).length ≤ 1

section Bind
variable {entity : String} {identity : String × String} {bindings : Bindings}

/-- The check of the code raises exactly on a conflict. -/
theorem conflict_iff (present : strip identity.2 ≠ "") :
    (decide (identity.1 ∈ uniqueNamespaces) && !(boundTo bindings identity).isEmpty
      && decide (entity ∉ boundTo bindings identity)) = true
        ↔ Conflicts bindings entity identity := by
  simp [Conflicts, present, and_assoc]

/-- A conflicting identity raises and changes nothing. -/
theorem bindOne_conflict (conflict : Conflicts bindings entity identity) :
    bindOne entity identity.1 identity.2 bindings = .error .valueError bindings := by
  unfold bindOne
  simp only [if_neg conflict.1]
  rw [get_bind]
  exact congrFun (if_pos ((conflict_iff conflict.1).mpr conflict)) bindings

/-- An identity without a conflict binds the entity once. -/
theorem bindOne_bound (present : strip identity.2 ≠ "")
    (free : ¬ Conflicts bindings entity identity) :
    bindOne entity identity.1 identity.2 bindings = .ok () (assign (identity.1, strip identity.2)
      (if entity ∈ boundTo bindings identity then boundTo bindings identity
        else boundTo bindings identity ++ [entity]) bindings) := by
  unfold bindOne
  simp only [if_neg present]
  rw [get_bind]
  exact congrFun (if_neg (fun raised => free ((conflict_iff present).mp raised))) bindings

/-- An identity that is not new changes nothing. -/
theorem bindOne_known (known : ¬ IsNew bindings entity identity) :
    bindOne entity identity.1 identity.2 bindings = .ok () bindings := by
  by_cases blank : strip identity.2 = ""
  · unfold bindOne
    simp only [blank, if_true]
    rfl
  · have inside : entity ∈ boundTo bindings identity :=
      not_not.mp fun absent => known ⟨blank, absent⟩
    have stored : bindings.lookup (identity.1, strip identity.2)
        = some (boundTo bindings identity) := by
      unfold boundTo getD at inside ⊢
      cases found : bindings.lookup (identity.1, strip identity.2) with
      | none => rw [found] at inside; cases inside
      | some entities => rfl
    rw [bindOne_bound blank fun conflict => conflict.2.2.2 inside, if_pos inside,
      assign_of_lookup stored]

/-- A conflict or a known identity leaves the bindings alone, and a new one is bound. -/
theorem bindOne_cases (entity : String) (identity : String × String) (bindings : Bindings) :
    finalState (bindOne entity identity.1 identity.2 bindings) = bindings ∨
    (IsNew bindings entity identity ∧ ¬ Conflicts bindings entity identity ∧
      finalState (bindOne entity identity.1 identity.2 bindings)
        = assign (identity.1, strip identity.2) (boundTo bindings identity ++ [entity]) bindings) := by
  by_cases conflict : Conflicts bindings entity identity
  · exact .inl (by rw [bindOne_conflict conflict]; rfl)
  · by_cases new : IsNew bindings entity identity
    · refine .inr ⟨new, conflict, ?_⟩
      rw [bindOne_bound new.1 conflict, if_neg new.2]
      rfl
    · exact .inl (by rw [bindOne_known new]; rfl)

/-- A new identity is bound to its entity. -/
theorem getD_assign_concat (bindings : Bindings) (entity : String) (identity : String × String) :
    entity ∈ getD (assign (identity.1, strip identity.2) (boundTo bindings identity ++ [entity])
      bindings) (identity.1, strip identity.2) [] := by
  unfold getD
  rw [lookup_assign_same]
  exact List.mem_append_right _ (List.mem_singleton_self entity)

/-- A binding never leaves the table. -/
theorem bindOne_grows (entity : String) (identity : String × String) (key : String × String)
    (owner : String) :
    Within (Frame.keeps fun bindings => owner ∈ getD bindings key [])
      (bindOne entity identity.1 identity.2) := by
  intro bindings inside
  rcases bindOne_cases entity identity bindings with same | ⟨-, -, bound⟩
  · rwa [same]
  · rw [bound]
    unfold getD at inside ⊢
    rw [lookup_assign]
    split
    · rename_i own
      subst own
      exact List.mem_append_left _ inside
    · exact inside

/-- A new binding of a unique value is its first one. -/
theorem bindOne_unique (entity : String) (identity : String × String) :
    Within (Frame.keeps UniquelyBound) (bindOne entity identity.1 identity.2) := by
  intro bindings unique
  rcases bindOne_cases entity identity bindings with same | ⟨new, free, bound⟩
  · rwa [same]
  · rw [bound]
    intro namespaceName value member
    unfold getD
    rw [lookup_assign]
    split
    · rename_i own
      obtain ⟨rfl, rfl⟩ := Prod.mk.inj own
      have empty : boundTo bindings identity = [] := by
        by_contra bound
        exact free ⟨new.1, member, bound, new.2⟩
      simp [empty]
    · exact unique namespaceName value member

theorem bind_within {frame : Frame Bindings} (entity : String) (identities : List (String × String))
    (each : ∀ identity : String × String, Within frame (bindOne entity identity.1 identity.2)) :
    Within frame (bind entity identities) := by
  have all : Within frame (identities.forM fun identity => bindOne entity identity.1 identity.2) :=
    within_forM fun identity _ => each identity
  unfold bind
  exact within_ite (fun _ => within_bind (within_throw _) fun _ => all) fun _ => all

/-- A run of calls keeps every unique value with one entity. -/
theorem runBinds_unique (calls : List BindCall) : UniquelyBound (runBinds calls) := by
  unfold runBinds
  induction calls using List.reverseRecOn with
  | nil => exact fun _ _ _ => Nat.zero_le 1
  | append_singleton calls call ih =>
      rw [List.foldl_append]
      exact bind_within call.entity call.identities (bindOne_unique call.entity) _ ih

/-- The identities that a call reaches before its first conflict. -/
def reachedIdentities (bindings : Bindings) (entity : String) (identities : List (String × String)) :
    List (String × String) :=
  identities.takeWhile fun identity => ¬ Conflicts bindings entity identity

/-- A call that raises changes nothing exactly when it reaches no new identity. -/
theorem bindAll_unchanged {identities : List (String × String)} {last : Bindings}
    {exception : Exception}
    (raised : (identities.forM fun identity => bindOne entity identity.1 identity.2) bindings
      = .error exception last) :
    last = bindings ↔ ∀ identity ∈ reachedIdentities bindings entity identities,
      ¬ IsNew bindings entity identity := by
  induction identities with
  | nil => cases raised
  | cons identity rest ih =>
      have split := bindOne_cases entity identity bindings
      by_cases conflict : Conflicts bindings entity identity
      · have stopped : reachedIdentities bindings entity (identity :: rest) = [] := by
          simp [reachedIdentities, conflict]
        cases (bind_of_error (bindOne_conflict conflict)).symm.trans raised
        simp [stopped]
      · have onward : reachedIdentities bindings entity (identity :: rest)
            = identity :: reachedIdentities bindings entity rest := by
          simp [reachedIdentities, conflict]
        rw [onward, List.forall_mem_cons]
        by_cases new : IsNew bindings entity identity
        · -- The new binding stays until the exception.
          refine ⟨fun same => ?_, fun nothing => absurd new nothing.1⟩
          have bound := bindOne_bound new.1 conflict
          rw [if_neg new.2] at bound
          have later : (rest.forM fun identity => bindOne entity identity.1 identity.2) _
              = .error exception last := (bind_of_ok bound).symm.trans raised
          have kept := within_forM (fun other (_ : other ∈ rest) =>
            bindOne_grows entity other (identity.1, strip identity.2) entity) _
            (getD_assign_concat bindings entity identity)
          rw [later, finalState_error, same] at kept
          exact absurd kept new.2
        · rw [ih ((bind_of_ok (bindOne_known new)).symm.trans raised)]
          exact (and_iff_right new).symm

end Bind

/-- A call that conflicts leaves the bindings alone exactly when it reaches no new identity before
the conflict. No run binds a unique value twice. -/
theorem binds_unchanged_iff (calls : List BindCall) :
    UniquelyBound (runBinds calls) ∧
    ∀ (call : BindCall) (exception : Exception) (last : Bindings), call.entity ≠ "" →
      bind call.entity call.identities (runBinds calls) = .error exception last →
      (last = runBinds calls ↔
        ∀ identity ∈ reachedIdentities (runBinds calls) call.entity call.identities,
          ¬ IsNew (runBinds calls) call.entity identity) := by
  refine ⟨runBinds_unique calls, ?_⟩
  intro call exception last named raised
  unfold bind at raised
  simp only [if_neg named] at raised
  exact bindAll_unchanged raised

/-- The entity of a request is bound first. -/
def firstBind : BindCall := ⟨"component/request/a", [("request_id", "a")]⟩

theorem binds_unchanged_of_first :
    UniquelyBound (runBinds [firstBind]) ∧
      ∃ last, bind "component/request/c" [("request_id", "a"), ("trace_id", "t")]
          (runBinds [firstBind]) = .error .valueError last ∧ last = runBinds [firstBind] := by
  have result := binds_unchanged_iff [firstBind]
  refine ⟨result.1, _, rfl, ?_⟩
  apply (result.2 ⟨"component/request/c", [("request_id", "a"), ("trace_id", "t")]⟩ _ _ (by decide)
    rfl).mpr
  decide +kernel

/-- A trace stays bound although the request of its call conflicts. -/
theorem conflict_keeps_trace :
    ∃ last, bind "component/request/c" [("trace_id", "t"), ("request_id", "a")]
        (runBinds [firstBind]) = .error .valueError last ∧ last ≠ runBinds [firstBind] :=
  ⟨_, rfl, by decide +kernel⟩

end StateFlow.Adapters
