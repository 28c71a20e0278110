import StateFlow.Library.Selection

namespace StateFlow.Replica
open Selection

variable {κ σ : Type} [DecidableEq κ]

/-- A log lists the statuses that its keys take. The last one of a key counts. -/
def latest (log : List (κ × σ)) (key : κ) : Option σ := (lastWith Prod.fst key log).map Prod.snd

@[simp] theorem latest_nil (key : κ) : latest ([] : List (κ × σ)) key = none := rfl

theorem latest_concat (log : List (κ × σ)) (entry : κ × σ) (key : κ) :
    latest (log ++ [entry]) key = if entry.1 = key then some entry.2 else latest log key := by
  unfold latest
  rw [lastWith_concat]
  split <;> rfl

/-- The later part of a log decides before the earlier one. -/
theorem latest_append (first second : List (κ × σ)) (key : κ) :
    latest (first ++ second) key = (latest second key).or (latest first key) := by
  unfold latest lastWith
  rw [List.reverse_append, List.find?_append]
  cases second.reverse.find? fun item => decide (item.1 = key) <;> rfl

theorem mem_of_latest {log : List (κ × σ)} {key : κ} {status : σ}
    (found : latest log key = some status) : (key, status) ∈ log := by
  obtain ⟨entry, last, rfl⟩ := Option.map_eq_some_iff.mp found
  obtain ⟨member, rfl⟩ := lastWith_some Prod.fst last
  exact member

theorem latest_eq_none {log : List (κ × σ)} {key : κ} :
    latest log key = none ↔ key ∉ log.map Prod.fst := by
  constructor
  · intro absent member
    obtain ⟨entry, inside, same⟩ := List.mem_map.mp member
    unfold latest lastWith at absent
    have none := List.find?_eq_none.mp (Option.map_eq_none_iff.mp absent) entry
      (List.mem_reverse.mpr inside)
    exact none (decide_eq_true same)
  · intro absent
    cases found : latest log key with
    | none => rfl
    | some status => exact absurd (List.mem_map_of_mem (mem_of_latest found)) absent

/-- A key that a part of the log leaves alone keeps its status. -/
theorem latest_append_of_absent {first second : List (κ × σ)} {key : κ}
    (absent : key ∉ second.map Prod.fst) : latest (first ++ second) key = latest first key := by
  rw [latest_append, latest_eq_none.mpr absent]
  rfl

/-- A replica has the latest status of each key that it holds, or the rest of the log still
mentions the key. -/
def Tracks (seen ahead : List (κ × σ)) (replica : κ → Option σ) : Prop :=
  ∀ key status found, latest seen key = some status → replica key = some found →
    found = status ∨ key ∈ ahead.map Prod.fst

theorem tracks_nil (ahead : List (κ × σ)) (replica : κ → Option σ) : Tracks [] ahead replica := by
  intro key status found impossible
  cases impossible

/-- A replica that has seen the whole log has the latest statuses. -/
theorem Tracks.settled {log : List (κ × σ)} {replica : κ → Option σ} (tracks : Tracks log [] replica)
    {key : κ} {status found : σ} (last : latest log key = some status)
    (held : replica key = some found) : found = status :=
  (tracks key status found last held).resolve_right List.not_mem_nil

section Delivery
variable {seen part ahead entries : List (κ × σ)} {replica after : κ → Option σ}

/-- The entries of an interrupted delivery name the keys of the next part or their latest
statuses. -/
theorem Tracks.interrupted (tracks : Tracks seen (part ++ ahead) replica)
    (each : ∀ entry ∈ entries, entry.1 ∈ part.map Prod.fst ∨
      ∀ status, latest (seen ++ part) entry.1 = some status → entry.2 = status)
    (written : ∀ key, after key = replica key ∨
      ∃ status, (key, status) ∈ entries ∧ after key = some status) :
    Tracks seen (part ++ ahead) after := by
  intro key status found last held
  rcases written key with kept | ⟨other, member, set⟩
  · exact tracks key status found last (kept ▸ held)
  · cases held.symm.trans set
    by_cases mentioned : key ∈ part.map Prod.fst
    · refine Or.inr ?_
      rw [List.map_append]
      exact List.mem_append_left _ mentioned
    · have agrees := (each _ member).resolve_left mentioned
      exact Or.inl (agrees status ((latest_append_of_absent mentioned).trans last))

/-- A whole delivery writes the latest statuses. A key that it leaves out is unchanged by the part
or already has its latest status. -/
theorem Tracks.delivered (tracks : Tracks seen (part ++ ahead) replica)
    (final : ∀ key status other, latest entries key = some status →
      latest (seen ++ part) key = some other → status = other)
    (complete : ∀ key status found, key ∉ entries.map Prod.fst → key ∈ part.map Prod.fst →
      latest (seen ++ part) key = some status → replica key = some found → found = status)
    (written : ∀ key, after key = (latest entries key).or (replica key)) :
    Tracks (seen ++ part) ahead after := by
  intro key status found last held
  rw [written] at held
  cases entry : latest entries key with
  | some other =>
      rw [entry] at held
      cases held
      exact Or.inl (final key found status entry last)
  | none =>
      rw [entry] at held
      have absent := latest_eq_none.mp entry
      by_cases mentioned : key ∈ part.map Prod.fst
      · exact Or.inl (complete key status found absent mentioned last held)
      · rw [latest_append_of_absent mentioned] at last
        rcases tracks key status found last held with same | later
        · exact Or.inl same
        · rw [List.map_append] at later
          exact Or.inr ((List.mem_append.mp later).resolve_left mentioned)

end Delivery

section History
variable {α ι : Type} (object : α → ι) (removes : α → Bool) (mark : α → Option (κ × σ))

/-- A change is live when it does not remove its object and no later change has the object. -/
def Live (changes : List α) (change : α) : Prop :=
  removes change = false ∧ ∃ before after, changes = before ++ change :: after ∧
    ∀ later ∈ after, object later ≠ object change

/-- While an object lives, its own next change and no other change marks its key. -/
def Exclusive (changes : List α) : Prop :=
  ∀ before change between later after, changes = before ++ change :: (between ++ later :: after) →
    removes change = false → (∀ other ∈ between, object other ≠ object change) →
    ∀ entry, mark change = some entry →
      (object later = object change ↔ (mark later).map Prod.fst = some entry.1)

variable {object removes mark}

/-- One more change replaces the live change of its object. -/
theorem live_concat {changes : List α} {last change : α} :
    Live object removes (changes ++ [last]) change ↔
      (removes change = false ∧ change = last) ∨
        (Live object removes changes change ∧ object last ≠ object change) := by
  constructor
  · rintro ⟨kept, before, after, split, none⟩
    rcases List.eq_nil_or_concat after with rfl | ⟨rest, final, rfl⟩
    · have parts := List.append_inj' split rfl
      exact Or.inl ⟨kept, (List.singleton_inj.mp parts.2).symm⟩
    · have parts : changes ++ [last] = (before ++ change :: rest) ++ [final] := by
        rw [split]
        simp
      obtain ⟨early, same⟩ := List.append_inj' parts rfl
      obtain rfl := List.singleton_inj.mp same
      refine Or.inr ⟨⟨kept, before, rest, early, fun later member => ?_⟩, ?_⟩
      · exact none later (by simp [member])
      · exact none last (by simp)
  · rintro (⟨kept, rfl⟩ | ⟨⟨kept, before, after, rfl, none⟩, other⟩)
    · exact ⟨kept, changes, [], rfl, fun _ impossible => nomatch impossible⟩
    · refine ⟨kept, before, after ++ [last], by simp, fun later member => ?_⟩
      rcases List.mem_append.mp member with inside | final
      · exact none later inside
      · rw [List.mem_singleton.mp final]
        exact other

omit [DecidableEq κ] in
theorem not_live_nil {change : α} : ¬ Live object removes [] change := by
  rintro ⟨_, before, after, split, _⟩
  simp at split

omit [DecidableEq κ] in
theorem Exclusive.of_append {first second : List α}
    (exclusive : Exclusive object removes mark (first ++ second)) :
    Exclusive object removes mark first := by
  intro before change between later after split
  exact exclusive before change between later (after ++ second) (by simp [split])

omit [DecidableEq κ] in
theorem mem_marks_keys {changes : List α} {key : κ}
    (member : key ∈ (changes.filterMap mark).map Prod.fst) :
    ∃ change ∈ changes, (mark change).map Prod.fst = some key := by
  obtain ⟨entry, marked, rfl⟩ := List.mem_map.mp member
  obtain ⟨change, inside, same⟩ := List.mem_filterMap.mp marked
  exact ⟨change, inside, by rw [same]; rfl⟩

/-- The mark of a live change is the latest one of its key. -/
theorem latest_of_live {changes : List α} {change : α} {entry : κ × σ}
    (exclusive : Exclusive object removes mark changes) (live : Live object removes changes change)
    (marked : mark change = some entry) :
    latest (changes.filterMap mark) entry.1 = some entry.2 := by
  obtain ⟨kept, before, after, split, last⟩ := live
  have absent : entry.1 ∉ (after.filterMap mark).map Prod.fst := by
    intro member
    obtain ⟨later, inside, same⟩ := mem_marks_keys member
    obtain ⟨between, rest, parts⟩ := List.append_of_mem inside
    have others : ∀ other ∈ between, object other ≠ object change := by
      intro other held
      exact last other (parts ▸ List.mem_append_left _ held)
    have own := exclusive before change between later rest (by rw [split, parts]) kept others entry
      marked
    exact last later inside (own.mpr same)
  rw [split, List.filterMap_append, List.filterMap_cons_some marked,
    ← List.singleton_append, ← List.append_assoc, latest_append_of_absent absent, latest_concat]
  exact if_pos rfl

omit [DecidableEq κ] in
/-- A list with an item of some kind has a first one. -/
theorem exists_first {items : List α} {property : α → Prop} (some : ∃ item ∈ items, property item) :
    ∃ before item after, items = before ++ item :: after ∧ property item ∧
      ∀ other ∈ before, ¬ property other := by
  induction items with
  | nil =>
      obtain ⟨item, inside, _⟩ := some
      cases inside
  | cons item rest ih =>
      by_cases holds : property item
      · exact ⟨[], item, rest, rfl, holds, fun _ none => nomatch none⟩
      · obtain ⟨found, inside, true⟩ := some
        have later : found ∈ rest := by
          rcases List.mem_cons.mp inside with rfl | later
          · exact absurd true holds
          · exact later
        obtain ⟨before, first, after, split, satisfied, none⟩ := ih ⟨found, later, true⟩
        refine ⟨item :: before, first, after, by rw [split]; rfl, satisfied, ?_⟩
        intro other held
        rcases List.mem_cons.mp held with rfl | held
        · exact holds
        · exact none other held

/-- The last change of a key splits the changes. -/
theorem latest_split {changes : List α} {key : κ} {status : σ}
    (last : latest (changes.filterMap mark) key = some status) :
    ∃ before change after, changes = before ++ change :: after ∧
      mark change = some (key, status) ∧ key ∉ (after.filterMap mark).map Prod.fst := by
  induction changes using List.reverseRecOn with
  | nil => cases last
  | append_singleton rest change ih =>
      rw [List.filterMap_append] at last
      by_cases own : (mark change).map Prod.fst = some key
      · obtain ⟨entry, marked, rfl⟩ := Option.map_eq_some_iff.mp own
        have single : [change].filterMap mark = [entry] := by simp [marked]
        rw [single, latest_concat, if_pos rfl] at last
        cases last
        exact ⟨rest, change, [], rfl, marked, List.not_mem_nil⟩
      · have absent : key ∉ ([change].filterMap mark).map Prod.fst := by
          intro member
          obtain ⟨other, inside, same⟩ := mem_marks_keys member
          rw [List.mem_singleton.mp inside] at same
          exact own same
        rw [latest_append_of_absent absent] at last
        obtain ⟨before, found, after, split, marked, none⟩ := ih last
        refine ⟨before, found, after ++ [change], by rw [split]; simp, marked, ?_⟩
        rw [List.filterMap_append, List.map_append, List.mem_append]
        exact not_or.mpr ⟨none, absent⟩

/-- The latest mark of a key comes from a live change or from the removal of its object. -/
theorem live_or_removed {changes : List α} {key : κ} {status : σ}
    (exclusive : Exclusive object removes mark changes)
    (last : latest (changes.filterMap mark) key = some status) :
    ∃ change ∈ changes, mark change = some (key, status) ∧
      (removes change = true ∨ Live object removes changes change) := by
  obtain ⟨before, change, after, split, marked, absent⟩ := latest_split last
  refine ⟨change, by rw [split]; simp, marked, ?_⟩
  by_cases removed : removes change = true
  · exact Or.inl removed
  · have kept : removes change = false := by simpa using removed
    refine Or.inr ⟨kept, before, after, split, ?_⟩
    by_contra replaced
    push Not at replaced
    obtain ⟨between, later, rest, parts, same, none⟩ := exists_first replaced
    have own := exclusive before change between later rest (by rw [split, parts]) kept none _ marked
    apply absent
    obtain ⟨entry, found, rfl⟩ := Option.map_eq_some_iff.mp (own.mp same)
    exact List.mem_map_of_mem (List.mem_filterMap.mpr ⟨later, by rw [parts]; simp, found⟩)

end History

end StateFlow.Replica
