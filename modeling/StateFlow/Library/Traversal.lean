import Mathlib.Combinatorics.SimpleGraph.Metric
import StateFlow.Library.Table

namespace StateFlow.Traversal
open Table

variable {ε κ α : Type}

/-- An edge touches a set that holds one of its ends. -/
def Touches (ends : ε → α × α) (nodes : α → Prop) (edge : ε) : Prop :=
  nodes (ends edge).1 ∨ nodes (ends edge).2

/-- The edges lead from the roots to a node within some hops. -/
def Reached (ends : ε → α × α) (Edge : ε → Prop) (roots : List α) : Nat → α → Prop
  | 0, node => node ∈ roots
  | hops + 1, node => Reached ends Edge roots hops node ∨
      ∃ edge, Edge edge ∧ Touches ends (Reached ends Edge roots hops) edge ∧
        (node = (ends edge).1 ∨ node = (ends edge).2)

section Reached
variable {ends : ε → α × α} {Edge Fewer : ε → Prop} {roots : List α}

theorem Touches.mono {nodes more : α → Prop} {edge : ε} (touches : Touches ends nodes edge)
    (subset : ∀ node, nodes node → more node) : Touches ends more edge :=
  touches.imp (subset _) (subset _)

theorem reached_mono {early late : Nat} (order : early ≤ late) {node : α}
    (reached : Reached ends Edge roots early node) : Reached ends Edge roots late node := by
  induction order with
  | refl => exact reached
  | step _ ih => exact Or.inl ih

/-- More edges reach more nodes. -/
theorem reached_subset (subset : ∀ edge, Fewer edge → Edge edge) {hops : Nat} {node : α}
    (reached : Reached ends Fewer roots hops node) : Reached ends Edge roots hops node := by
  induction hops generalizing node with
  | zero => exact reached
  | succ hops ih =>
      rcases reached with before | ⟨edge, inside, touches, ended⟩
      · exact Or.inl (ih before)
      · exact Or.inr ⟨edge, subset edge inside, touches.mono fun _ => ih, ended⟩

/-- A node that is not a root lies on an edge, and some edge touches a root. -/
theorem reached_away {hops : Nat} {node : α} (reached : Reached ends Edge roots hops node) :
    node ∈ roots ∨ (∃ edge, Edge edge ∧ (node = (ends edge).1 ∨ node = (ends edge).2)) ∧
      ∃ edge, Edge edge ∧ Touches ends (· ∈ roots) edge := by
  induction hops generalizing node with
  | zero => exact Or.inl reached
  | succ hops ih =>
      rcases reached with before | ⟨edge, inside, touches, ended⟩
      · exact ih before
      · refine Or.inr ⟨⟨edge, inside, ended⟩, ?_⟩
        rcases touches with source | target
        · exact (ih source).elim (fun root => ⟨edge, inside, Or.inl root⟩) And.right
        · exact (ih target).elim (fun root => ⟨edge, inside, Or.inr root⟩) And.right

/-- Edges that touch nothing in time reach nothing. -/
theorem reached_of_untouched {depth : Nat}
    (untouched : ∀ edge, Edge edge → ¬ Fewer edge →
      ∀ hops < depth, ¬ Touches ends (Reached ends Fewer roots hops) edge)
    {hops : Nat} (near : hops ≤ depth) {node : α} (reached : Reached ends Edge roots hops node) :
    Reached ends Fewer roots hops node := by
  induction hops generalizing node with
  | zero => exact reached
  | succ hops ih =>
      rcases reached with before | ⟨edge, inside, touches, ended⟩
      · exact Or.inl (ih (Nat.le_of_succ_le near) before)
      · have here : Touches ends (Reached ends Fewer roots hops) edge :=
          touches.mono fun _ => ih (Nat.le_of_succ_le near)
        have fewer : Fewer edge := by
          by_contra other
          exact untouched edge inside other hops near here
        exact Or.inr ⟨edge, fewer, here, ended⟩

end Reached

section Distance
variable {ends : ε → α × α} {Edge : ε → Prop} {roots : List α}

/-- The edges link their ends in both directions. -/
def linked (ends : ε → α × α) (Edge : ε → Prop) : SimpleGraph α :=
  SimpleGraph.fromRel fun first second => ∃ edge, Edge edge ∧ ends edge = (first, second)

/-- The distance to a node from the nearest root. -/
noncomputable def distance (ends : ε → α × α) (Edge : ε → Prop) (roots : List α) (node : α) : ℕ∞ :=
  ⨅ root ∈ roots, (linked ends Edge).edist root node

theorem linked_adj_iff {first second : α} :
    (linked ends Edge).Adj first second ↔ first ≠ second ∧ ∃ edge, Edge edge ∧
      (ends edge = (first, second) ∨ ends edge = (second, first)) := by
  rw [linked, SimpleGraph.fromRel_adj]
  refine and_congr_right fun _ => ?_
  constructor
  · rintro (⟨edge, inside, forth⟩ | ⟨edge, inside, back⟩)
    · exact ⟨edge, inside, Or.inl forth⟩
    · exact ⟨edge, inside, Or.inr back⟩
  · rintro ⟨edge, inside, forth | back⟩
    · exact Or.inl ⟨edge, inside, forth⟩
    · exact Or.inr ⟨edge, inside, back⟩

/-- A walk reaches its end in as many hops as it has steps. -/
theorem reached_of_walk {root node : α} (walk : (linked ends Edge).Walk node root)
    (listed : root ∈ roots) : Reached ends Edge roots walk.length node := by
  induction walk with
  | nil => exact listed
  | cons adjacent rest ih =>
      obtain ⟨_, edge, inside, joined⟩ := linked_adj_iff.mp adjacent
      refine Or.inr ⟨edge, inside, ?_, ?_⟩
      · rcases joined with forth | back
        · exact Or.inr (forth ▸ ih listed)
        · exact Or.inl (back ▸ ih listed)
      · rcases joined with forth | back
        · exact Or.inl (forth ▸ rfl)
        · exact Or.inr (back ▸ rfl)

/-- What some hops reach is the end of a short walk. -/
theorem walk_of_reached {hops : Nat} {node : α} (reached : Reached ends Edge roots hops node) :
    ∃ root ∈ roots, ∃ walk : (linked ends Edge).Walk root node, walk.length ≤ hops := by
  induction hops generalizing node with
  | zero => exact ⟨node, reached, .nil, Nat.le_refl 0⟩
  | succ hops ih =>
      -- A walk to one end of an edge extends to both ends.
      have extend {near far : α} (there : Reached ends Edge roots hops near) {edge : ε}
          (inside : Edge edge) (joined : ends edge = (near, far) ∨ ends edge = (far, near)) :
          ∃ root ∈ roots, ∃ walk : (linked ends Edge).Walk root far, walk.length ≤ hops + 1 := by
        obtain ⟨root, listed, walk, short⟩ := ih there
        by_cases same : near = far
        · subst same
          exact ⟨root, listed, walk, Nat.le_succ_of_le short⟩
        · have adjacent := linked_adj_iff.mpr ⟨same, edge, inside, joined⟩
          refine ⟨root, listed, walk.concat adjacent, ?_⟩
          rw [SimpleGraph.Walk.length_concat]
          exact Nat.succ_le_succ short
      have stay {near : α} (there : Reached ends Edge roots hops near) :
          ∃ root ∈ roots, ∃ walk : (linked ends Edge).Walk root near, walk.length ≤ hops + 1 := by
        obtain ⟨root, listed, walk, short⟩ := ih there
        exact ⟨root, listed, walk, Nat.le_succ_of_le short⟩
      rcases reached with before | ⟨edge, inside, first | second, rfl | rfl⟩
      · exact stay before
      · exact stay first
      · exact extend first inside (Or.inl rfl)
      · exact extend second inside (Or.inr rfl)
      · exact stay second

/-- Some hops reach exactly the nodes within their distance. -/
theorem reached_iff_distance {hops : Nat} {node : α} :
    Reached ends Edge roots hops node ↔ distance ends Edge roots node ≤ hops := by
  have near : distance ends Edge roots node ≤ hops ↔
      ∃ root ∈ roots, (linked ends Edge).edist root node ≤ hops := by
    simp only [distance, ← ENat.lt_natCast_add_one_iff, iInf_lt_iff, exists_prop]
  rw [near]
  constructor
  · intro reached
    obtain ⟨root, listed, walk, short⟩ := walk_of_reached reached
    exact ⟨root, listed, (SimpleGraph.edist_le walk).trans (Nat.cast_le.mpr short)⟩
  · rintro ⟨root, listed, short⟩
    have finite : (linked ends Edge).edist root node ≠ ⊤ :=
      ne_top_of_le_ne_top (ENat.natCast_ne_top hops) short
    obtain ⟨walk, exact_length⟩ := SimpleGraph.exists_walk_of_edist_ne_top finite
    rw [← exact_length, Nat.cast_le, ← SimpleGraph.Walk.length_reverse] at short
    exact reached_mono short (reached_of_walk walk.reverse listed)

end Distance

section Explore
variable [DecidableEq κ] [DecidableEq α] (ends : ε → α × α) (name : ε → κ) (allowed : ε → Bool)

/-- An allowed edge that touches the frontier is filed and its ends are noted. -/
def visitEdge (frontier : List α) (level : List α × List (κ × ε)) (edge : ε) :
    List α × List (κ × ε) :=
  if !allowed edge then level
  else if (ends edge).1 ∈ frontier || (ends edge).2 ∈ frontier then
    (level.1 ++ [(ends edge).1, (ends edge).2], assign (name edge) edge level.2)
  else level

/-- The levels of a search end with their depth or with an empty frontier. -/
def explore (edges : List ε) :
    Nat → List α → List α → List (κ × ε) → List α × List (κ × ε)
  | 0, visited, _, included => (visited, included)
  | hops + 1, visited, frontier, included =>
      let level := edges.foldl (visitEdge ends name allowed frontier) ([], included)
      let next := level.1.filter fun node => node ∉ visited
      if next = [] then (visited, level.2)
      else explore edges hops (visited ++ next) next level.2

variable {ends name allowed} {edges : List ε} {frontier : List α}

/-- The frontier picks an edge. -/
def Picked (ends : ε → α × α) (allowed : ε → Bool) (frontier : List α) (edge : ε) : Prop :=
  allowed edge = true ∧ Touches ends (· ∈ frontier) edge

/-- An unpicked edge leaves the level. -/
theorem visitEdge_cases (level : List α × List (κ × ε)) (edge : ε) :
    Picked ends allowed frontier edge ∧ visitEdge ends name allowed frontier level edge =
        (level.1 ++ [(ends edge).1, (ends edge).2], assign (name edge) edge level.2) ∨
      ¬ Picked ends allowed frontier edge ∧
        visitEdge ends name allowed frontier level edge = level := by
  unfold visitEdge Picked Touches
  cases admitted : allowed edge with
  | false => exact Or.inr ⟨fun picked => by simp at picked, rfl⟩
  | true =>
      by_cases touches : (ends edge).1 ∈ frontier ∨ (ends edge).2 ∈ frontier
      · exact Or.inl ⟨⟨rfl, touches⟩, by simp [touches]⟩
      · exact Or.inr ⟨fun picked => touches picked.2, by simp [touches]⟩

/-- Every entry files some of the edges under its name. -/
def FiledBy (name : ε → κ) (edges : List ε) (table : List (κ × ε)) : Prop :=
  ∀ entry ∈ table, entry.2 ∈ edges ∧ entry.1 = name entry.2

/-- The names of the edges are distinct. -/
def Distinct (name : ε → κ) (edges : List ε) : Prop :=
  ∀ first ∈ edges, ∀ second ∈ edges, name first = name second → first = second

omit [DecidableEq α] in
/-- An edge that is filed again replaces itself. -/
theorem mem_assign_filed {table : List (κ × ε)} {edge : ε} {entry : κ × ε}
    (distinct : Distinct name edges) (filed : FiledBy name edges table) (member : edge ∈ edges) :
    entry ∈ assign (name edge) edge table ↔ entry = (name edge, edge) ∨ entry ∈ table := by
  refine ⟨mem_assign, ?_⟩
  induction table with
  | nil =>
      rintro (same | none)
      · exact same ▸ List.mem_singleton_self _
      · exact absurd none List.not_mem_nil
  | cons first rest ih =>
      have restFiled : FiledBy name edges rest := fun other inside =>
        filed other (List.mem_cons_of_mem _ inside)
      obtain ⟨inside, named⟩ := filed first List.mem_cons_self
      unfold assign
      by_cases here : first.1 == name edge
      · rw [if_pos here]
        have names : name first.2 = name edge := named.symm.trans (LawfulBEq.eq_of_beq here)
        have same : first = (name edge, edge) :=
          Prod.ext (LawfulBEq.eq_of_beq here) (distinct first.2 inside edge member names)
        rw [same]
        rintro (new | old)
        · exact new ▸ List.mem_cons_self
        · exact old
      · rw [if_neg here]
        rintro (new | old)
        · exact List.mem_cons_of_mem _ (ih restFiled (Or.inl new))
        · rcases List.mem_cons.mp old with same | later
          · exact same ▸ List.mem_cons_self
          · exact List.mem_cons_of_mem _ (ih restFiled (Or.inr later))

omit [DecidableEq α] in
theorem filed_assign {table : List (κ × ε)} {edge : ε} (filed : FiledBy name edges table)
    (member : edge ∈ edges) : FiledBy name edges (assign (name edge) edge table) := by
  intro entry inside
  rcases mem_assign inside with new | old
  · rw [new]
    exact ⟨member, rfl⟩
  · exact filed entry old

/-- What one level of a search adds to its start. -/
structure Level (ends : ε → α × α) (name : ε → κ) (allowed : ε → Bool) (edges : List ε)
    (frontier : List α) (passed : List ε) (start level : List α × List (κ × ε)) : Prop where
  nodes : ∀ node, node ∈ level.1 ↔ node ∈ start.1 ∨
    ∃ edge ∈ passed, Picked ends allowed frontier edge ∧
      (node = (ends edge).1 ∨ node = (ends edge).2)
  entries : ∀ entry, entry ∈ level.2 ↔ entry ∈ start.2 ∨
    ∃ edge ∈ passed, Picked ends allowed frontier edge ∧ entry = (name edge, edge)
  filed : FiledBy name edges level.2

theorem level_visited (distinct : Distinct name edges) (passed : List ε)
    (inside : ∀ edge ∈ passed, edge ∈ edges) (start : List α × List (κ × ε))
    (filed : FiledBy name edges start.2) :
    Level ends name allowed edges frontier passed start
      (passed.foldl (visitEdge ends name allowed frontier) start) := by
  induction passed generalizing start with
  | nil => exact ⟨by simp, by simp, filed⟩
  | cons edge rest ih =>
      have here := inside edge List.mem_cons_self
      have later := fun other member => inside other (List.mem_cons_of_mem edge member)
      rw [List.foldl_cons]
      rcases @visitEdge_cases _ _ _ _ _ ends name allowed frontier start edge with
        ⟨picked, visited⟩ | ⟨unpicked, visited⟩
      · rw [visited]
        obtain ⟨nodes, entries, kept⟩ := ih later
          (start.1 ++ [(ends edge).1, (ends edge).2], assign (name edge) edge start.2)
          (filed_assign filed here)
        refine ⟨fun node => ?_, fun entry => ?_, kept⟩
        · rw [nodes]
          simp [picked, or_assoc]
        · rw [entries]
          dsimp only
          rw [mem_assign_filed distinct filed here]
          simp only [List.mem_cons, exists_eq_or_imp, picked, true_and]
          rw [or_assoc, or_left_comm]
      · rw [visited]
        obtain ⟨nodes, entries, kept⟩ := ih later start filed
        refine ⟨fun node => ?_, fun entry => ?_, kept⟩
        · rw [nodes]
          simp [unpicked]
        · rw [entries]
          simp [unpicked]

/-- The allowed edges of a list. -/
def Admitted (allowed : ε → Bool) (edges : List ε) (edge : ε) : Prop :=
  edge ∈ edges ∧ allowed edge = true

/-- A search has visited what some hops reach and has filed the edges that lead there. -/
structure Explored (ends : ε → α × α) (name : ε → κ) (allowed : ε → Bool) (edges : List ε)
    (roots : List α) (hops : Nat) (visited frontier : List α) (included : List (κ × ε)) :
    Prop where
  filed : FiledBy name edges included
  nodes : ∀ node, node ∈ visited ↔ Reached ends (Admitted allowed edges) roots hops node
  front : ∀ node ∈ frontier, node ∈ visited
  behind : ∀ node ∈ visited, node ∈ frontier ∨
    ∃ early < hops, Reached ends (Admitted allowed edges) roots early node
  complete : ∀ edge, Admitted allowed edges edge → ∀ early < hops,
    Touches ends (Reached ends (Admitted allowed edges) roots early) edge →
      (name edge, edge) ∈ included
  sound : ∀ entry ∈ included, allowed entry.2 = true ∧ ∃ early < hops,
    Touches ends (Reached ends (Admitted allowed edges) roots early) entry.2

variable {roots : List α}

omit [DecidableEq κ] [DecidableEq α] in
theorem explored_start : Explored ends name allowed edges roots 0 roots roots [] where
  filed := fun _ member => absurd member List.not_mem_nil
  nodes := fun _ => Iff.rfl
  front := fun _ member => member
  behind := fun _ member => Or.inl member
  complete := fun _ _ _ early => absurd early (Nat.not_lt_zero _)
  sound := fun _ member => absurd member List.not_mem_nil

omit [DecidableEq κ] in
/-- One level moves a search by one hop. -/
theorem explored_level {hops : Nat} {visited : List α} {included : List (κ × ε)}
    {level : List α × List (κ × ε)}
    (explored : Explored ends name allowed edges roots hops visited frontier included)
    (levelled : Level ends name allowed edges frontier edges ([], included) level) :
    Explored ends name allowed edges roots (hops + 1)
      (visited ++ level.1.filter fun node => node ∉ visited)
      (level.1.filter fun node => node ∉ visited) level.2 := by
  have visitedIff (node : α) :
      node ∈ visited ++ level.1.filter (fun node => node ∉ visited) ↔
        node ∈ visited ∨ node ∈ level.1 := by
    rw [List.mem_append, List.mem_filter, decide_eq_true_eq]
    by_cases old : node ∈ visited <;> simp [old]
  have pickedReached {edge : ε} (picked : Picked ends allowed frontier edge) :
      Touches ends (Reached ends (Admitted allowed edges) roots hops) edge :=
    picked.2.mono fun node member => (explored.nodes node).mp (explored.front node member)
  -- An edge behind the frontier was filed by an earlier level.
  have known {edge : ε} (admitted : Admitted allowed edges edge)
      (touches : Touches ends (Reached ends (Admitted allowed edges) roots hops) edge) :
      Picked ends allowed frontier edge ∨ ∃ early < hops,
        Touches ends (Reached ends (Admitted allowed edges) roots early) edge := by
    rcases touches with first | second
    · rcases explored.behind _ ((explored.nodes _).mpr first) with front | ⟨early, order, there⟩
      · exact Or.inl ⟨admitted.2, Or.inl front⟩
      · exact Or.inr ⟨early, order, Or.inl there⟩
    · rcases explored.behind _ ((explored.nodes _).mpr second) with front | ⟨early, order, there⟩
      · exact Or.inl ⟨admitted.2, Or.inr front⟩
      · exact Or.inr ⟨early, order, Or.inr there⟩
  refine ⟨levelled.filed, fun node => ?_, fun node member => List.mem_append_right _ member,
    fun node member => ?_, fun edge admitted early order touches => ?_, fun entry member => ?_⟩
  · rw [visitedIff, levelled.nodes]
    constructor
    · rintro (old | none | ⟨edge, inside, picked, ended⟩)
      · exact Or.inl ((explored.nodes node).mp old)
      · exact absurd none List.not_mem_nil
      · exact Or.inr ⟨edge, ⟨inside, picked.1⟩, pickedReached picked, ended⟩
    · rintro (old | ⟨edge, admitted, touches, ended⟩)
      · exact Or.inl ((explored.nodes node).mpr old)
      · rcases known admitted touches with picked | ⟨early, order, before⟩
        · exact Or.inr (Or.inr ⟨edge, admitted.1, picked, ended⟩)
        · have there : Reached ends (Admitted allowed edges) roots (early + 1) node :=
            Or.inr ⟨edge, admitted, before, ended⟩
          exact Or.inl ((explored.nodes node).mpr (reached_mono order there))
  · rcases List.mem_append.mp member with old | new
    · exact Or.inr ⟨hops, Nat.lt_succ_self hops, (explored.nodes node).mp old⟩
    · exact Or.inl new
  · have now := touches.mono fun _ => reached_mono (Nat.le_of_lt_succ order)
    rw [levelled.entries]
    rcases known admitted now with picked | ⟨earlier, before, touched⟩
    · exact Or.inr ⟨edge, admitted.1, picked, rfl⟩
    · exact Or.inl (explored.complete edge admitted earlier before touched)
  · rcases (levelled.entries entry).mp member with old | ⟨edge, _, picked, rfl⟩
    · obtain ⟨admitted, early, order, touches⟩ := explored.sound entry old
      exact ⟨admitted, early, Nat.lt_succ_of_lt order, touches⟩
    · exact ⟨picked.1, hops, Nat.lt_succ_self hops, pickedReached picked⟩

omit [DecidableEq κ] in
/-- A search without a frontier stays as it is. -/
theorem explored_stays {hops : Nat} {visited : List α} {included : List (κ × ε)}
    (explored : Explored ends name allowed edges roots hops visited [] included) (more : Nat) :
    Explored ends name allowed edges roots (hops + more) visited [] included := by
  have still : Level ends name allowed edges [] edges ([], included) ([], included) := by
    refine ⟨fun node => ?_, fun entry => ?_, explored.filed⟩
    · simp [Picked, Touches]
    · simp [Picked, Touches]
  induction more with
  | zero => exact explored
  | succ more ih => simpa [Nat.add_assoc] using explored_level ih still

/-- The search reaches what its depth reaches. -/
theorem explored_explore (distinct : Distinct name edges) (depth : Nat) {hops : Nat}
    {visited : List α} {included : List (κ × ε)}
    (explored : Explored ends name allowed edges roots hops visited frontier included) :
    ∃ last, Explored ends name allowed edges roots (hops + depth)
      (explore ends name allowed edges depth visited frontier included).1 last
      (explore ends name allowed edges depth visited frontier included).2 := by
  induction depth generalizing hops visited frontier included with
  | zero => exact ⟨frontier, explored⟩
  | succ depth ih =>
      have levelled := explored_level explored
        (level_visited distinct edges (fun _ member => member) ([], included) explored.filed)
      unfold explore
      dsimp only
      split
      · rename_i ended
        rw [ended, List.append_nil] at levelled
        have rest := explored_stays levelled depth
        rw [Nat.add_right_comm] at rest
        exact ⟨[], rest⟩
      · obtain ⟨last, rest⟩ := ih levelled
        rw [Nat.add_right_comm] at rest
        exact ⟨last, rest⟩

/-- The edges that a search of some depth files. -/
theorem mem_explore (distinct : Distinct name edges) (depth : Nat) (entry : κ × ε) :
    entry ∈ (explore ends name allowed edges depth roots roots []).2 ↔
      Admitted allowed edges entry.2 ∧ entry.1 = name entry.2 ∧ ∃ early < depth,
        Touches ends (Reached ends (Admitted allowed edges) roots early) entry.2 := by
  obtain ⟨last, explored⟩ := explored_explore distinct depth
    (explored_start : Explored ends name allowed edges roots 0 roots roots [])
  rw [Nat.zero_add] at explored
  constructor
  · intro member
    obtain ⟨inside, named⟩ := explored.filed entry member
    obtain ⟨admitted, early, order, touches⟩ := explored.sound entry member
    exact ⟨⟨inside, admitted⟩, named, early, order, touches⟩
  · rintro ⟨admitted, named, early, order, touches⟩
    have filed := explored.complete entry.2 admitted early order touches
    rw [← named] at filed
    exact filed

theorem foldl_visitEdge_nodup (passed : List ε) {level : List α × List (κ × ε)}
    (distinct : (level.2.map Prod.fst).Nodup) :
    ((passed.foldl (visitEdge ends name allowed frontier) level).2.map Prod.fst).Nodup := by
  induction passed generalizing level with
  | nil => exact distinct
  | cons edge rest ih =>
      rw [List.foldl_cons]
      apply ih
      rcases @visitEdge_cases _ _ _ _ _ ends name allowed frontier level edge with
        ⟨_, visited⟩ | ⟨_, visited⟩
      · rw [visited]
        exact assign_keys_nodup distinct
      · rw [visited]
        exact distinct

/-- A search files every name once. -/
theorem explore_nodup (depth : Nat) {visited : List α} {included : List (κ × ε)}
    (distinct : (included.map Prod.fst).Nodup) :
    ((explore ends name allowed edges depth visited frontier included).2.map Prod.fst).Nodup := by
  induction depth generalizing visited frontier included with
  | zero => exact distinct
  | succ depth ih =>
      have filed := @foldl_visitEdge_nodup _ _ _ _ _ ends name allowed frontier edges ([], included)
        distinct
      unfold explore
      dsimp only
      split
      · exact filed
      · exact ih filed

/-- Two searches agree when the edges that only one of them knows touch nothing in time. -/
theorem explore_agree_iff {fewer : List ε} (distinct : Distinct name edges)
    (subset : ∀ edge ∈ fewer, edge ∈ edges) (depth : Nat) :
    (∀ entry, entry ∈ (explore ends name allowed edges depth roots roots []).2 ↔
      entry ∈ (explore ends name allowed fewer depth roots roots []).2) ↔
    ∀ edge, Admitted allowed edges edge → edge ∉ fewer → ∀ hops < depth,
      ¬ Touches ends (Reached ends (Admitted allowed fewer) roots hops) edge := by
  have fewerDistinct : Distinct name fewer := fun first firstMember second secondMember =>
    distinct first (subset first firstMember) second (subset second secondMember)
  have less : ∀ edge, Admitted allowed fewer edge → Admitted allowed edges edge :=
    fun edge admitted => ⟨subset edge admitted.1, admitted.2⟩
  simp only [mem_explore distinct, mem_explore fewerDistinct]
  constructor
  · intro agree edge admitted unknown hops order touches
    have both := (agree (name edge, edge)).mp
      ⟨admitted, rfl, hops, order, touches.mono fun _ => reached_subset less⟩
    exact unknown both.1.1
  · intro untouched entry
    have apart : ∀ edge, Admitted allowed edges edge → ¬ Admitted allowed fewer edge →
        ∀ hops < depth, ¬ Touches ends (Reached ends (Admitted allowed fewer) roots hops) edge :=
      fun edge admitted other => untouched edge admitted fun inside => other ⟨inside, admitted.2⟩
    constructor
    · rintro ⟨admitted, named, early, order, touches⟩
      have near : Touches ends (Reached ends (Admitted allowed fewer) roots early) entry.2 :=
        touches.mono fun _ => reached_of_untouched apart (Nat.le_of_lt order)
      have known : Admitted allowed fewer entry.2 := by
        by_contra other
        exact apart entry.2 admitted other early order near
      exact ⟨known, named, early, order, near⟩
    · rintro ⟨admitted, named, early, order, touches⟩
      exact ⟨less entry.2 admitted, named, early, order,
        touches.mono fun _ => reached_subset less⟩

end Explore

end StateFlow.Traversal
