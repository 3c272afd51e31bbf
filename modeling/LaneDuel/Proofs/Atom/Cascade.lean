/-
# LaneDuel.Proofs.Atom.Cascade -- the cascade in closed form

A cascade sorts the cards of the opponent's lanes by hit points and walks down the
ranking.  Nothing of that is needed to say what it does: a card loses the base damage
less its rank, at least one point, and its rank is a count over the lanes as they were
(`cascadeRank`): of the cards with more hit points, and of those with as many on an
earlier lane.  `Atom.cascade_closed_form` says so, and that the log tells of the hits in
the order of the ranks.

The sort is stable, so among cards with as many hit points the order of the lanes stays
(`pairwise_mergeSort_stable`).  That leaves no two cards in doubt, and in a list in which
every card comes before all later ones a card stands where as many come before it
(`getElem?_eq_some_iff_countP`).  Every card is hit once, so a hit changes neither
what is hit later nor its rank (`Run.foldl_edit_cards`).
-/
import LaneDuel.Proofs.Atom.Lanes
import LaneDuel.Proofs.Effect.Shrinking

namespace LaneDuel

set_option autoImplicit false

/-! ## Sorted lists and ranks -/

section Ranks

variable {α : Type}

/-- A sort is stable: elements that may stand in either order keep the one they had. -/
theorem pairwise_mergeSort_stable {le : α → α → Bool} {R : α → α → Prop}
    (trans : ∀ a b c, le a b = true → le b c = true → le a c = true)
    (total : ∀ a b, (le a b || le b a) = true) {l : List α} (ordered : l.Pairwise R) :
    (l.mergeSort le).Pairwise fun a b => le a b = true ∧ (le b a = true → R a b) := by
  induction l with
  | nil => simp
  | cons a l ih =>
      obtain ⟨first, later⟩ := List.pairwise_cons.mp ordered
      obtain ⟨front, back, sorted, rest, smaller⟩ := List.mergeSort_cons trans total a l
      have kept := ih later
      rw [rest, List.pairwise_append] at kept
      obtain ⟨fronts, backs, across⟩ := kept
      have le_sorted := List.pairwise_mergeSort trans total (a :: l)
      rw [sorted, List.pairwise_append, List.pairwise_cons] at le_sorted
      obtain ⟨-, ⟨le_back, -⟩, le_across⟩ := le_sorted
      rw [sorted, List.pairwise_append, List.pairwise_cons]
      refine ⟨fronts, ⟨fun b behind => ⟨le_back b behind, fun _ => ?_⟩, backs⟩, ?_⟩
      · have there : b ∈ l.mergeSort le := by
          rw [rest]
          exact List.mem_append_right front behind
        exact first b (List.mem_mergeSort.mp there)
      · intro b ahead c behind
        rcases List.mem_cons.mp behind with rfl | behind
        · -- what stands in front of the new element may not stand behind it
          have strict := smaller b ahead
          exact ⟨le_across b ahead _ List.mem_cons_self, fun back => by simp [back] at strict⟩
        · exact across b ahead c behind

/-- Where each element comes before all later ones, an element stands where as many come
before it. -/
theorem getElem?_eq_some_iff_countP {before : α → α → Bool}
    (asymm : ∀ a b, before a b = true → before b a = false) {l : List α}
    (ordered : l.Pairwise fun a b => before a b = true) {k : Nat} {a : α} :
    l[k]? = some a ↔ a ∈ l ∧ l.countP (before · a) = k := by
  have irrefl : ∀ x, before x x = false := by
    intro x
    cases same : before x x with
    | false => rfl
    | true => rw [asymm x x same] at same; cases same
  induction l generalizing k with
  | nil => simp
  | cons x l ih =>
      obtain ⟨first, later⟩ := List.pairwise_cons.mp ordered
      -- nothing comes before the first element
      have none_ : (x :: l).countP (before · x) = 0 := by
        rw [List.countP_eq_zero]
        intro y member
        rcases List.mem_cons.mp member with rfl | behind
        · simp [irrefl]
        · simp [asymm x y (first y behind)]
      have behind : ∀ y ∈ l, (x :: l).countP (before · y) = l.countP (before · y) + 1 :=
        fun y member => List.countP_cons_of_pos (first y member)
      cases k with
      | zero =>
          rw [List.getElem?_cons_zero, Option.some.injEq]
          constructor
          · rintro rfl
            exact ⟨List.mem_cons_self, none_⟩
          · rintro ⟨member, count⟩
            rcases List.mem_cons.mp member with rfl | later
            · rfl
            · rw [behind a later] at count
              cases count
      | succ k =>
          have rest : l[k]? = some a ↔ a ∈ l ∧ l.countP (before · a) = k := ih later
          rw [List.getElem?_cons_succ, rest]
          constructor
          · rintro ⟨member, count⟩
            exact ⟨List.mem_cons_of_mem x member, by rw [behind a member, count]⟩
          · rintro ⟨member, count⟩
            rcases List.mem_cons.mp member with rfl | later
            · rw [none_] at count
              cases count
            · rw [behind a later] at count
              exact ⟨later, Nat.succ.inj count⟩

end Ranks

/-! ## Cards with their lanes -/

namespace Table

variable {α : Type}

/-- The cards on some lanes, each with its lane. -/
def placed (lanes : List (Option α)) : List (α × Nat) :=
  lanes.zipIdx.filterMap fun (card, lane) => card.map (·, lane)

theorem mem_placed {lanes : List (Option α)} {a : α} {lane : Nat} :
    (a, lane) ∈ placed lanes ↔ lanes[lane]? = some (some a) := by
  simp only [placed, List.mem_filterMap, Prod.exists, List.mem_zipIdx_iff_getElem?]
  constructor
  · rintro ⟨card, i, there, found⟩
    cases card with
    | none => cases found
    | some c =>
        obtain ⟨rfl, rfl⟩ := Prod.mk.inj (Option.some.inj found)
        exact there
  · intro there
    exact ⟨some a, lane, there, rfl⟩

theorem placed_map_fst (lanes : List (Option α)) :
    (placed lanes).map Prod.fst = lanes.filterMap id := by
  have unnumbered : lanes = lanes.zipIdx.map Prod.fst := (List.zipIdx_map_fst 0 lanes).symm
  rw [placed, List.map_filterMap]
  conv_rhs => rw [unnumbered, List.filterMap_map]
  refine List.filterMap_congr fun p _ => ?_
  rcases p with ⟨card, lane⟩
  cases card <;> rfl

/-- They stand in the order of the lanes. -/
theorem placed_pairwise (lanes : List (Option α)) :
    (placed lanes).Pairwise fun a b => a.2 < b.2 := by
  have ascending : lanes.zipIdx.Pairwise fun a b => a.2 < b.2 := by
    rw [← List.pairwise_map (f := Prod.snd) (R := (· < ·)), List.zipIdx_map_snd]
    exact List.pairwise_lt_range'
  rw [placed, List.pairwise_filterMap]
  refine ascending.imp fun {p q} less a here b there => ?_
  obtain ⟨-, -, rfl⟩ := Option.map_eq_some_iff.mp here
  obtain ⟨-, -, rfl⟩ := Option.map_eq_some_iff.mp there
  exact less

end Table

/-! ## The cascade -/

/-- How many cards of some lanes a cascade hits before the card of a lane: those with more
hit points, and those with as many on an earlier lane. -/
def cascadeRank (lanes : List (Option Card)) (lane : Nat) (c : Card) : Nat :=
  lanes.zipIdx.countP fun (card, i) =>
    card.any fun d => c.hp < d.hp || (d.hp == c.hp && i < lane)

namespace Effect

variable {ρ : Type}

/-- The cards of some lanes with their lanes, in the order of a cascade. -/
def ranking (cards : Origin → Card) (lanes : List (Option Origin)) : List (Origin × Nat) :=
  (Table.placed lanes).mergeSort fun p q => (cards q.1).hp ≤ (cards p.1).hp

theorem ranking_map_fst (cards : Origin → Card) (lanes : List (Option Origin)) :
    (ranking cards lanes).map Prod.fst = byHealth cards (lanes.filterMap id) := by
  rw [ranking, List.map_mergeSort (s := fun a b => (cards b).hp ≤ (cards a).hp)
    fun _ _ _ _ => rfl, Table.placed_map_fst]
  rfl

/-- The order of a cascade: more hit points first, and of as many the earlier lane. -/
def hitBefore (cards : Origin → Card) (p q : Origin × Nat) : Bool :=
  (cards q.1).hp < (cards p.1).hp || ((cards p.1).hp == (cards q.1).hp && p.2 < q.2)

theorem hitBefore_iff {cards : Origin → Card} {p q : Origin × Nat} :
    hitBefore cards p q = true ↔ (cards q.1).hp < (cards p.1).hp ∨
      (cards p.1).hp = (cards q.1).hp ∧ p.2 < q.2 := by
  simp [hitBefore]

theorem hitBefore_asymm (cards : Origin → Card) (p q : Origin × Nat)
    (first : hitBefore cards p q = true) : hitBefore cards q p = false := by
  rw [← Bool.not_eq_true, hitBefore_iff]
  rw [hitBefore_iff] at first
  omega

/-- In the ranking every card is hit before all later ones. -/
theorem ranking_pairwise (cards : Origin → Card) (lanes : List (Option Origin)) :
    (ranking cards lanes).Pairwise fun p q => hitBefore cards p q = true := by
  refine List.Pairwise.imp ?_ (pairwise_mergeSort_stable ?_ ?_ (Table.placed_pairwise lanes))
  · rintro p q ⟨noWeaker, tie⟩
    rw [decide_eq_true_eq] at noWeaker
    rw [hitBefore_iff]
    by_cases same : (cards p.1).hp = (cards q.1).hp
    · exact .inr ⟨same, tie (decide_eq_true_eq.mpr (by omega))⟩
    · exact .inl (by omega)
  · intro p q s
    simp only [decide_eq_true_eq]
    omega
  · intro p q
    simp only [Bool.or_eq_true, decide_eq_true_eq]
    omega

/-- As many cards of the ranking are hit before a card as its rank counts. -/
theorem countP_ranking (cards : Origin → Card) (lanes : List (Option Origin)) (lane : Nat)
    (o : Origin) : (ranking cards lanes).countP (hitBefore cards · (o, lane))
      = cascadeRank (lanes.map (Option.map cards)) lane (cards o) := by
  rw [ranking, (List.mergeSort_perm _ _).countP_eq, Table.placed, List.countP_filterMap,
    cascadeRank, List.zipIdx_map, List.countP_map]
  congr 1
  funext p
  rcases p with ⟨card, i⟩
  cases card <;> rfl

/-- A card stands in the ranking at its rank. -/
theorem getElem?_ranking (cards : Origin → Card) (lanes : List (Option Origin)) {k lane : Nat}
    {o : Origin} :
    (ranking cards lanes)[k]? = some (o, lane) ↔ lanes[lane]? = some (some o) ∧
      cascadeRank (lanes.map (Option.map cards)) lane (cards o) = k := by
  rw [getElem?_eq_some_iff_countP (hitBefore_asymm cards) (ranking_pairwise cards lanes),
    countP_ranking, ranking, List.mem_mergeSort, Table.mem_placed]

/-- Nothing stands in the ranking twice, numbered or not. -/
theorem ranking_nodup (cards : Origin → Card) {lanes : List (Option Origin)}
    (once : (lanes.filterMap id).Nodup) :
    ((ranking cards lanes).zipIdx.map fun p => p.1.1).Nodup := by
  have unnumbered : ((ranking cards lanes).zipIdx.map fun p => p.1.1)
      = byHealth cards (lanes.filterMap id) := by
    rw [← ranking_map_fst]
    conv_rhs => rw [← List.zipIdx_map_fst 0 (ranking cards lanes), List.map_map]
    rfl
  rw [unnumbered]
  exact (List.mergeSort_perm _ _).nodup_iff.mpr once

/-- A cascade walks down the ranking. -/
theorem cascade_eq (base : Int) (b : Binding) (r : Run ρ) :
    cascade base b r =
      (ranking r.cards (r.player b.opponent).battlefield).zipIdx.foldl
        (fun r p => r.edit (hit (cascadeAt base p.2)) p.1.1) r := by
  rw [cascade, Run.field, Player.fieldCards, ← ranking_map_fst, List.zipIdx_map, List.foldl_map]
  rfl

section Once

variable (base : Int) (b : Binding) {r : Run ρ} (once : (r.field b.opponent).Nodup)
include once

/-- A card on the opponent's lanes takes one hit, by its rank. -/
theorem cascade_cards {lane : Nat} {o : Origin}
    (there : (r.player b.opponent).battlefield[lane]? = some (some o)) :
    (cascade base b r).cards o = (hit (cascadeAt base (cascadeRank
      ((r.player b.opponent).battlefield.map (Option.map r.cards)) lane (r.cards o)))
        (r.cards o)).1 := by
  have ranked := (getElem?_ranking r.cards _).mpr ⟨there, rfl⟩
  have member := List.mk_mem_zipIdx_iff_getElem?.mpr ranked
  rw [cascade_eq]
  exact Run.foldl_edit_cards r (ranking_nodup r.cards once) member

/-- The hits are told in the order of the ranking. -/
theorem cascade_log_eq :
    (cascade base b r).log = r.log ++
      (ranking r.cards (r.player b.opponent).battlefield).zipIdx.flatMap fun p =>
        (hit (cascadeAt base p.2) (r.cards p.1.1)).2 := by
  rw [cascade_eq]
  exact Run.foldl_edit_log r (ranking_nodup r.cards once)

end Once

/-- A card off the opponent's lanes is not hit. -/
theorem cascade_cards_off (base : Int) (b : Binding) {r : Run ρ} {o : Origin}
    (off : o ∉ r.field b.opponent) : (cascade base b r).cards o = r.cards o := by
  have unnamed : o ∉ (byHealth r.cards (r.field b.opponent)).zipIdx.map Prod.fst := by
    rw [List.zipIdx_map_fst, byHealth, List.mem_mergeSort]
    exact off
  exact Run.foldl_edit_cards_of_not_mem r unnamed

/-- The opponent's lanes after a cascade. -/
theorem cascade_lanes (base : Int) (b : Binding) {r : Run ρ} (once : (r.field b.opponent).Nodup) :
    let lanes := (r.snapshot.player b.opponent).battlefield
    ((cascade base b r).snapshot.player b.opponent).battlefield
      = lanes.mapIdx fun lane card => card.map fun c =>
          c.loseHp (cascadeAt base (cascadeRank lanes lane c)) := by
  intro lanes
  have still : (cascade base b r).table = r.table := cascade_table base b r
  apply List.ext_getElem?
  intro lane
  simp only [lanes, Run.battlefield_snapshot, still, List.getElem?_map, List.getElem?_mapIdx]
  cases there : (r.table.player b.opponent).battlefield[lane]? with
  | none => rfl
  | some card =>
      cases card with
      | none => rfl
      | some o =>
          have struck := cascade_cards base b once there
          simp only [Option.map_some, struck]
          rfl

/-- Nothing but the opponent's lanes changes. -/
theorem cascade_snapshot (base : Int) (b : Binding) {r : Run ρ} (once : r.table.cards.Nodup) :
    (cascade base b r).snapshot = Table.modifyPlayer r.snapshot b.opponent fun p =>
      { p with battlefield := ((cascade base b r).snapshot.player b.opponent).battlefield } := by
  have still : (cascade base b r).table = r.table := cascade_table base b r
  have own : ((cascade base b r).snapshot.player b.player).battlefield
      = (r.snapshot.player b.player).battlefield := by
    rw [Run.battlefield_snapshot, Run.battlefield_snapshot, still]
    refine List.map_congr_left fun card member => ?_
    cases card with
    | none => rfl
    | some o =>
        have off : o ∉ r.field b.opponent :=
          Run.not_mem_field_opponent once (mem_taken.mpr member)
        exact congrArg some (cascade_cards_off base b off)
  have lanes : (cascade base b r).snapshot
      = Table.withLanes r.snapshot (cascade base b r).snapshot := by
    simp only [Run.snapshot, still]
    exact Table.map_eq_withLanes once fun o off => cascade_cards_off base b (off b.opponent)
  rw [Table.withLanes_eq_modifyPlayer (s := b.opponent) (by simpa using own)] at lanes
  exact lanes

/-- The log lists the cards of the lanes, each where its rank says. -/
theorem cascade_struck (base : Int) (b : Binding) {r : Run ρ} (once : (r.field b.opponent).Nodup) :
    let lanes := (r.snapshot.player b.opponent).battlefield
    ∃ struck : List (Nat × Card),
      (∀ rank lane c, struck[rank]? = some (lane, c) ↔
        lanes[lane]? = some (some c) ∧ cascadeRank lanes lane c = rank) ∧
      (cascade base b r).log = r.log ++ struck.zipIdx.flatMap fun p =>
        (hit (cascadeAt base p.2) p.1.2).2 := by
  intro lanes
  have read : lanes = (r.player b.opponent).battlefield.map (Option.map r.cards) :=
    r.battlefield_snapshot b.opponent
  refine ⟨(ranking r.cards (r.player b.opponent).battlefield).map fun p => (p.2, r.cards p.1),
    ?_, ?_⟩
  · intro rank lane c
    rw [read, List.getElem?_map, List.getElem?_map]
    simp only [Option.map_eq_some_iff, Prod.exists, Prod.mk.injEq]
    constructor
    · rintro ⟨o, lane, stands, rfl, rfl⟩
      obtain ⟨there, count⟩ := (getElem?_ranking r.cards _).mp stands
      exact ⟨⟨some o, there, o, rfl, rfl⟩, count⟩
    · rintro ⟨⟨card, there, taken⟩, count⟩
      obtain ⟨o, rfl, rfl⟩ := taken
      exact ⟨o, lane, (getElem?_ranking r.cards _).mpr ⟨there, count⟩, rfl, rfl⟩
  · rw [cascade_log_eq base b once, List.zipIdx_map, List.flatMap_map]
    rfl

end Effect

/-- **The cascade in closed form.**  Whatever the state, a card on the opponent's lanes loses
the base damage less its rank, at least one point, and nothing else changes.  The log tells
of every hit once, in the order of the ranks, and of a defeat right after the hit that
leaves no hit points. -/
theorem Atom.cascade_closed_form {ρ : Type} [RandomSource ρ] (b : Binding) (s : State)
    (actor target : Card) (source : ρ) (base : Nat) :
    let lanes := (s.player b.player.opponent).battlefield
    let damage : Nat → Int := fun rank => max 1 (base - rank)
    let after := (Atom.cascadeDamage base).perform b (Run.enter s actor target source)
    after.snapshot = Table.modifyPlayer s b.player.opponent (fun p => { p with
        battlefield := lanes.mapIdx fun lane card => card.map fun c =>
          { c with hp := c.hp - damage (cascadeRank lanes lane c) } }) ∧
      ∃ struck : List (Nat × Card),
        (∀ rank lane c, struck[rank]? = some (lane, c) ↔
          lanes[lane]? = some (some c) ∧ cascadeRank lanes lane c = rank) ∧
        after.log = struck.zipIdx.flatMap fun ((_, c), rank) =>
          .notice (.cascadeHit c.name (damage rank) (c.hp - damage rank))
            :: if c.hp - damage rank ≤ 0 then [.notice (.cardDefeated c.name)] else [] := by
  intro lanes damage after
  have once : (Run.enter s actor target source).table.cards.Nodup := Table.origins_nodup s
  have field := Run.field_nodup once b.opponent
  have moved := Effect.cascade_snapshot base b once
  have hits := Effect.cascade_struck base b field
  rw [Effect.cascade_lanes base b field, Run.snapshot_enter] at moved
  rw [Run.snapshot_enter] at hits
  exact ⟨moved, hits⟩

/-- Of two cards with as many hit points the one on the earlier lane is hit first. -/
example :
    let card : Int → Option Card := fun hp => some { (default : Card) with hp }
    let lanes := [card 3, none, card 5, card 5]
    lanes.zipIdx.map (fun (c, lane) => c.map (cascadeRank lanes lane))
      = [some 2, none, some 0, some 1] := by decide

end LaneDuel
