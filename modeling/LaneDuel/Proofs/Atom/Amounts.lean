/-
# LaneDuel.Proofs.Atom.Amounts -- a bonus given with its base or after it

A conditional amount is a base for every card of a filter and a bonus for those that meet a
condition.  Giving the bonus in a second atom comes to the same for attack.  For hit points
it depends on the signs, for the upper limit keeps the highest that hit points have been:
a base that heals and a bonus that hurts leave the limit of the two steps where the base
alone had raised it.  That is the only difference there can be
(`Atom.conditional_decomposes`).

Attack and hit points are added by the same argument: `Card.Sums` says what adding must
satisfy, `Effect.Adds` that a change does no more than add.  A filter may name a card
several times; it is then changed as often (`Run.reach_cards`), and the amounts add up
(`Adds.iterate`).  The second atom searches anew, and since amounts touch nothing that lasts
of a card it finds the same cards (`Run.targets_congr`).
-/
import LaneDuel.Proofs.Engine.Limits

namespace LaneDuel

set_option autoImplicit false

/-! ## Adding to a card -/

namespace Card

/-- What adding to a card comes to, on cards that fit: nothing is nothing, and two amounts
make their sum, unless what the second takes had been given by the first. -/
structure Sums (fit : Card → Prop) (add : Card → Int → Card) : Prop where
  fit_add : ∀ c x, fit (add c x)
  add_zero : ∀ c, fit c → add c 0 = c
  add_add : ∀ c x y, fit c → 0 ≤ y ∨ x ≤ 0 → add (add c x) y = add c (x + y)

theorem addAtk_addAtk (c : Card) (x y : Int) : (c.addAtk x).addAtk y = c.addAtk (x + y) := by
  simp only [addAtk, Int.add_assoc]

theorem sums_addAtk : Sums (fun _ => True) addAtk where
  fit_add _ _ := trivial
  add_zero c _ := by simp only [addAtk, Int.add_zero]
  add_add c x y _ _ := c.addAtk_addAtk x y

/-- The limit keeps the highest of the hit points on the way. -/
theorem addHp_addHp (c : Card) (x y : Int) :
    (c.addHp x).addHp y
      = { c.addHp (x + y) with maxHp := max (c.hp + x) (c.addHp (x + y)).maxHp } := by
  have limit : max (max c.maxHp (c.hp + x)) (c.hp + (x + y))
      = max (c.hp + x) (max c.maxHp (c.hp + (x + y))) := by omega
  simp only [addHp, Int.add_assoc, limit]

/-- Hit points do not pass their limit. -/
def InLimit (c : Card) : Prop := c.hp ≤ c.maxHp

theorem sums_addHp : Sums InLimit addHp where
  fit_add _ _ := Int.le_max_right _ _
  add_zero c within := by
    have limit : max c.maxHp c.hp = c.maxHp := Int.max_eq_left within
    simp only [addHp, Int.add_zero, limit]
  add_add c x y within signs := by
    have passed : max (c.hp + x) (c.addHp (x + y)).maxHp = (c.addHp (x + y)).maxHp := by
      simp only [InLimit, addHp] at within ⊢
      omega
    rw [addHp_addHp, passed]

end Card

namespace Effect

/-- A change adds to every card that fits, as much as what the adding leaves alone says. -/
structure Adds (fit : Card → Prop) (add : Card → Int → Card) (amount : Card → Int)
    (change : Card → Card × List Event) : Prop where
  lasts : Lasts change
  adds : ∀ c, fit c → (change c).1 = add c (amount c)
  steady : ∀ c x, amount (add c x) = amount c

/-- Adding the same amount a number of times. -/
theorem Adds.iterate {fit : Card → Prop} {add : Card → Int → Card} {amount : Card → Int}
    {change : Card → Card × List Event} (sums : Card.Sums fit add)
    (h : Adds fit add amount change) {c : Card} (fits : fit c) (n : Nat) :
    (fun d => (change d).1)^[n] c = add c (n * amount c) := by
  induction n with
  | zero =>
      rw [Function.iterate_zero_apply, Int.natCast_zero, Int.zero_mul, sums.add_zero c fits]
  | succ n ih =>
      have signs : 0 ≤ amount c ∨ (n : Int) * amount c ≤ 0 := by
        rcases Int.le_total 0 (amount c) with gives | takes
        · exact .inl gives
        · exact .inr (Int.mul_nonpos_of_nonneg_of_nonpos (Int.natCast_nonneg n) takes)
      have total : (n : Int) * amount c + amount c = ((n + 1 : Nat) : Int) * amount c := by
        rw [Int.natCast_succ, Int.add_mul, Int.one_mul]
      rw [Function.iterate_succ_apply', ih, h.adds _ (sums.fit_add c _), h.steady,
        sums.add_add c _ _ fits signs, total]

/-- What a card gets out of an amount under a condition. -/
def granted (amount : Int) (condition : Option Condition) (c : Card) : Int :=
  if LaneDuel.admits condition c then amount else 0

theorem granted_nonneg {amount : Int} (gains : 0 ≤ amount) (condition : Option Condition)
    (c : Card) : 0 ≤ granted amount condition c := by
  unfold granted
  split
  · exact gains
  · exact Int.le_refl 0

theorem changeAtk_adds (amount : Int) (condition : Option Condition) :
    Adds (fun _ => True) Card.addAtk (granted amount condition) (changeAtk amount condition) where
  lasts := lasts_changeAtk amount condition
  adds c fits := by
    unfold changeAtk granted
    split
    · rfl
    · exact (Card.sums_addAtk.add_zero c fits).symm
  steady _ _ := by cases condition <;> rfl

theorem changeAtkWithBonus_adds (base bonus : Int) (condition : Condition) :
    Adds (fun _ => True) Card.addAtk (fun c => base + granted bonus (some condition) c)
      (changeAtkWithBonus base bonus condition) where
  lasts := lasts_changeAtkWithBonus base bonus condition
  adds c fits := by
    change (changeAtkWithBonus base bonus condition c).1
      = c.addAtk (base + bonusFor bonus condition c)
    unfold changeAtkWithBonus
    simp only
    split
    · rename_i nothing
      rw [nothing, Card.sums_addAtk.add_zero c fits]
    · split <;> rfl
  steady _ _ := rfl

theorem changeHp_adds (amount : Int) (condition : Option Condition) :
    Adds Card.InLimit Card.addHp (granted amount condition) (changeHp amount condition) where
  lasts := lasts_changeHp amount condition
  adds c fits := by
    unfold changeHp granted
    split
    · rfl
    · exact (Card.sums_addHp.add_zero c fits).symm
  steady _ _ := by cases condition <;> rfl

theorem changeHpWithBonus_adds (base bonus : Int) (condition : Condition) :
    Adds Card.InLimit Card.addHp (fun c => base + granted bonus (some condition) c)
      (changeHpWithBonus base bonus condition) where
  lasts := lasts_changeHpWithBonus base bonus condition
  adds c fits := by
    change (changeHpWithBonus base bonus condition c).1
      = c.addHp (base + bonusFor bonus condition c)
    unfold changeHpWithBonus
    simp only
    split
    · rename_i nothing
      rw [nothing, Card.sums_addHp.add_zero c fits]
    · split <;> rfl
  steady _ _ := rfl

end Effect

/-! ## Adding twice -/

namespace Run

variable {ρ : Type}

theorem reach_reach_cards_of_not_mem {first : Card → Card × List Event}
    (lasts : Effect.Lasts first) {r : Run ρ} {b : Binding} {f : TargetFilter} {o : Origin}
    (unreached : o ∉ (r.targets b f).1) (second : Card → Card × List Event) :
    ((r.reach b f first).reach b f second).cards o = r.cards o := by
  rw [reach_cards_of_not_mem (by rwa [targets_reach lasts]), reach_cards_of_not_mem unreached]

section Adding

variable {fit : Card → Prop} {add : Card → Int → Card} {base extra : Card → Int}
  {first second whole : Card → Card × List Event} (sums : Card.Sums fit add)
  (gives : Effect.Adds fit add base first) (more : Effect.Adds fit add extra second)
include sums gives more

/-- A card that is reached `n` times gets `n` times each of two amounts, in this order. -/
theorem reach_reach_cards (r : Run ρ) (b : Binding) (f : TargetFilter) {o : Origin}
    (fits : fit (r.cards o)) :
    ((r.reach b f first).reach b f second).cards o
      = add (add (r.cards o) ((r.targets b f).1.count o * base (r.cards o)))
          ((r.targets b f).1.count o * extra (r.cards o)) := by
  rw [reach_cards, targets_reach gives.lasts, reach_cards, gives.iterate sums fits,
    more.iterate sums (sums.fit_add _ _), more.steady]

variable (all : Effect.Adds fit add (fun c => base c + extra c) whole)
include all

/-- Where the two amounts join, they come to their sum given at once. -/
theorem reach_reach_cards_eq (r : Run ρ) (b : Binding) (f : TargetFilter)
    (fits : ∀ o ∈ (r.targets b f).1, fit (r.cards o))
    (join : ∀ c (n : Nat), fit c →
      add (add c (n * base c)) (n * extra c) = add c (n * base c + n * extra c)) :
    ((r.reach b f first).reach b f second).cards = (r.reach b f whole).cards := by
  funext o
  by_cases reached : o ∈ (r.targets b f).1
  · rw [reach_reach_cards sums gives more r b f (fits o reached), join _ _ (fits o reached),
      reach_cards, all.iterate sums (fits o reached), Int.mul_add]
  · rw [reach_reach_cards_of_not_mem gives.lasts reached, reach_cards_of_not_mem reached]

end Adding

end Run

/-! ## Upper limits -/

def Card.unlimited (c : Card) : Card := { c with maxHp := 0 }

/-- The second state is the first but for upper limits, and none of them is lower. -/
structure State.RaisedLimits (s t : State) : Prop where
  rest : t.map Card.unlimited = s.map Card.unlimited
  limits : List.Forall₂ (fun c d : Card => c.maxHp ≤ d.maxHp) s.cards t.cards

namespace Run

variable {ρ : Type}

theorem snapshot_raisedLimits {r r' : Run ρ} (table : r'.table = r.table)
    (rest : ∀ o, (r'.cards o).unlimited = (r.cards o).unlimited)
    (limits : ∀ o, (r.cards o).maxHp ≤ (r'.cards o).maxHp) :
    State.RaisedLimits r.snapshot r'.snapshot where
  rest := by
    have same : Card.unlimited ∘ r'.cards = Card.unlimited ∘ r.cards := funext rest
    rw [snapshot, snapshot, Table.map_map, Table.map_map, same, table]
  limits := by
    rw [snapshot, snapshot, table, Table.cards_map, Table.cards_map, List.forall₂_map_left_iff,
      List.forall₂_map_right_iff, List.forall₂_same]
    exact fun o _ => limits o

/-- Hit points given in two steps leave the upper limits where one step leaves them, or
higher. -/
theorem reach_reach_raisedLimits {base extra : Card → Int}
    {first second whole : Card → Card × List Event}
    (gives : Effect.Adds Card.InLimit Card.addHp base first)
    (more : Effect.Adds Card.InLimit Card.addHp extra second)
    (all : Effect.Adds Card.InLimit Card.addHp (fun c => base c + extra c) whole)
    (r : Run ρ) (b : Binding) (f : TargetFilter)
    (within : ∀ o ∈ (r.targets b f).1, (r.cards o).InLimit) :
    State.RaisedLimits (r.reach b f whole).snapshot
      ((r.reach b f first).reach b f second).snapshot := by
  have each : ∀ o,
      (((r.reach b f first).reach b f second).cards o).unlimited
          = ((r.reach b f whole).cards o).unlimited ∧
        ((r.reach b f whole).cards o).maxHp
          ≤ (((r.reach b f first).reach b f second).cards o).maxHp := by
    intro o
    by_cases reached : o ∈ (r.targets b f).1
    · have fits := within o reached
      rw [reach_reach_cards Card.sums_addHp gives more r b f fits, reach_cards,
        all.iterate Card.sums_addHp fits, Card.addHp_addHp, Int.mul_add]
      exact ⟨rfl, Int.le_max_right _ _⟩
    · rw [reach_reach_cards_of_not_mem gives.lasts reached, reach_cards_of_not_mem reached]
      exact ⟨rfl, Int.le_refl _⟩
  refine snapshot_raisedLimits ?_ (fun o => (each o).1) fun o => (each o).2
  simp only [reach_table]

end Run

/-- **Conditional amounts decompose.**  A base with a bonus under a condition is the base
for all and then the bonus under the condition: always so for attack, and for hit points of
cards within their limits unless a base that heals is followed by a bonus that hurts.  Even
then nothing but upper limits differs, and no limit is lower after the two steps. -/
theorem Atom.conditional_decomposes {ρ : Type} [RandomSource ρ] (b : Binding) (r : Run ρ)
    (base bonus : Int) (c : Condition) (f : TargetFilter) :
    ((Atom.modifyAtk bonus f (some c)).perform b
          ((Atom.modifyAtk base f none).perform b r)).snapshot
        = ((Atom.conditionalModifyAtk base bonus c f).perform b r).snapshot ∧
      ((∀ o ∈ (r.targets b f).1, (r.cards o).hp ≤ (r.cards o).maxHp) →
        let inTwo := ((Atom.modifyHp bonus f (some c)).perform b
          ((Atom.modifyHp base f none).perform b r)).snapshot
        let atOnce := ((Atom.conditionalModifyHp base bonus c f).perform b r).snapshot
        State.RaisedLimits atOnce inTwo ∧ (0 ≤ bonus ∨ base ≤ 0 → inTwo = atOnce)) := by
  have places : ∀ first second whole,
      ((r.reach b f first).reach b f second).table = (r.reach b f whole).table := by
    intro first second whole
    simp only [Run.reach_table]
  refine ⟨Run.snapshot_congr (places _ _ _) ?_, fun within => ⟨?_, fun signs =>
    Run.snapshot_congr (places _ _ _) ?_⟩⟩
  · exact Run.reach_reach_cards_eq Card.sums_addAtk (Effect.changeAtk_adds base none)
      (Effect.changeAtk_adds bonus (some c)) (Effect.changeAtkWithBonus_adds base bonus c) r b f
      (fun _ _ => trivial) fun d _ _ => d.addAtk_addAtk _ _
  · exact Run.reach_reach_raisedLimits (Effect.changeHp_adds base none)
      (Effect.changeHp_adds bonus (some c)) (Effect.changeHpWithBonus_adds base bonus c) r b f
      within
  · refine Run.reach_reach_cards_eq Card.sums_addHp (Effect.changeHp_adds base none)
      (Effect.changeHp_adds bonus (some c)) (Effect.changeHpWithBonus_adds base bonus c) r b f
      within fun d n fits => Card.sums_addHp.add_add d _ _ fits ?_
    have times : (0 : Int) ≤ n := Int.natCast_nonneg n
    refine signs.imp (fun gains => Int.mul_nonneg times ?_)
      (Int.mul_nonpos_of_nonneg_of_nonpos times)
    exact Effect.granted_nonneg gains (some c) d

namespace Example

open Engine

/-- Both cards on the field of the lair are healed by two, the monster by one less.  In two
steps its limit has risen to five, at once to four; with the signs turned nothing differs. -/
theorem monster_healed_less :
    let omen : Invocation := ⟨.red, card "omen" .miracle, none⟩
    let r := begin lair omen (Lcg.ofSeed 7)
    let b := bind lair omen
    let f := onField .both
    let monster : Condition := ⟨some ["怪物"], none, none⟩
    let inTwo := (Atom.modifyHp (-1) f (some monster)).perform b
      ((Atom.modifyHp 2 f none).perform b r)
    let atOnce := (Atom.conditionalModifyHp 2 (-1) monster f).perform b r
    (∀ o ∈ (r.targets b f).1, (r.cards o).hp ≤ (r.cards o).maxHp) ∧
      State.RaisedLimits atOnce.snapshot inTwo.snapshot ∧
      inTwo.snapshot.cards.map (·.maxHp) ≠ atOnce.snapshot.cards.map (·.maxHp) ∧
      ((Atom.modifyHp 1 f (some monster)).perform b
          ((Atom.modifyHp (-2) f none).perform b r)).snapshot
        = ((Atom.conditionalModifyHp (-2) 1 monster f).perform b r).snapshot := by
  intro omen r b f monster inTwo atOnce
  have within : ∀ o ∈ (r.targets b f).1, (r.cards o).hp ≤ (r.cards o).maxHp := by decide
  obtain ⟨raised, -⟩ := (Atom.conditional_decomposes b r 2 (-1) monster f).2 within
  obtain ⟨-, same⟩ := (Atom.conditional_decomposes b r (-2) 1 monster f).2 within
  exact ⟨within, raised, by decide, same (.inl (by decide))⟩

end Example

end LaneDuel
