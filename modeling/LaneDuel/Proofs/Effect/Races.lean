/-
# LaneDuel.Proofs.Effect.Races -- what a blank race slot counts for in an effect

The race labels of a card are what is written in its two race slots, and a blank slot has
none.  But a list of races may name the blank label like any other, and then a card with a
blank slot has a race of the list (`Card.hasRace_iff`).

For lists that do not, a blank slot is as good as one with a label that they do not name
either.  So the blank slots of all cards may be filled with such a label (`Card.fill`): the
same cards meet a condition and are reached by a filter, and an atom does to the filled cards
what it does to the cards, and tells the same (`Atom.perform_fill`).
-/
import LaneDuel.Proofs.Effect.Edits
import LaneDuel.Proofs.Effect.Target

namespace LaneDuel

set_option autoImplicit false

/-! ## Cards -/

/-- The labels are neither blank nor the mark. -/
def Overlooks (mark : String) (labels : List String) : Prop :=
  ∀ label ∈ labels, label ≠ "" ∧ label ≠ mark

instance (mark : String) (labels : List String) : Decidable (Overlooks mark labels) :=
  inferInstanceAs (Decidable (∀ label ∈ labels, label ≠ "" ∧ label ≠ mark))

theorem overlooks_append {mark : String} {labels more : List String} :
    Overlooks mark (labels ++ more) ↔ Overlooks mark labels ∧ Overlooks mark more :=
  List.forall_mem_append

namespace Card

/-- A race slot with the mark in it if it is blank. -/
def fillSlot (mark label : String) : String := if label = "" then mark else label

/-- The card with the mark in every blank race slot. -/
def fill (mark : String) (c : Card) : Card :=
  { c with
    primaryRace := fillSlot mark c.primaryRace
    secondaryRace := fillSlot mark c.secondaryRace }

@[simp] theorem fill_instanceId (mark : String) (c : Card) :
    (c.fill mark).instanceId = c.instanceId := rfl

/-- **Races of a list.**  A label of the card is in it, or it names the blank label and the
card has a blank slot. -/
theorem hasRace_iff {c : Card} {labels : List String} :
    c.hasRace labels = true ↔
      (∃ label ∈ c.races, label ∈ labels) ∨
        "" ∈ labels ∧ (c.primaryRace = "" ∨ c.secondaryRace = "") := by
  simp only [hasRace, Bool.or_eq_true, List.contains_iff_mem, races, List.mem_filter,
    List.mem_cons, List.not_mem_nil, or_false, bne_iff_ne]
  constructor
  · rintro (first | second)
    · by_cases blank : c.primaryRace = ""
      · exact .inr ⟨blank ▸ first, .inl blank⟩
      · exact .inl ⟨_, ⟨.inl rfl, blank⟩, first⟩
    · by_cases blank : c.secondaryRace = ""
      · exact .inr ⟨blank ▸ second, .inr blank⟩
      · exact .inl ⟨_, ⟨.inr rfl, blank⟩, second⟩
  · rintro (⟨label, ⟨rfl | rfl, -⟩, named⟩ | ⟨named, blank | blank⟩)
    · exact .inl named
    · exact .inr named
    · exact .inl (blank ▸ named)
    · exact .inr (blank ▸ named)

variable {mark : String}

theorem contains_fillSlot {labels : List String} (overlooks : Overlooks mark labels)
    (label : String) : labels.contains (fillSlot mark label) = labels.contains label := by
  by_cases blank : label = ""
  · have unnamed : "" ∉ labels := fun named => (overlooks _ named).1 rfl
    have unmarked : mark ∉ labels := fun named => (overlooks _ named).2 rfl
    simp [fillSlot, blank, unnamed, unmarked]
  · rw [fillSlot, if_neg blank]

theorem hasRace_fill {labels : List String} (overlooks : Overlooks mark labels) (c : Card) :
    (c.fill mark).hasRace labels = c.hasRace labels := by
  simp only [hasRace, fill, contains_fillSlot overlooks]

end Card

/-! ## The labels that are named -/

def Condition.labels (c : Condition) : List String := c.race.getD []

def TargetFilter.labels (f : TargetFilter) : List String := f.race.getD []

/-- The race labels that an atom names, the hell lord's own among them. -/
def Atom.labels : Atom → List String
  | modifyAtk _ f c => f.labels ++ (c.map Condition.labels).getD []
  | modifyHp _ f c => f.labels ++ (c.map Condition.labels).getD []
  | conditionalModifyAtk _ _ c f => f.labels ++ c.labels
  | conditionalModifyHp _ _ c f => f.labels ++ c.labels
  | killCard f => f.labels
  | clearField f => (f.bind (·.exceptRace)).getD []
  | freeze _ f => f.labels
  | removeDebuffs f => f.labels
  | gainCoins _ c => (c.map (·.toCondition.labels)).getD []
  | drawCards _ _ c => (c.map (·.races)).getD []
  | hellLordBonus => [Effect.demonRace, Effect.monsterRace]
  | addImmunity f => f.labels
  | _ => []

/-- A call that is not checked is not carried out, and names none. -/
def Call.labels : Call → List String
  | .known a => a.labels
  | .unknown _ _ => []

theorem asked_eq_some {labels : Option (List String)} {names : List String}
    (asks : asked labels = some names) : labels = some names := by
  cases labels with
  | none => cases asks
  | some ns =>
      cases ns with
      | nil => cases asks
      | cons n ns => exact asks

section Conditions

variable {mark : String}

theorem Condition.admits_fill {c : Condition} (overlooks : Overlooks mark c.labels) (card : Card) :
    c.admits (card.fill mark) = c.admits card := by
  rw [admits, admits]
  cases asks : asked c.race with
  | none => rfl
  | some races =>
      rw [labels, asked_eq_some asks] at overlooks
      have same : (card.fill mark).hasRace races = card.hasRace races :=
        Card.hasRace_fill overlooks card
      simp only [same]
      rfl

theorem admits_fill {c : Option Condition} (overlooks : Overlooks mark ((c.map (·.labels)).getD []))
    (card : Card) : admits c (card.fill mark) = admits c card := by
  cases c with
  | none => rfl
  | some c => exact Condition.admits_fill overlooks card

theorem Effect.spared_fill {labels : Option (List String)}
    (overlooks : Overlooks mark (labels.getD [])) (card : Card) :
    spared labels (card.fill mark) = spared labels card := by
  rw [spared, spared]
  cases asks : asked labels with
  | none => rfl
  | some races =>
      rw [asked_eq_some asks] at overlooks
      exact Card.hasRace_fill overlooks card

end Conditions

/-! ## Runs -/

namespace Run

variable {ρ : Type} {mark : String}

/-- The run with the blank slots of all its cards filled. -/
def fill (mark : String) (r : Run ρ) : Run ρ := { r with cards := fun o => (r.cards o).fill mark }

@[simp] theorem fill_table (r : Run ρ) : (r.fill mark).table = r.table := rfl

@[simp] theorem fill_cards (r : Run ρ) (o : Origin) :
    (r.fill mark).cards o = (r.cards o).fill mark := rfl

/-- A change that does not tell a filled card from one that is not. -/
def Blind (mark : String) (change : Card → Card × List Event) : Prop :=
  ∀ c, change (c.fill mark) = ((change c).1.fill mark, (change c).2)

theorem fill_put (r : Run ρ) (o : Origin) (c : Card) :
    (r.fill mark).put o (c.fill mark) = (r.put o c).fill mark := by
  simp only [fill, put, mk.injEq, true_and, and_true]
  funext x
  by_cases here : x = o <;> simp [here]

theorem tell_fill (r : Run ρ) (es : List Event) :
    (r.fill mark).tell es = (r.tell es).fill mark := rfl

variable {change : Card → Card × List Event}

theorem edit_fill (blind : Blind mark change) (r : Run ρ) (o : Origin) :
    (r.fill mark).edit change o = (r.edit change o).fill mark := by
  have here : change ((r.fill mark).cards o)
      = ((change (r.cards o)).1.fill mark, (change (r.cards o)).2) := blind (r.cards o)
  rw [edit, here, fill_put]
  rfl

theorem visit_fill (blind : Blind mark change) (r : Run ρ) (os : List Origin) :
    (r.fill mark).visit os change = (r.visit os change).fill mark :=
  List.foldl_hom (fill mark) fun r o => edit_fill blind r o

theorem targets_fill {f : TargetFilter} (overlooks : Overlooks mark f.labels) (r : Run ρ)
    (b : Binding) : (r.fill mark).targets b f = r.targets b f := by
  have same : ∀ o, f.condition.admits ((r.cards o).fill mark) = f.condition.admits (r.cards o) :=
    fun o => Condition.admits_fill overlooks (r.cards o)
  simp only [targets, TargetFilter.narrow_eq_filter, fill, same]
  rfl

theorem reach_fill {f : TargetFilter} (overlooks : Overlooks mark f.labels)
    (blind : Blind mark change) (r : Run ρ) (b : Binding) :
    (r.fill mark).reach b f change = (r.reach b f change).fill mark := by
  rw [reach, reach, targets_fill overlooks, ← visit_fill blind]
  rfl

end Run

/-! ## Atoms -/

namespace Effect

variable {ρ : Type} {mark : String}

open Run (Blind)

theorem blind_changeAtk (amount : Int) {c : Option Condition}
    (overlooks : Overlooks mark ((c.map Condition.labels).getD [])) :
    Blind mark (changeAtk amount c) := by
  intro card
  rw [changeAtk, changeAtk, admits_fill overlooks]
  split <;> rfl

theorem blind_changeHp (amount : Int) {c : Option Condition}
    (overlooks : Overlooks mark ((c.map Condition.labels).getD [])) :
    Blind mark (changeHp amount c) := by
  intro card
  rw [changeHp, changeHp, admits_fill overlooks]
  split <;> rfl

theorem blind_changeAtkWithBonus (base bonus : Int) {c : Condition}
    (overlooks : Overlooks mark c.labels) : Blind mark (changeAtkWithBonus base bonus c) := by
  intro card
  simp only [changeAtkWithBonus, bonusFor, Condition.admits_fill overlooks]
  split_ifs <;> rfl

theorem blind_changeHpWithBonus (base bonus : Int) {c : Condition}
    (overlooks : Overlooks mark c.labels) : Blind mark (changeHpWithBonus base bonus c) := by
  intro card
  simp only [changeHpWithBonus, bonusFor, Condition.admits_fill overlooks]
  split_ifs <;> rfl

theorem blind_thaw : Blind mark thaw := by
  intro card
  have frozen : (card.fill mark).isFrozen = card.isFrozen := rfl
  rw [thaw, thaw, frozen]
  split <;> rfl

theorem blind_hit (damage : Int) : Blind mark (hit damage) := fun _ => rfl

theorem blind_remember : Blind mark remember := fun _ => rfl

theorem blind_chill (attacker : String) (turns : Int) : Blind mark (chill attacker turns) :=
  fun _ => rfl

theorem blind_buffMonster (amount : Int) (overlooks : Overlooks mark [monsterRace]) :
    Blind mark (buffMonster amount) := by
  intro card
  rw [buffMonster, buffMonster, Card.hasRace_fill overlooks]
  split <;> rfl

theorem blind_debuffMonster (overlooks : Overlooks mark [monsterRace]) :
    Blind mark debuffMonster := by
  intro card
  have rarity : (card.fill mark).rarity = card.rarity := rfl
  rw [debuffMonster, debuffMonster, Card.hasRace_fill overlooks, rarity]
  split <;> rfl

variable (r : Run ρ) (b : Binding)

theorem killOne_fill (o : Origin) : killOne (r.fill mark) o = (killOne r o).fill mark := by
  simp only [killOne, Run.fill_cards, Run.fill_table, Card.fill_instanceId]
  cases r.table.locate (fun x => (r.cards x).instanceId == (r.cards o).instanceId)
    [.battlefield] with
  | none => rfl
  | some slot =>
      cases found : r.table.cardAt slot with
      | none => simp only [found]
      | some o =>
          simp only [found]
          rfl

theorem kill_fill {f : TargetFilter} (overlooks : Overlooks mark f.labels) :
    kill f b (r.fill mark) = (kill f b r).fill mark := by
  rw [kill, kill, Run.targets_fill overlooks, Run.tell_fill]
  exact List.foldl_hom (Run.fill mark) killOne_fill

theorem clearSide_fill {except : Option (List String)}
    (overlooks : Overlooks mark (except.getD [])) (side : Side) :
    clearSide except (r.fill mark) side = (clearSide except r side).fill mark := by
  simp only [clearSide, Run.fill_cards, spared_fill overlooks]
  rfl

theorem clearField_fill {f : Option ClearFieldFilter}
    (overlooks : Overlooks mark ((f.bind (·.exceptRace)).getD [])) :
    clearField f b (r.fill mark) = (clearField f b r).fill mark :=
  List.foldl_hom (Run.fill mark) fun r side => clearSide_fill r overlooks side

theorem gainCoins_fill (amount : Nat) {c : Option CoinCondition}
    (overlooks : Overlooks mark ((c.map (·.toCondition.labels)).getD [])) :
    gainCoins amount c b (r.fill mark) = (gainCoins amount c b r).fill mark := by
  have due : ∀ cards : List Card,
      coinsDue amount c (cards.map (Card.fill mark)) = coinsDue amount c cards := by
    intro cards
    cases c with
    | none => rfl
    | some c =>
        have same : c.toCondition.admits ∘ Card.fill mark = c.toCondition.admits :=
          funext fun card => Condition.admits_fill overlooks card
        rw [coinsDue, coinsDue, List.any_map, same]
  have onField : (r.table.fieldCards Side.both).map (r.fill mark).cards
      = ((r.table.fieldCards Side.both).map r.cards).map (Card.fill mark) := by
    rw [List.map_map]
    rfl
  rw [gainCoins, gainCoins, Run.fill_table, onField, due]
  rfl

theorem draw_fill (base bonus : Nat) {c : Option FieldRaceCondition}
    (overlooks : Overlooks mark ((c.map (·.races)).getD [])) :
    draw base bonus c b (r.fill mark) = (draw base bonus c b r).fill mark := by
  cases c with
  | none => rfl
  | some c =>
      have overlooks : Overlooks mark c.races := overlooks
      have same : raceOnField c b (r.fill mark) = raceOnField c b r := by
        simp only [raceOnField, Run.fill_table, Run.fill_cards, Card.hasRace_fill overlooks]
      simp only [draw, same]
      rfl

theorem hellLord_fill (overlooks : Overlooks mark [demonRace, monsterRace]) :
    hellLord b (r.fill mark) = (hellLord b r).fill mark := by
  rw [← List.singleton_append, overlooks_append] at overlooks
  have buff : ∀ cards : List Card, hellLordBuff (cards.map (Card.fill mark)) = hellLordBuff cards := by
    intro cards
    have same : (fun c : Card => c.hasRace [demonRace]) ∘ Card.fill mark
        = fun c => c.hasRace [demonRace] := funext (Card.hasRace_fill overlooks.1)
    rw [hellLordBuff, hellLordBuff, List.any_map, same]
  have own : ((r.fill mark).field b.player).map (r.fill mark).cards
      = ((r.field b.player).map r.cards).map (Card.fill mark) := by
    rw [List.map_map]
    rfl
  simp only [hellLord, own, buff]
  rw [Run.visit_fill (blind_buffMonster _ overlooks.2),
    Run.visit_fill (blind_debuffMonster overlooks.2)]
  rfl

theorem cascade_fill (base : Int) :
    cascade base b (r.fill mark) = (cascade base b r).fill mark :=
  List.foldl_hom (Run.fill mark) fun r (o, rank) =>
    Run.edit_fill (blind_hit (cascadeAt base rank)) r o

theorem firstAttack_fill (turns : Int) :
    firstAttack turns b (r.fill mark) = (firstAttack turns b r).fill mark := by
  rw [firstAttack_eq, firstAttack_eq, Run.edit_fill blind_remember, apply_ite (Run.fill mark)]
  refine if_congr Iff.rfl rfl ?_
  cases b.target with
  | none => rfl
  | some o => exact Run.edit_fill (blind_chill _ turns) _ o

theorem execute_fill (c : KillCondition) :
    execute c b (r.fill mark) = (execute c b r).fill mark := by
  simp only [execute]
  rw [apply_ite (Run.fill mark)]
  rfl

theorem drawDiscarded_fill (amount : Nat) :
    drawDiscarded amount b (r.fill mark) = (drawDiscarded amount b r).fill mark := by
  simp only [drawDiscarded]
  rw [apply_ite (Run.fill mark)]
  rfl

theorem redraw_fill [RandomSource ρ] : redraw b (r.fill mark) = (redraw b r).fill mark := by
  simp only [redraw]
  rw [apply_ite (Run.fill mark)]
  rfl

theorem exchange_fill (given taken : List Origin) :
    exchange given taken b (r.fill mark) = (exchange given taken b r).fill mark := by
  rw [exchange, exchange]
  rw [apply_ite (Run.fill mark)]
  rfl

theorem swapHands_fill [RandomSource ρ] (amount : Nat) :
    swapHands amount b (r.fill mark) = (swapHands amount b r).fill mark := by
  simp only [swapHands]
  rw [← exchange_fill]
  rfl

end Effect

theorem Atom.perform_fill {ρ : Type} [RandomSource ρ] {mark : String} {a : Atom}
    (overlooks : Overlooks mark a.labels) (b : Binding) (r : Run ρ) :
    a.perform b (r.fill mark) = (a.perform b r).fill mark := by
  cases a with
  | modifyAtk amount f c =>
      obtain ⟨filter, condition⟩ := overlooks_append.mp overlooks
      exact Run.reach_fill filter (Effect.blind_changeAtk amount condition) r b
  | modifyHp amount f c =>
      obtain ⟨filter, condition⟩ := overlooks_append.mp overlooks
      exact Run.reach_fill filter (Effect.blind_changeHp amount condition) r b
  | conditionalModifyAtk base bonus c f =>
      obtain ⟨filter, condition⟩ := overlooks_append.mp overlooks
      exact Run.reach_fill filter (Effect.blind_changeAtkWithBonus base bonus condition) r b
  | conditionalModifyHp base bonus c f =>
      obtain ⟨filter, condition⟩ := overlooks_append.mp overlooks
      exact Run.reach_fill filter (Effect.blind_changeHpWithBonus base bonus condition) r b
  | playerHeal amount f => rfl
  | playerDamage amount f => rfl
  | killCard f => exact Effect.kill_fill r b overlooks
  | clearField f => exact Effect.clearField_fill r b overlooks
  | freeze turns f => exact Run.reach_fill overlooks (fun _ => rfl) r b
  | removeDebuffs f => exact Run.reach_fill overlooks Effect.blind_thaw r b
  | gainCoins amount c => exact Effect.gainCoins_fill r b amount overlooks
  | conditionalKillPlayer c => exact Effect.execute_fill r b c
  | cascadeDamage base => exact Effect.cascade_fill r b base
  | drawFromDiscard amount => exact Effect.drawDiscarded_fill r b amount
  | discardAndRedraw => exact Effect.redraw_fill r b
  | drawCards base bonus c => exact Effect.draw_fill r b base bonus overlooks
  | hellLordBonus => exact Effect.hellLord_fill r b overlooks
  | swapBattlefields => rfl
  | freezeOnFirstAttack turns => exact Effect.firstAttack_fill r b turns
  | addImmunity f => exact Run.reach_fill overlooks (fun _ => rfl) r b
  | swapRandomHands amount => exact Effect.swapHands_fill r b amount
  | skipTurn => rfl
  | uiModeMessage message => rfl

end LaneDuel
