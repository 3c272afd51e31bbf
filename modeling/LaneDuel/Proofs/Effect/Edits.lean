/-
# LaneDuel.Proofs.Effect.Edits -- the part of a card that no effect changes

Effects change a card's stats and its marks of frost, immunity and first attack.
The rest of it lasts (`Card.lasting`), its instance id above all: this is what
lets a card be found again after any chain of effects.

A search looks at nothing else of a card (`Run.targets_congr`), so after a change a filter
finds the cards that it found before.

Seven kinds of atoms do nothing but change the cards of a filter, each in its own
way; `Atom.edit?` is the filter and the change, `perform_of_edit?` says that
there is nothing more to them.
-/
import Mathlib.Logic.Function.Iterate
import LaneDuel.Effect.Perform
import LaneDuel.Proofs.Effect.Run

namespace LaneDuel

set_option autoImplicit false

/-- A card without its stats and marks. -/
def Card.lasting (c : Card) : Card :=
  { c with atk := 0, hp := 0, maxHp := 0, frozen := 0, immune := false, firstActionUsed := false }

theorem Card.instanceId_eq {c d : Card} (h : c.lasting = d.lasting) :
    c.instanceId = d.instanceId := by
  change c.lasting.instanceId = d.lasting.instanceId
  rw [h]

namespace Effect

/-- A change that only touches stats and marks. -/
def Lasts (change : Card → Card × List Event) : Prop := ∀ c, (change c).1.lasting = c.lasting

theorem lasts_changeAtk (amount : Int) (condition : Option Condition) :
    Lasts (changeAtk amount condition) := by
  intro c
  unfold changeAtk
  split <;> rfl

theorem lasts_changeHp (amount : Int) (condition : Option Condition) :
    Lasts (changeHp amount condition) := by
  intro c
  unfold changeHp
  split <;> rfl

theorem lasts_changeAtkWithBonus (base bonus : Int) (condition : Condition) :
    Lasts (changeAtkWithBonus base bonus condition) := by
  intro c
  unfold changeAtkWithBonus
  simp only
  split
  · rfl
  · split <;> rfl

theorem lasts_changeHpWithBonus (base bonus : Int) (condition : Condition) :
    Lasts (changeHpWithBonus base bonus condition) := by
  intro c
  unfold changeHpWithBonus
  simp only
  split
  · rfl
  · split <;> rfl

theorem lasts_frost (turns : Nat) : Lasts (frost turns) := fun _ => rfl

theorem lasts_thaw : Lasts thaw := by
  intro c
  unfold thaw
  split <;> rfl

theorem lasts_shield : Lasts shield := fun _ => rfl

theorem lasts_buffMonster (amount : Int) : Lasts (buffMonster amount) := by
  intro c
  unfold buffMonster
  split <;> rfl

theorem lasts_debuffMonster : Lasts debuffMonster := by
  intro c
  unfold debuffMonster
  split <;> rfl

theorem lasts_hit (damage : Int) : Lasts (hit damage) := fun _ => rfl

/-! ## The first attack as changes -/

/-- The acting card remembers its first attack. -/
def remember (c : Card) : Card × List Event := ({ c with firstActionUsed := true }, [])

/-- The target of the first attack freezes. -/
def chill (attacker : String) (turns : Int) (c : Card) : Card × List Event :=
  ({ c with frozen := turns }, [.notice (.firstAttackFreeze attacker c.name turns)])

theorem lasts_remember : Lasts remember := fun _ => rfl

theorem lasts_chill (attacker : String) (turns : Int) : Lasts (chill attacker turns) :=
  fun _ => rfl

theorem firstAttack_eq {ρ : Type} (turns : Int) (b : Binding) (r : Run ρ) :
    firstAttack turns b r =
      if (r.cards b.actor).firstActionUsed then
        r.tell [.trace (.alreadyUsed (r.cards b.actor).name)]
      else
        match b.target with
        | none =>
            (r.edit remember b.actor).tell [.notice (.firstAttack (r.cards b.actor).name)]
        | some o =>
            (r.edit remember b.actor).edit (chill (r.cards b.actor).name turns) o := by
  have remembered : r.edit remember b.actor
      = r.put b.actor { r.cards b.actor with firstActionUsed := true } := by
    simp [Run.edit, Run.tell, remember, Run.put]
  unfold firstAttack
  rw [remembered]
  rfl

end Effect

namespace Atom

/-- The filter and the change of an atom that only changes the cards of a filter. -/
def edit? : Atom → Option (TargetFilter × (Card → Card × List Event))
  | modifyAtk amount f c => some (f, Effect.changeAtk amount c)
  | modifyHp amount f c => some (f, Effect.changeHp amount c)
  | conditionalModifyAtk base bonus c f => some (f, Effect.changeAtkWithBonus base bonus c)
  | conditionalModifyHp base bonus c f => some (f, Effect.changeHpWithBonus base bonus c)
  | freeze turns f => some (f, Effect.frost turns)
  | removeDebuffs f => some (f, Effect.thaw)
  | addImmunity f => some (f, Effect.shield)
  | _ => none

theorem perform_of_edit? {ρ : Type} [RandomSource ρ] {a : Atom} {f : TargetFilter}
    {change : Card → Card × List Event} (h : a.edit? = some (f, change)) (b : Binding)
    (r : Run ρ) : a.perform b r = r.reach b f change := by
  cases a <;> cases h <;> rfl

theorem lasts_of_edit? {a : Atom} {f : TargetFilter} {change : Card → Card × List Event}
    (h : a.edit? = some (f, change)) : Effect.Lasts change := by
  cases a with
  | modifyAtk amount f c => cases h; exact Effect.lasts_changeAtk amount c
  | modifyHp amount f c => cases h; exact Effect.lasts_changeHp amount c
  | conditionalModifyAtk base bonus c f =>
      cases h; exact Effect.lasts_changeAtkWithBonus base bonus c
  | conditionalModifyHp base bonus c f =>
      cases h; exact Effect.lasts_changeHpWithBonus base bonus c
  | freeze turns f => cases h; exact Effect.lasts_frost turns
  | removeDebuffs f => cases h; exact Effect.lasts_thaw
  | addImmunity f => cases h; exact Effect.lasts_shield
  | _ => cases h

end Atom

/-! ## The lasting part through a run -/

namespace Run

variable {ρ : Type}

theorem edit_lasting {change : Card → Card × List Event} (lasts : Effect.Lasts change)
    (r : Run ρ) (o x : Origin) :
    ((r.edit change o).cards x).lasting = (r.cards x).lasting := by
  rw [edit_cards]
  split
  · rename_i same
    rw [lasts, same]
  · rfl

theorem visit_lasting {change : Card → Card × List Event} (lasts : Effect.Lasts change)
    (r : Run ρ) (os : List Origin) (x : Origin) :
    ((r.visit os change).cards x).lasting = (r.cards x).lasting := by
  induction os generalizing r with
  | nil => rfl
  | cons o os ih => exact (ih (r.edit change o)).trans (edit_lasting lasts r o x)

/-! ## The cards of a filter -/

/-- A search looks at places, and of a card at what lasts alone. -/
theorem targets_congr {r r' : Run ρ} (table : r'.table = r.table)
    (lasting : ∀ x, (r'.cards x).lasting = (r.cards x).lasting) (b : Binding) (f : TargetFilter) :
    r'.targets b f = r.targets b f := by
  have seen : ∀ q : Run ρ, q.targets b f
      = (⟨q.table, fun x => (q.cards x).lasting, (), []⟩ : Run Unit).targets b f := fun _ => rfl
  rw [seen r, seen r', table, funext lasting]

theorem reach_lasting {change : Card → Card × List Event} (lasts : Effect.Lasts change)
    (r : Run ρ) (b : Binding) (f : TargetFilter) (x : Origin) :
    ((r.reach b f change).cards x).lasting = (r.cards x).lasting :=
  visit_lasting lasts (r.tell (r.targets b f).2) (r.targets b f).1 x

/-- A lasting change leaves a filter the cards that it had. -/
theorem targets_reach {change : Card → Card × List Event} (lasts : Effect.Lasts change)
    (r : Run ρ) (b : Binding) (f : TargetFilter) :
    (r.reach b f change).targets b f = r.targets b f :=
  targets_congr (reach_table r b f change) (reach_lasting lasts r b f) b f

/-- A card that is visited several times is changed as often. -/
theorem visit_cards_iterate (change : Card → Card × List Event) (r : Run ρ) (os : List Origin)
    (o : Origin) :
    (r.visit os change).cards o = (fun c => (change c).1)^[os.count o] (r.cards o) := by
  induction os generalizing r with
  | nil => rfl
  | cons x os ih =>
      refine (ih (r.edit change x)).trans ?_
      rw [edit_cards]
      by_cases same : o = x
      · subst same
        rw [if_pos rfl, List.count_cons_self, Function.iterate_succ_apply]
      · rw [if_neg same, List.count_cons_of_ne (Ne.symm same)]

theorem reach_cards (r : Run ρ) (b : Binding) (f : TargetFilter)
    (change : Card → Card × List Event) (o : Origin) :
    (r.reach b f change).cards o
      = (fun c => (change c).1)^[(r.targets b f).1.count o] (r.cards o) :=
  visit_cards_iterate change (r.tell (r.targets b f).2) (r.targets b f).1 o

theorem reach_cards_of_not_mem {r : Run ρ} {b : Binding} {f : TargetFilter} {o : Origin}
    (unreached : o ∉ (r.targets b f).1) (change : Card → Card × List Event) :
    (r.reach b f change).cards o = r.cards o := by
  rw [reach_cards, List.count_eq_zero.mpr unreached, Function.iterate_zero_apply]

end Run

end LaneDuel
