/-
# LaneDuel.Proofs.Effect.Marks -- which cards an effect changes, and their marks

Effects change cards on the lanes and in hands, the bound target, and nothing else
(`Run.Reached`); a building, or a card in a pile, is out of reach unless it is the
target.  Two marks of a card are only ever given: no change takes an immunity away, and
none but a first attack touches the mark of the first attack (`Card.KeepsMarks`).

A first attack marks the acting card wherever it lies (`Atom.mark`).  Up to that mark
every atom leaves what it does not reach as it was and keeps the marks of what it reaches
(`Atom.perform_touches`).
-/
import LaneDuel.Proofs.Effect.Limits
import LaneDuel.Proofs.Effect.Target

namespace LaneDuel

set_option autoImplicit false

/-! ## Marks -/

/-- A later form of a card: still immune if it was, its first attack neither made nor
taken back. -/
structure Card.KeepsMarks (c d : Card) : Prop where
  immune : c.immune = true → d.immune = true
  firstActionUsed : d.firstActionUsed = c.firstActionUsed

namespace Card.KeepsMarks

theorem refl (c : Card) : c.KeepsMarks c := ⟨id, rfl⟩

theorem trans {c d e : Card} (h : c.KeepsMarks d) (h' : d.KeepsMarks e) : c.KeepsMarks e :=
  ⟨h'.immune ∘ h.immune, h'.firstActionUsed.trans h.firstActionUsed⟩

end Card.KeepsMarks

namespace Effect

/-- A change that keeps the marks of every card. -/
def KeepsMarks (change : Card → Card × List Event) : Prop := ∀ c : Card, c.KeepsMarks (change c).1

theorem keepsMarks_changeAtk (amount : Int) (condition : Option Condition) :
    KeepsMarks (changeAtk amount condition) := by
  intro c
  unfold changeAtk
  split <;> exact ⟨id, rfl⟩

theorem keepsMarks_changeHp (amount : Int) (condition : Option Condition) :
    KeepsMarks (changeHp amount condition) := by
  intro c
  unfold changeHp
  split <;> exact ⟨id, rfl⟩

theorem keepsMarks_changeAtkWithBonus (base bonus : Int) (condition : Condition) :
    KeepsMarks (changeAtkWithBonus base bonus condition) := by
  intro c
  simp only [changeAtkWithBonus]
  split
  · exact .refl c
  · split <;> exact ⟨id, rfl⟩

theorem keepsMarks_changeHpWithBonus (base bonus : Int) (condition : Condition) :
    KeepsMarks (changeHpWithBonus base bonus condition) := by
  intro c
  simp only [changeHpWithBonus]
  split
  · exact .refl c
  · split <;> exact ⟨id, rfl⟩

theorem keepsMarks_frost (turns : Nat) : KeepsMarks (frost turns) := fun _ => ⟨id, rfl⟩

theorem keepsMarks_thaw : KeepsMarks thaw := by
  intro c
  unfold thaw
  split <;> exact ⟨id, rfl⟩

theorem keepsMarks_shield : KeepsMarks shield := fun _ => ⟨fun _ => rfl, rfl⟩

theorem keepsMarks_chill (attacker : String) (turns : Int) : KeepsMarks (chill attacker turns) :=
  fun _ => ⟨id, rfl⟩

theorem keepsMarks_buffMonster (amount : Int) : KeepsMarks (buffMonster amount) := by
  intro c
  unfold buffMonster
  split <;> exact ⟨id, rfl⟩

theorem keepsMarks_debuffMonster : KeepsMarks debuffMonster := by
  intro c
  unfold debuffMonster
  split <;> exact ⟨id, rfl⟩

theorem keepsMarks_hit (damage : Int) : KeepsMarks (hit damage) := fun _ => ⟨id, rfl⟩

end Effect

theorem Atom.keepsMarks_of_edit? {a : Atom} {f : TargetFilter}
    {change : Card → Card × List Event} (h : a.edit? = some (f, change)) :
    Effect.KeepsMarks change := by
  cases a with
  | modifyAtk amount f c => cases h; exact Effect.keepsMarks_changeAtk amount c
  | modifyHp amount f c => cases h; exact Effect.keepsMarks_changeHp amount c
  | conditionalModifyAtk base bonus c f =>
      cases h; exact Effect.keepsMarks_changeAtkWithBonus base bonus c
  | conditionalModifyHp base bonus c f =>
      cases h; exact Effect.keepsMarks_changeHpWithBonus base bonus c
  | freeze turns f => cases h; exact Effect.keepsMarks_frost turns
  | removeDebuffs f => cases h; exact Effect.keepsMarks_thaw
  | addImmunity f => cases h; exact Effect.keepsMarks_shield
  | _ => cases h

/-! ## Reach -/

namespace Run

variable {ρ : Type}

/-- What an effect can change the stats of: the target, and what lies on a lane or in a
hand. -/
def Reached (r : Run ρ) (b : Binding) (o : Origin) : Prop :=
  b.target = some o ∨ ∃ side zone, zone ≠ .buildings ∧ some o ∈ (r.table.player side).zone zone

theorem reached_of_field {r : Run ρ} {b : Binding} {side : Side} {o : Origin}
    (onField : o ∈ r.field side) : r.Reached b o :=
  .inr ⟨side, .battlefield, by decide, mem_taken.mp onField⟩

theorem reached_of_mem_targets {r : Run ρ} {b : Binding} {f : TargetFilter} {o : Origin}
    (chosen : o ∈ (r.targets b f).1) : r.Reached b o := by
  unfold targets at chosen
  cases mode : f.target with
  | some special =>
      rw [mode] at chosen
      cases special with
      | own =>
          simp only at chosen
          split at chosen
          · rename_i found
            rw [List.mem_singleton.mp chosen]
            obtain ⟨-, slot, zone, there⟩ := Table.findCard_eq_some found
            rw [Table.cardAt, Option.join_eq_some_iff] at there
            refine .inr ⟨slot.side, slot.zone, ?_, List.mem_of_getElem? there⟩
            simp [List.mem_singleton.mp zone]
          · cases chosen
      | selected => exact .inl (Option.mem_toList.mp chosen)
  | none =>
      rw [mode] at chosen
      simp only [TargetFilter.narrow_eq_filter, candidates] at chosen
      have found := List.mem_of_mem_filter chosen
      cases scope : f.player with
      | none => simp [scope] at found
      | some scope' =>
          rw [scope] at found
          obtain ⟨side, -, held⟩ := List.mem_flatMap.mp found
          refine .inr ⟨side, f.location.zone, ?_, mem_taken.mp held⟩
          cases f.location <;> decide

/-- Between two stages only some cards have changed, and they have kept their marks. -/
def Touches (within : Origin → Prop) (r r' : Run ρ) : Prop :=
  ∀ o, r'.cards o = r.cards o ∨ within o ∧ (r.cards o).KeepsMarks (r'.cards o)

namespace Touches

variable {within : Origin → Prop} {r r' r'' : Run ρ}

theorem of_cards (same : r'.cards = r.cards) : r.Touches within r' :=
  fun o => .inl (congrFun same o)

theorem trans (h : r.Touches within r') (h' : r'.Touches within r'') : r.Touches within r'' := by
  intro o
  rcases h o with same | ⟨inside, keeps⟩
  · rw [← same]
    exact h' o
  · rcases h' o with same' | ⟨-, keeps'⟩
    · rw [same']
      exact .inr ⟨inside, keeps⟩
    · exact .inr ⟨inside, keeps.trans keeps'⟩

end Touches

variable (within : Origin → Prop)

theorem edit_touches {change : Card → Card × List Event} (keeps : Effect.KeepsMarks change)
    (r : Run ρ) {o : Origin} (inside : within o) : r.Touches within (r.edit change o) := by
  intro x
  rw [edit_cards]
  split
  · rename_i same
    rw [same]
    exact .inr ⟨inside, keeps _⟩
  · exact .inl rfl

theorem visit_touches {change : Card → Card × List Event} (keeps : Effect.KeepsMarks change)
    (r : Run ρ) {os : List Origin} (inside : ∀ o ∈ os, within o) :
    r.Touches within (r.visit os change) := by
  induction os generalizing r with
  | nil => exact .of_cards rfl
  | cons o os ih =>
      have first := edit_touches within keeps r (inside o List.mem_cons_self)
      exact first.trans
        (ih (r.edit change o) fun o' later => inside o' (List.mem_cons_of_mem o later))

end Run

/-! ## Effects -/

namespace Effect

variable {ρ : Type}

theorem hellLord_touches (b : Binding) (r : Run ρ) :
    r.Touches (r.Reached b) (hellLord b r) := by
  have own : r.Touches (r.Reached b) (r.visit (r.field b.player)
      (buffMonster (hellLordBuff ((r.field b.player).map r.cards)))) :=
    Run.visit_touches _ (keepsMarks_buffMonster _) r fun o => Run.reached_of_field
  refine own.trans (Run.visit_touches _ keepsMarks_debuffMonster _ fun o onField => ?_)
  -- the bonus has moved nothing
  have same : (r.visit (r.field b.player)
      (buffMonster (hellLordBuff ((r.field b.player).map r.cards)))).field b.opponent
        = r.field b.opponent := by
    simp [Run.field]
  exact Run.reached_of_field (same ▸ onField)

theorem cascade_touches (base : Int) (b : Binding) (r : Run ρ) :
    r.Touches (r.Reached b) (cascade base b r) := by
  have inside : ∀ first ∈ (byHealth r.cards (r.field b.opponent)).zipIdx, r.Reached b first.1 := by
    intro first ranked
    have onField := List.fst_mem_of_mem_zipIdx ranked
    exact Run.reached_of_field ((List.mergeSort_perm _ _).mem_iff.mp onField)
  unfold cascade
  generalize r.Reached b = within at inside ⊢
  generalize (byHealth r.cards (r.field b.opponent)).zipIdx = ranked at inside
  induction ranked generalizing r with
  | nil => exact .of_cards rfl
  | cons first ranked ih =>
      have struck := Run.edit_touches within (keepsMarks_hit (cascadeAt base first.2)) r
        (inside first List.mem_cons_self)
      exact struck.trans (ih _ fun next later => inside next (List.mem_cons_of_mem _ later))

end Effect

/-! ## The mark of the first attack -/

/-- What a first attack, and nothing else, does to the acting card beside its effect. -/
def Atom.mark (a : Atom) (b : Binding) (o : Origin) (c : Card) : Card :=
  if o = b.actor ∧ a.kind = .freezeOnFirstAttack then { c with firstActionUsed := true } else c

theorem Atom.mark_of_ne {a : Atom} (other : a.kind ≠ .freezeOnFirstAttack) (b : Binding)
    (o : Origin) (c : Card) : a.mark b o c = c :=
  if_neg fun h => other h.2

theorem Effect.firstAttack_touches {ρ : Type} (turns : Nat) (b : Binding) (r : Run ρ)
    (o : Origin) :
    let marked := (Atom.freezeOnFirstAttack turns).mark b o (r.cards o)
    (firstAttack turns b r).cards o = marked ∨
      r.Reached b o ∧ marked.KeepsMarks ((firstAttack turns b r).cards o) := by
  intro marked
  rw [firstAttack_eq]
  split
  · rename_i used
    refine .inl ?_
    change r.cards o = if o = b.actor ∧ _ then _ else _
    split
    · rename_i acting
      rw [acting.1, ← used]
    · rfl
  · have remembered : (r.edit remember b.actor).cards o = marked := by
      rw [Run.edit_cards]
      by_cases acting : o = b.actor
      · have first : marked = { r.cards o with firstActionUsed := true } := if_pos ⟨acting, rfl⟩
        rw [if_pos acting, first, acting]
        rfl
      · have plain : marked = r.cards o := if_neg fun h => acting h.1
        rw [if_neg acting, plain]
    split
    · exact .inl remembered
    · rename_i aim bound
      have reached : r.Reached b aim := .inl bound
      have chilled := Run.edit_touches (r.Reached b)
        (keepsMarks_chill (r.cards b.actor).name turns) (r.edit remember b.actor) reached o
      rw [remembered] at chilled
      exact chilled

/-- **What no effect reaches stays as it is, and what it reaches keeps its marks**, but for
the mark of a first attack on the acting card. -/
theorem Atom.perform_touches {ρ : Type} [RandomSource ρ] (b : Binding) (r : Run ρ) (a : Atom)
    (o : Origin) :
    (a.perform b r).cards o = a.mark b o (r.cards o) ∨
      r.Reached b o ∧ (a.mark b o (r.cards o)).KeepsMarks ((a.perform b r).cards o) := by
  by_cases first : a.kind = .freezeOnFirstAttack
  · cases a with
    | freezeOnFirstAttack turns => exact Effect.firstAttack_touches turns b r o
    | _ => cases first
  · rw [mark_of_ne first]
    revert o
    change r.Touches (r.Reached b) (a.perform b r)
    cases edits : a.edit? with
    | some e =>
        rw [perform_of_edit? edits]
        exact Run.visit_touches _ (keepsMarks_of_edit? edits) (r.tell _)
          fun o => Run.reached_of_mem_targets
    | none =>
        cases a with
        | killCard f => exact .of_cards (Effect.fold_cards Effect.killOne_cards (r.tell _) _)
        | clearField f =>
            exact .of_cards (Effect.fold_cards (Effect.clearSide_cards (f.bind (·.exceptRace))) r _)
        | conditionalKillPlayer c =>
            refine .of_cards ?_
            rw [perform, Effect.execute]
            split <;> rfl
        | cascadeDamage base => exact Effect.cascade_touches base b r
        | drawFromDiscard amount =>
            refine .of_cards ?_
            rw [perform, Effect.drawDiscarded]
            split <;> rfl
        | discardAndRedraw =>
            refine .of_cards ?_
            rw [perform, Effect.redraw]
            split <;> rfl
        | hellLordBonus => exact Effect.hellLord_touches b r
        | freezeOnFirstAttack turns => exact absurd rfl first
        | swapRandomHands amount =>
            refine .of_cards ?_
            simp only [perform, Effect.swapHands, Effect.exchange]
            split <;> rfl
        | playerHeal | playerDamage | gainCoins | drawCards | swapBattlefields | skipTurn
        | uiModeMessage => exact .of_cards rfl
        | _ => cases edits

namespace Atom

variable {ρ : Type} [RandomSource ρ] (b : Binding) (r : Run ρ) (a : Atom) (o : Origin)

/-- The mark of the first attack is set by first attacks of the acting card alone. -/
theorem perform_firstActionUsed :
    ((a.perform b r).cards o).firstActionUsed =
      ((r.cards o).firstActionUsed ||
        (decide (o = b.actor) && a.kind == .freezeOnFirstAttack)) := by
  have marked : (a.mark b o (r.cards o)).firstActionUsed =
      ((r.cards o).firstActionUsed ||
        (decide (o = b.actor) && a.kind == .freezeOnFirstAttack)) := by
    unfold mark
    split
    · rename_i own
      simp [own]
    · rename_i other
      have unset : (decide (o = b.actor) && a.kind == .freezeOnFirstAttack) = false := by
        simpa using other
      rw [unset, Bool.or_false]
  rcases perform_touches b r a o with same | ⟨-, keeps⟩
  · rw [same, marked]
  · rw [keeps.firstActionUsed, marked]

/-- No immunity is lost. -/
theorem perform_immune (immune : (r.cards o).immune = true) :
    ((a.perform b r).cards o).immune = true := by
  have marked : (a.mark b o (r.cards o)).immune = true := by
    unfold mark
    split <;> exact immune
  rcases perform_touches b r a o with same | ⟨-, keeps⟩
  · rw [same, marked]
  · exact keeps.immune marked

end Atom

end LaneDuel
