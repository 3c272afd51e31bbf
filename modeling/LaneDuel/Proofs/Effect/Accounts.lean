/-
# LaneDuel.Proofs.Effect.Accounts -- health, coins and signals

`Table.accounts` is what a table keeps beside its cards.  Moves of cards and changes
of cards leave all of it alone (`Atom.perform_accounts`), whatever is moved and
wherever to.  The five kinds of atoms that do touch it each have their own entry:
healing and damage (`heal_accounts`, `damage_accounts`), coins (`gainCoins_accounts`),
the execution of the opponent (`execute_accounts`) and the skip signal
(`skipTurn_accounts`).

The signals and the coins only go one way (`Accounts.Advances`): `Atom.perform_advances`.
-/
import LaneDuel.Proofs.Effect.Shrinking

namespace LaneDuel

set_option autoImplicit false

universe u

/-- What the players have beside their cards, and what the turn loop is told. -/
structure Accounts (ν σ : Type) where
  health : Side → ν
  coins : Side → ν
  signals : σ

namespace Accounts

variable {σ : Type}

/-- The health of one side changes by an amount; it is not cut off at zero. -/
def addHealth (v : Accounts Int σ) (s : Side) (amount : Int) : Accounts Int σ :=
  { v with health := fun s' => if s' = s then v.health s' + amount else v.health s' }

def addCoins (v : Accounts Int σ) (s : Side) (amount : Int) : Accounts Int σ :=
  { v with coins := fun s' => if s' = s then v.coins s' + amount else v.coins s' }

/-- The opponent of a side is executed. -/
def fell (v : Accounts Int Signals) (s : Side) : Accounts Int Signals where
  health s' := if s' = s.opponent then 0 else v.health s'
  coins := v.coins
  signals := { v.signals with immediateVictory := some s }

end Accounts

/-! ## Signals go one way -/

/-- The turn, its phase and the selected card stay; the skip signal is not taken back, and
nobody but the acting side is told to have won. -/
structure Signals.Advances (acting : Side) (g g' : Signals) : Prop where
  turn : g'.turn = g.turn
  phase : g'.phase = g.phase
  selected : g'.selected = g.selected
  skip : g.skipToNextTurn = true → g'.skipToNextTurn = true
  victory : g'.immediateVictory = g.immediateVictory ∨ g'.immediateVictory = some acting

namespace Accounts

/-- The signals go one way, and of the coins only the acting side's change: they rise. -/
structure Advances (acting : Side) (v v' : Accounts Int Signals) : Prop where
  signals : v.signals.Advances acting v'.signals
  own : v.coins acting ≤ v'.coins acting
  other : v'.coins acting.opponent = v.coins acting.opponent

namespace Advances

variable {acting : Side} {v v' v'' : Accounts Int Signals}

theorem refl (acting : Side) (v : Accounts Int Signals) : v.Advances acting v :=
  ⟨⟨rfl, rfl, rfl, id, .inl rfl⟩, Int.le_refl _, rfl⟩

theorem trans (h : v.Advances acting v') (h' : v'.Advances acting v'') : v.Advances acting v'' where
  signals :=
    { turn := h'.signals.turn.trans h.signals.turn
      phase := h'.signals.phase.trans h.signals.phase
      selected := h'.signals.selected.trans h.signals.selected
      skip := h'.signals.skip ∘ h.signals.skip
      victory := by
        rcases h'.signals.victory with kept | won
        · rw [kept]
          exact h.signals.victory
        · exact .inr won }
  own := Int.le_trans h.own h'.own
  other := h'.other.trans h.other

theorem of_addHealth (acting s : Side) (v : Accounts Int Signals) (amount : Int) :
    v.Advances acting (v.addHealth s amount) :=
  ⟨(refl acting v).signals, Int.le_refl _, rfl⟩

theorem of_fell (acting : Side) (v : Accounts Int Signals) : v.Advances acting (v.fell acting) :=
  ⟨⟨rfl, rfl, rfl, id, .inr rfl⟩, Int.le_refl _, rfl⟩

theorem of_addCoins (acting : Side) (v : Accounts Int Signals) (due : Nat) :
    v.Advances acting (v.addCoins acting due) where
  signals := (refl acting v).signals
  own := by
    simp only [addCoins, if_pos]
    omega
  other := if_neg (Side.opponent_ne acting)

end Advances

end Accounts

namespace Table

variable {ν σ : Type} {α : Type u}

def accounts (t : Table ν σ α) : Accounts ν σ where
  health s := (t.player s).health
  coins s := (t.player s).coins
  signals := t.signals

theorem accounts_ext {t : Table ν σ α} {v : Accounts ν σ} (s : Side)
    (own : (t.player s).health = v.health s ∧ (t.player s).coins = v.coins s)
    (other : (t.player s.opponent).health = v.health s.opponent ∧
      (t.player s.opponent).coins = v.coins s.opponent)
    (signals : t.signals = v.signals) : t.accounts = v := by
  have players : ∀ s', (t.player s').health = v.health s' ∧ (t.player s').coins = v.coins s' :=
    (Side.forall_iff s).mpr ⟨own, other⟩
  simp only [accounts, players, signals]

/-- Changing the cards of one player. -/
theorem accounts_modifyPlayer (t : Table ν σ α) (s : Side) {f : Player ν α → Player ν α}
    (health : (f (t.player s)).health = (t.player s).health)
    (coins : (f (t.player s)).coins = (t.player s).coins) :
    (t.modifyPlayer s f).accounts = t.accounts := by
  refine accounts_ext s ?_ ?_ (modifyPlayer_signals t s f)
  · simp [accounts, health, coins]
  · simp [accounts]

/-- Changing the piles. -/
theorem accounts_piles (t : Table ν σ α) (d m p : List α) :
    (Table.mk t.red t.blue d m p t.signals).accounts = t.accounts := by
  simp only [accounts, player_mk]

@[simp] theorem accounts_map {β : Type u} (f : α → β) (t : Table ν σ α) :
    (t.map f).accounts = t.accounts := by
  simp only [accounts, player_map]
  rfl

end Table

/-! ## Moves -/

namespace Effect

variable {ρ : Type}

theorem fold_accounts {α : Type} {step : Run ρ → α → Run ρ}
    (each : ∀ (r : Run ρ) a, (step r a).table.accounts = r.table.accounts) (r : Run ρ)
    (as : List α) : (as.foldl step r).table.accounts = r.table.accounts := by
  induction as generalizing r with
  | nil => rfl
  | cons a as ih => exact (ih (step r a)).trans (each r a)

theorem killOne_accounts (r : Run ρ) (o : Origin) :
    (killOne r o).table.accounts = r.table.accounts := by
  unfold killOne
  simp only
  split
  · rfl
  · split
    · rfl
    · exact (Table.accounts_piles _ _ _ _).trans (r.table.accounts_modifyPlayer _ rfl rfl)

theorem clearSide_accounts (except : Option (List String)) (r : Run ρ) (side : Side) :
    (clearSide except r side).table.accounts = r.table.accounts :=
  (Table.accounts_piles _ _ _ _).trans (r.table.accounts_modifyPlayer side rfl rfl)

theorem swapBattlefields_accounts (b : Binding) (r : Run ρ) :
    (swapBattlefields b r).table.accounts = r.table.accounts :=
  (Table.accounts_modifyPlayer _ b.opponent rfl rfl).trans
    (r.table.accounts_modifyPlayer b.player rfl rfl)

theorem drawDiscarded_accounts (amount : Nat) (b : Binding) (r : Run ρ) :
    (drawDiscarded amount b r).table.accounts = r.table.accounts := by
  unfold drawDiscarded
  simp only
  split
  · rfl
  · exact (Table.accounts_modifyPlayer _ b.player rfl rfl).trans (r.table.accounts_piles _ _ _)

theorem redraw_accounts [RandomSource ρ] (b : Binding) (r : Run ρ) :
    (redraw b r).table.accounts = r.table.accounts := by
  unfold redraw
  simp only
  split
  · rfl
  · exact (Table.accounts_modifyPlayer _ b.player rfl rfl).trans (r.table.accounts_piles _ _ _)

theorem draw_accounts (base bonus : Nat) (condition : Option FieldRaceCondition) (b : Binding)
    (r : Run ρ) : (draw base bonus condition b r).table.accounts = r.table.accounts :=
  (Table.accounts_modifyPlayer _ b.player rfl rfl).trans (r.table.accounts_piles _ _ _)

theorem exchange_accounts (given taken : List Origin) (b : Binding) (r : Run ρ) :
    (exchange given taken b r).table.accounts = r.table.accounts := by
  unfold exchange
  split
  · rfl
  · exact (Table.accounts_modifyPlayer _ b.opponent rfl rfl).trans
      (r.table.accounts_modifyPlayer b.player rfl rfl)

theorem hellLord_table (b : Binding) (r : Run ρ) : (hellLord b r).table = r.table := by
  simp [hellLord]

theorem firstAttack_table (turns : Int) (b : Binding) (r : Run ρ) :
    (firstAttack turns b r).table = r.table := by
  rw [firstAttack_eq]
  split
  · rfl
  · split <;> rfl

/-! ## The kinds that touch them -/

theorem heal_accounts (amount : Int) (f : PlayerFilter) (b : Binding) (r : Run ρ) :
    (heal amount f b r).table.accounts
      = r.table.accounts.addHealth (f.player.side b.player) amount := by
  refine Table.accounts_ext (f.player.side b.player) ?_ ?_ ?_
  · simp [heal, addHealth, Accounts.addHealth, Table.accounts]
  · simp [heal, Accounts.addHealth, Table.accounts, Side.opponent_ne]
  · simp [heal, Accounts.addHealth, Table.accounts]

theorem damage_accounts (amount : Int) (f : PlayerFilter) (b : Binding) (r : Run ρ) :
    (damage amount f b r).table.accounts
      = r.table.accounts.addHealth (f.player.side b.player) (-amount) :=
  heal_accounts (-amount) f b r

/-- Only the acting side is paid, and no less than nothing. -/
theorem gainCoins_accounts (amount : Nat) (condition : Option CoinCondition) (b : Binding)
    (r : Run ρ) : ∃ due : Nat, (gainCoins amount condition b r).table.accounts
      = r.table.accounts.addCoins b.player due := by
  refine ⟨coinsDue amount condition ((r.table.fieldCards Side.both).map r.cards), ?_⟩
  refine Table.accounts_ext b.player ?_ ?_ ?_
  · simp [gainCoins, pay, addCoins, Accounts.addCoins, Table.accounts]
  · simp [gainCoins, pay, Accounts.addCoins, Table.accounts, Side.opponent_ne]
  · simp [gainCoins, pay, Accounts.addCoins, Table.accounts]

theorem execute_accounts (c : KillCondition) (b : Binding) (r : Run ρ) :
    (execute c b r).table.accounts =
      if r.table.accounts.health b.player.opponent ≤ c.threshold then
        r.table.accounts.fell b.player
      else r.table.accounts := by
  by_cases low : (r.player b.opponent).health ≤ c.threshold
  · have low' : r.table.accounts.health b.player.opponent ≤ c.threshold := low
    rw [execute, if_pos low, if_pos low']
    refine Table.accounts_ext b.player ?_ ?_ ?_
    · simp [Accounts.fell, Table.accounts]
    · simp [Accounts.fell, Table.accounts]
    · simp [Accounts.fell, Table.accounts]
  · have low' : ¬ r.table.accounts.health b.player.opponent ≤ c.threshold := low
    rw [execute, if_neg low, if_neg low']
    rfl

theorem skipTurn_accounts (r : Run ρ) :
    (skipTurn r).table.accounts =
      { r.table.accounts with
          signals := { r.table.signals with skipToNextTurn := true } } := by
  refine Table.accounts_ext .red ?_ ?_ rfl
  · exact ⟨rfl, rfl⟩
  · exact ⟨rfl, rfl⟩

end Effect

namespace Atom

/-- The kinds that touch health, coins or signals. -/
def accounted : Atom → Bool
  | playerHeal .. | playerDamage .. | gainCoins .. | conditionalKillPlayer .. | skipTurn => true
  | _ => false

variable {ρ : Type} [RandomSource ρ]

/-- **Nothing done to cards touches health, coins or signals.** -/
theorem perform_accounts (b : Binding) (r : Run ρ) {a : Atom} (other : a.accounted = false) :
    (a.perform b r).table.accounts = r.table.accounts := by
  cases edits : a.edit? with
  | some e => rw [perform_of_edit? edits, Run.reach_table]
  | none =>
      cases a with
      | killCard f => exact Effect.fold_accounts Effect.killOne_accounts (r.tell _) _
      | clearField f => exact Effect.fold_accounts (Effect.clearSide_accounts _) r _
      | cascadeDamage base => rw [perform, Effect.cascade_table]
      | drawFromDiscard amount => exact Effect.drawDiscarded_accounts amount b r
      | discardAndRedraw => exact Effect.redraw_accounts b r
      | drawCards base bonus c => exact Effect.draw_accounts base bonus c b r
      | hellLordBonus => rw [perform, Effect.hellLord_table]
      | swapBattlefields => exact Effect.swapBattlefields_accounts b r
      | freezeOnFirstAttack turns => rw [perform, Effect.firstAttack_table]
      | swapRandomHands amount => exact Effect.exchange_accounts _ _ b { r with source := _ }
      | uiModeMessage message => rfl
      | playerHeal | playerDamage | gainCoins | conditionalKillPlayer | skipTurn => cases other
      | _ => cases edits

/-- **Signals go one way**, and of the players' coins only the acting side's change. -/
theorem perform_advances (b : Binding) (r : Run ρ) (a : Atom) :
    r.table.accounts.Advances b.player (a.perform b r).table.accounts := by
  by_cases other : a.accounted = false
  · rw [perform_accounts b r other]
    exact .refl _ _
  · cases a with
    | playerHeal amount f =>
        rw [perform, Effect.heal_accounts]
        exact .of_addHealth _ _ _ _
    | playerDamage amount f =>
        rw [perform, Effect.damage_accounts]
        exact .of_addHealth _ _ _ _
    | gainCoins amount c =>
        obtain ⟨due, paid⟩ := Effect.gainCoins_accounts amount c b r
        rw [perform, paid]
        exact .of_addCoins _ _ due
    | conditionalKillPlayer c =>
        rw [perform, Effect.execute_accounts]
        split
        · exact .of_fell _ _
        · exact .refl _ _
    | skipTurn =>
        rw [perform, Effect.skipTurn_accounts]
        exact ⟨⟨rfl, rfl, rfl, fun _ => rfl, .inl rfl⟩, Int.le_refl _, rfl⟩
    | _ => exact absurd rfl other

end Atom

end LaneDuel
