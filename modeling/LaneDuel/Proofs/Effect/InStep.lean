/-
# LaneDuel.Proofs.Effect.InStep -- every atom keeps corresponding runs in step

What an effect does depends on the roles of the players and the values of the
cards, never on the names of cards, and on the colours only where cards of both
sides are discarded red first.  After the effects on lanes and on hands come those on
players, signals and single cards, then all atoms at once (`Atom.perform_matches`).
-/
import LaneDuel.Proofs.Effect.InStep.Hands
import LaneDuel.Proofs.Effect.InStep.Lanes

namespace LaneDuel

set_option autoImplicit false

namespace Effect

variable {φ : Correspondence} {ρ : Type} {l r : Run ρ} {b : Binding}

/-! ## Players and signals -/

/-- A change to a player that leaves every card where it is. -/
structure Counts (change : Player Int Origin → Player Int Origin) : Prop where
  cards : ∀ p, (change p).cards = p.cards
  map : ∀ (f : Origin → Origin) p, change (p.map f) = (change p).map f

theorem counts_addHealth (amount : Int) : Counts (addHealth amount) :=
  ⟨fun _ => rfl, fun _ _ => rfl⟩

theorem counts_addCoins (amount : Int) : Counts (addCoins amount) :=
  ⟨fun _ => rfl, fun _ _ => rfl⟩

theorem counts_matches {change : Player Int Origin → Player Int Origin} (counts : Counts change)
    (h : φ.Matches l r) (s : Side) :
    φ.Matches (l.modifyPlayer s change) (r.modifyPlayer (φ.side s) change) :=
  h.modifyPlayer (counts.map φ.name _) fun _ held =>
    h.live_of_player (counts.cards (l.table.player s) ▸ held)

/-- Changing the numbers of a player and telling what they are then. -/
theorem counts_told_matches {change : Player Int Origin → Player Int Origin}
    (counts : Counts change) (h : φ.Matches l r) (s : Side) (told : Side → Int → Int → Notice) :
    φ.Matches
      ((l.modifyPlayer s change).notice
        (told s ((l.modifyPlayer s change).player s).health
          ((l.modifyPlayer s change).player s).coins))
      ((r.modifyPlayer (φ.side s) change).notice
        (told (φ.side s) ((r.modifyPlayer (φ.side s) change).player (φ.side s)).health
          ((r.modifyPlayer (φ.side s) change).player (φ.side s)).coins)) := by
  have changed := counts_matches counts h s
  refine changed.tell fun uncrossed => ?_
  rw [Run.player_eq, Run.player_eq, changed.player, φ.side_of_uncrossed uncrossed]
  rfl

theorem party_side (φ : Correspondence) (s : Side) (party : Party) :
    party.side (φ.side s) = φ.side (party.side s) := by
  cases party <;> simp [Party.side]

theorem heal_matches (h : φ.Matches l r) (amount : Int) (f : PlayerFilter) :
    φ.Matches (heal amount f b l) (heal amount f (φ.binding b) r) := by
  unfold heal
  simp only [φ.binding_player, party_side]
  exact counts_told_matches (counts_addHealth amount) h (f.player.side b.player)
    fun s health _ => .playerHeal s amount health

theorem damage_matches (h : φ.Matches l r) (amount : Int) (f : PlayerFilter) :
    φ.Matches (damage amount f b l) (damage amount f (φ.binding b) r) := by
  unfold damage
  simp only [φ.binding_player, party_side]
  exact counts_told_matches (counts_addHealth (-amount)) h (f.player.side b.player)
    fun s health _ => .playerDamage s amount health

theorem pay_matches (h : φ.Matches l r) (amount : Int) :
    φ.Matches (pay amount b l) (pay amount (φ.binding b) r) := by
  unfold pay
  simp only [φ.binding_player]
  exact counts_told_matches (counts_addCoins amount) h b.player
    fun s _ coins => .coinsGained s amount coins

theorem gainCoins_matches (h : φ.Matches l r) (amount : Nat) (condition : Option CoinCondition) :
    φ.Matches (gainCoins amount condition b l) (gainCoins amount condition (φ.binding b) r) := by
  have due : coinsDue amount condition ((r.table.fieldCards Side.both).map r.cards)
      = coinsDue amount condition ((l.table.fieldCards Side.both).map l.cards) := by
    cases condition with
    | none => rfl
    | some c =>
        have same := h.anyOnField b.player .both c.toCondition.admits
        simp only [Scope.sides] at same
        simp only [coinsDue, same]
  unfold gainCoins
  rw [due]
  exact pay_matches h _

theorem execute_matches (h : φ.Matches l r) (c : KillCondition) :
    φ.Matches (execute c b l) (execute c (φ.binding b) r) := by
  have health : (r.table.player (φ.side b.player.opponent)).health
      = (l.table.player b.player.opponent).health := by
    rw [h.player, Player.map]
  unfold execute
  simp only [φ.binding_opponent, φ.binding_player, Binding.opponent_eq, Run.player_eq, health]
  by_cases falls : (l.table.player b.player.opponent).health ≤ c.threshold
  · simp only [falls, if_true]
    have counts : Counts fun p => { p with health := 0 } := ⟨fun _ => rfl, fun _ _ => rfl⟩
    have fallen := counts_matches counts h b.player.opponent
    have won := fallen.signal (fun g => { g with immediateVictory := some b.player })
      (fun g => { g with immediateVictory := some (φ.side b.player) }) ?_
    · exact won.tell fun _ => rfl
    · cases crossed : φ.crossed <;>
        simp [Correspondence.signals, Correspondence.side, Signals.mirror, crossed]
  · simp only [falls, if_false]
    exact h.tell fun _ => rfl

theorem skipTurn_matches (h : φ.Matches l r) : φ.Matches (skipTurn l) (skipTurn r) := by
  have skipped := h.signal (fun g => { g with skipToNextTurn := true })
    (fun g => { g with skipToNextTurn := true }) ?_
  · exact skipped.tell fun _ => rfl
  · cases crossed : φ.crossed <;> simp [Correspondence.signals, Signals.mirror, crossed]

/-! ## Stats and marks -/

theorem hellLord_matches (h : φ.Matches l r) :
    φ.Matches (hellLord b l) (hellLord (φ.binding b) r) := by
  have onField : ∀ s, ∀ o ∈ l.field s, φ.live o := fun s o held => h.live_of_field held
  unfold hellLord
  simp only [φ.binding_player, φ.binding_opponent, Binding.opponent_eq, h.field,
    h.values (onField b.player)]
  have buffed := h.visit_map (buffMonster (hellLordBuff ((l.field b.player).map l.cards)))
    (onField b.player)
  rw [buffed.field]
  exact buffed.visit_map debuffMonster fun o held => buffed.live_of_field held

/-- Cards of the same values come in the same order of hit points. -/
theorem byHealth_matches (h : φ.Matches l r) {os : List Origin} (alive : ∀ o ∈ os, φ.live o) :
    byHealth r.cards (os.map φ.name) = (byHealth l.cards os).map φ.name := by
  have sorted := List.map_mergeSort (f := φ.name) (l := os)
    (r := fun a b => decide ((l.cards b).hp ≤ (l.cards a).hp))
    (s := fun a b => decide ((r.cards b).hp ≤ (r.cards a).hp)) fun a ha b hb => by
      rw [h.cards a (alive a ha), h.cards b (alive b hb)]
  exact sorted.symm

theorem cascade_matches (h : φ.Matches l r) (base : Int) :
    φ.Matches (cascade base b l) (cascade base (φ.binding b) r) := by
  have onField : ∀ o ∈ l.field b.player.opponent, φ.live o := fun o held => h.live_of_field held
  have ranked : ∀ (os : List Origin) (first : Nat), (∀ o ∈ os, φ.live o) → ∀ l' r' : Run ρ,
      φ.Matches l' r' →
      φ.Matches
        ((os.zipIdx first).foldl (fun r hurt => r.edit (hit (cascadeAt base hurt.2)) hurt.1) l')
        (((os.map φ.name).zipIdx first).foldl
          (fun r hurt => r.edit (hit (cascadeAt base hurt.2)) hurt.1) r') := by
    intro os
    induction os with
    | nil => exact fun _ _ _ _ h' => h'
    | cons o os ih =>
        intro first alive l' r' h'
        exact ih (first + 1) (fun x later => alive x (List.mem_cons_of_mem o later)) _ _
          (h'.edit (hit (cascadeAt base first)) (alive o List.mem_cons_self))
  unfold cascade
  simp only [φ.binding_opponent, Binding.opponent_eq, h.field, byHealth_matches h onField]
  exact ranked _ 0 (fun o sorted => onField o ((List.mergeSort_perm _ _).mem_iff.mp sorted)) l r h

theorem firstAttack_matches (h : φ.Matches l r) (binds : φ.Binds b) (turns : Int) :
    φ.Matches (firstAttack turns b l) (firstAttack turns (φ.binding b) r) := by
  have actor := h.cards b.actor binds.1
  have used := h.edit remember binds.1
  rw [firstAttack_eq, firstAttack_eq]
  simp only [φ.binding_actor, actor]
  by_cases already : (l.cards b.actor).firstActionUsed = true
  · simp only [already, if_true]
    exact h.tell fun _ => rfl
  · simp only [already, Bool.false_eq_true, if_false]
    cases target : b.target with
    | none =>
        simp only [Correspondence.binding, target, Option.map_none]
        exact used.tell fun _ => rfl
    | some o =>
        simp only [Correspondence.binding, target, Option.map_some]
        exact used.edit _ (binds.2 o target)

end Effect

/-- **Every atom keeps corresponding runs in step**, but for those that go through both
sides red first, where the sides are crossed. -/
theorem Atom.perform_matches {ρ : Type} [RandomSource ρ] {φ : Correspondence} {l r : Run ρ}
    {b : Binding} (h : φ.Matches l r) (binds : φ.Binds b)
    (distinct : φ.crossed = true → l.Distinct) {a : Atom}
    (fair : φ.crossed = true → ¬ a.RedFirst) :
    φ.Matches (a.perform b l) (a.perform (φ.binding b) r) := by
  cases edits : a.edit? with
  | some e =>
      rw [perform_of_edit? edits, perform_of_edit? edits]
      exact h.reach binds distinct e.1 e.2
  | none =>
      cases a with
      | playerHeal amount f => exact Effect.heal_matches h amount f
      | playerDamage amount f => exact Effect.damage_matches h amount f
      | killCard f => exact Effect.kill_matches h binds distinct fair
      | clearField f => exact Effect.clearField_matches h fair
      | gainCoins amount c => exact Effect.gainCoins_matches h amount c
      | conditionalKillPlayer c => exact Effect.execute_matches h c
      | cascadeDamage base => exact Effect.cascade_matches h base
      | drawFromDiscard amount => exact Effect.drawDiscarded_matches h amount
      | discardAndRedraw => exact Effect.redraw_matches h
      | drawCards base bonus c => exact Effect.draw_matches h base bonus c
      | hellLordBonus => exact Effect.hellLord_matches h
      | swapBattlefields => exact Effect.swapBattlefields_matches h
      | freezeOnFirstAttack turns => exact Effect.firstAttack_matches h binds turns
      | swapRandomHands amount => exact Effect.swapHands_matches h binds amount
      | skipTurn => exact Effect.skipTurn_matches h
      | uiModeMessage message => exact h.tell fun _ => rfl
      | _ => cases edits

end LaneDuel
