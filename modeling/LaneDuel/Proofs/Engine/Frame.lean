/-
# LaneDuel.Proofs.Engine.Frame -- what a play leaves alone

A play reaches far, but some things it leaves alone and others it changes one way only
(`State.Framed`).  The turn, its phase and the selected card stay; no signal is taken
back; coins are only gained, by the acting side; decks do not grow; no card loses a mark;
and every building stays in its slot as it is, up to the acting card's own first attack.

Buildings stand apart: while a chain runs, a card in a building slot lies nowhere else,
so it is neither among the cards an effect reaches nor the bound target.
`runCalls_buildings` carries this through a chain, and `resolve_framed` collects what
holds of a play.
-/
import LaneDuel.Proofs.Effect.Marks
import LaneDuel.Proofs.Engine.Ledger

namespace LaneDuel

set_option autoImplicit false

/-! ## Framed states -/

/-- What lies in a building slot after a play: what lay there before, but that the acting
card may have made its first attack. -/
def KeepsBuilding (actorId : String) (before after : Option Card) : Prop :=
  after = before ∨ ∃ c, before = some c ∧ c.instanceId = actorId ∧
    after = some { c with firstActionUsed := true }

/-- What a play by a side with a card leaves alone, and what it changes one way only. -/
structure State.Framed (acting : Side) (actorId : String) (s t : State) : Prop where
  signals : s.signals.Advances acting t.signals
  ownCoins : max 0 (s.player acting).coins ≤ (t.player acting).coins
  otherCoins : (t.player acting.opponent).coins = max 0 (s.player acting.opponent).coins
  miracleDeck : t.miracleDeck.length = s.miracleDeck.length
  deck : t.deck.length ≤ s.deck.length
  /-- Slot by slot, and no slot more or less. -/
  buildings : ∀ side,
    List.Forall₂ (KeepsBuilding actorId) (s.player side).buildings (t.player side).buildings
  ids : t.instanceIds.Perm s.instanceIds
  /-- A card after the play is a later form of the card with its id before. -/
  marks : ∀ c ∈ s.cards, ∀ d ∈ t.cards, d.instanceId = c.instanceId →
    (c.immune = true → d.immune = true) ∧ (c.firstActionUsed = true → d.firstActionUsed = true)

/-! ## Buildings stand apart -/

namespace Run.Distinct

variable {ρ : Type} {r : Run ρ}

/-- A card in a building slot lies in no other zone. -/
theorem zone_of_building (distinct : r.Distinct) {o : Origin} {side side' : Side} {zone : Zone}
    (stands : some o ∈ (r.table.player side).buildings)
    (lies : some o ∈ (r.table.player side').zone zone) : zone = .buildings := by
  obtain ⟨index, here⟩ := Table.mem_zone_iff_cardAt.mp
    (show some o ∈ (r.table.player side).zone .buildings from stands)
  obtain ⟨index', there⟩ := Table.mem_zone_iff_cardAt.mp lies
  exact congrArg Slot.zone (Table.cardAt_inj distinct.nodup there here)

/-- No effect reaches a building, unless it is the target. -/
theorem not_reached_of_building (distinct : r.Distinct) {b : Binding} {o : Origin} {side : Side}
    (stands : some o ∈ (r.table.player side).buildings) (spared : b.target ≠ some o) :
    ¬ r.Reached b o := by
  rintro (aimed | ⟨side', zone, other, lies⟩)
  · exact spared aimed
  · exact other (distinct.zone_of_building stands lies)

end Run.Distinct

namespace Engine

variable {ρ : Type}

/-- The target of a play lies on a battlefield, so it is no building. -/
theorem target_ne_building {s : State} (distinct : s.instanceIds.Nodup) (inv : Invocation)
    (source : ρ) {o : Origin} {side : Side}
    (stands : some o ∈ ((begin s inv source).table.player side).buildings) :
    (bind s inv).target ≠ some o := by
  intro aimed
  obtain ⟨t, -, bound⟩ := Option.bind_eq_some_iff.mp aimed
  have begun : (begin s inv source).Distinct := Run.distinct_enter distinct _ _ _
  rw [bindTarget_eq s inv t source, begun.findById_eq_some_iff] at bound
  obtain ⟨-, slot, onField, there⟩ := bound
  have lies : some o ∈ ((begin s inv source).table.player slot.side).zone .battlefield := by
    refine Table.mem_zone_iff_cardAt.mpr ⟨slot.index, ?_⟩
    rw [← List.mem_singleton.mp onField]
    exact there
  exact absurd (begun.zone_of_building stands lies) (by decide)

/-- The card that acts has the id of the card that was played, found or not. -/
theorem actor_instanceId (s : State) (inv : Invocation) (source : ρ) :
    ((begin s inv source).cards (bind s inv).actor).instanceId = inv.card.instanceId := by
  change ((begin s inv source).cards (bindActor s inv.card)).instanceId = _
  rw [bindActor_eq s inv inv.card source]
  cases found : (begin s inv source).findById inv.card.instanceId actorZones with
  | none => rfl
  | some o => exact (Run.findById_eq_some found).1

/-! ## From a run to its states -/

theorem settle_coins (s : State) (side : Side) :
    ((settle s).player side).coins = max 0 (s.player side).coins := by
  cases side <;> rfl

theorem coins_snapshot (r : Run ρ) (side : Side) :
    (r.snapshot.player side).coins = r.table.accounts.coins side := by
  rw [Run.snapshot, Table.player_map]
  rfl

/-- Cards with one id, before and after, are one card of the run. -/
theorem exists_origin_of_id {r r' : Run ρ} (distinct : r.Distinct) (conserved : r.Conserves r')
    {c d : Card} (before : c ∈ r.snapshot.cards) (after : d ∈ r'.snapshot.cards)
    (same : d.instanceId = c.instanceId) : ∃ o, c = r.cards o ∧ d = r'.cards o := by
  simp only [Run.snapshot, Table.cards_map, List.mem_map] at before after
  obtain ⟨o, onTable, rfl⟩ := before
  obtain ⟨o', onTable', rfl⟩ := after
  rw [conserved.instanceId o'] at same
  have one : o' = o :=
    distinct.eq_of_id ((conserved.mem_cards_iff o').mp onTable') onTable same
  exact ⟨o, rfl, by rw [one]⟩

/-- The frame of a run is the frame of the states it leads between. -/
theorem framed_of_run {b : Binding} {r r' : Run ρ} (distinct : r.Distinct)
    (conserved : r.Conserves r')
    (accounts : r.table.accounts.Advances b.player r'.table.accounts)
    (balances : r.Balances r')
    (marks : ∀ o, ((r.cards o).immune = true → (r'.cards o).immune = true) ∧
      ((r.cards o).firstActionUsed = true → (r'.cards o).firstActionUsed = true))
    (buildings : ∀ side o, some o ∈ (r.table.player side).buildings →
      r'.cards o = r.cards o ∨
        o = b.actor ∧ r'.cards o = { r.cards o with firstActionUsed := true }) :
    State.Framed b.player (r.cards b.actor).instanceId r.snapshot (settle r'.snapshot) where
  signals := accounts.signals
  ownCoins := by
    have own := accounts.own
    rw [settle_coins, coins_snapshot, coins_snapshot]
    omega
  otherCoins := by
    rw [settle_coins, coins_snapshot, coins_snapshot, accounts.other]
  miracleDeck := by
    have length := balances.miracleDeck
    simpa [Run.snapshot, Table.map, settle] using length
  deck := by
    have length := balances.deck
    simpa [Run.snapshot, Table.map, settle] using length
  buildings := by
    intro side
    have before : (r.snapshot.player side).buildings
        = (r.table.player side).buildings.map (Option.map r.cards) := by
      rw [Run.snapshot, Table.player_map]
      rfl
    have after : ((settle r'.snapshot).player side).buildings
        = (r.table.player side).buildings.map (Option.map r'.cards) := by
      have stays : ((settle r'.snapshot).player side).buildings
          = (r'.snapshot.player side).buildings := by
        cases side <;> rfl
      rw [stays, Run.snapshot, Table.player_map, ← conserved.table.buildings side]
      rfl
    rw [before, after, List.forall₂_map_left_iff, List.forall₂_map_right_iff, List.forall₂_same]
    intro lane member
    cases lane with
    | none => exact .inl rfl
    | some o =>
        rcases buildings side o member with same | ⟨acting, used⟩
        · exact .inl (congrArg some same)
        · exact .inr ⟨r.cards o, rfl, by rw [acting], congrArg some used⟩
  ids := (conserved.snapshot distinct).ids
  marks := by
    intro c before d after same
    obtain ⟨o, rfl, rfl⟩ := exists_origin_of_id distinct conserved before after same
    exact marks o

/-! ## Chains -/

variable [RandomSource ρ]

theorem runCalls_advances (library : Library) (cardId : Int) (b : Binding) (index : Nat)
    (calls : List Call) (r : Run ρ) :
    r.table.accounts.Advances b.player
      (runCalls library cardId b index calls r).table.accounts := by
  refine runCalls_invariant (P := fun r' => r.table.accounts.Advances b.player r'.table.accounts)
    (fun _ _ => id) (fun _ _ _ => id) ?_ index calls (.refl _ _)
  intro r' a h
  exact h.trans (a.perform_advances b r')

theorem runCalls_marks (library : Library) (cardId : Int) (b : Binding) (index : Nat)
    (calls : List Call) (r : Run ρ) (o : Origin) :
    ((r.cards o).immune = true →
        ((runCalls library cardId b index calls r).cards o).immune = true) ∧
      ((r.cards o).firstActionUsed = true →
        ((runCalls library cardId b index calls r).cards o).firstActionUsed = true) := by
  refine runCalls_invariant (P := fun r' => ((r.cards o).immune = true →
      (r'.cards o).immune = true) ∧ ((r.cards o).firstActionUsed = true →
      (r'.cards o).firstActionUsed = true))
    (fun _ _ => id) (fun _ _ _ => id) ?_ index calls ⟨id, id⟩
  rintro r' a ⟨immune, used⟩
  refine ⟨fun before => Atom.perform_immune b r' a o (immune before), fun before => ?_⟩
  rw [Atom.perform_firstActionUsed, used before, Bool.true_or]

section Lawful

variable [LawfulRandomSource ρ]

/-- A building is left as it was by every chain, but for its own first attack. -/
theorem runCalls_buildings (library : Library) (cardId : Int) {b : Binding} (index : Nat)
    (calls : List Call) {r : Run ρ} (distinct : r.Distinct) {o : Origin} {side : Side}
    (stands : some o ∈ (r.table.player side).buildings) (spared : b.target ≠ some o) :
    let r' := runCalls library cardId b index calls r
    r'.cards o = r.cards o ∨
      o = b.actor ∧ r'.cards o = { r.cards o with firstActionUsed := true } := by
  refine (runCalls_invariant (P := fun r' => r.Conserves r' ∧ (r'.cards o = r.cards o ∨
      o = b.actor ∧ r'.cards o = { r.cards o with firstActionUsed := true }))
    (fun _ _ h => ⟨h.1.trans (Run.tell_conserves _ _), h.2⟩)
    (fun _ _ _ h => ⟨h.1.trans (Run.tell_conserves _ _), h.2⟩) ?_ index calls
    ⟨.refl r, .inl rfl⟩).2
  rintro r' a ⟨conserved, kept⟩
  have distinct' : r'.Distinct := conserved.distinct distinct
  have stands' : some o ∈ (r'.table.player side).buildings := by
    rw [conserved.table.buildings]
    exact stands
  refine ⟨conserved.trans (Atom.perform_conserves distinct' b a), ?_⟩
  rcases Atom.perform_touches b r' a o with marked | ⟨reached, -⟩
  · rw [marked, Atom.mark]
    split
    · rename_i attack
      refine .inr ⟨attack.1, ?_⟩
      rcases kept with same | ⟨-, used⟩
      · rw [same]
      · rw [used]
    · exact kept
  · exact absurd reached (distinct'.not_reached_of_building stands' spared)

/-- **What a play leaves alone, and what it changes one way only.**  Whatever an entry
makes of a state with distinct ids, by whom and on what, the outcome is framed by the state:
also where the selected card's copy on the board is changed, where the acting card stands in
a building slot, and where a redraw puts cards into the decks. -/
theorem resolve_framed (e : Engine) (cardId : Int) (inv : Invocation) {s : State}
    (distinct : s.instanceIds.Nodup) (source : ρ)
    (applied : (e.resolve cardId inv s source).resolution.status = .applied) :
    State.Framed inv.player inv.card.instanceId s
      (e.resolve cardId inv s source).resolution.state := by
  obtain ⟨entry, -, ended⟩ := resolve_of_applied applied
  rw [ended]
  have begun : (begin s inv source).Distinct := Run.distinct_enter distinct _ _ _
  have framed := framed_of_run (b := bind s inv) begun
    (chain_conserves e.library cardId inv distinct source entry.effects)
    (runCalls_advances e.library cardId (bind s inv) 0 entry.effects _)
    (runCalls_balances e.library cardId (bind s inv) 0 entry.effects _)
    (runCalls_marks e.library cardId (bind s inv) 0 entry.effects _)
    (fun side o stands => runCalls_buildings e.library cardId 0 entry.effects begun stands
      (target_ne_building distinct inv source stands))
  have entered : (begin s inv source).snapshot = s := Run.snapshot_enter s _ _ _
  rw [actor_instanceId, entered] at framed
  exact framed

end Lawful

end Engine

namespace Example

/-- Red's tower makes its first attack, earns a coin, ends the turn and shuffles red's hand
back: the tower stands where it stood. -/
theorem tower_framed :
    let tower : Invocation := ⟨.red, card "tower" .support, none⟩
    let attack := (engine [.known (.freezeOnFirstAttack 2), .known (.gainCoins 1 none),
      .known .skipTurn, .known .discardAndRedraw]).resolve 1 tower duel (Lcg.ofSeed 7)
    duel.instanceIds.Nodup ∧ attack.resolution.status = .applied ∧
      State.Framed .red "tower" duel attack.resolution.state := by
  intro tower attack
  have distinct : duel.instanceIds.Nodup := by decide
  have applied : attack.resolution.status = .applied := by decide
  exact ⟨distinct, applied, Engine.resolve_framed _ 1 tower distinct (Lcg.ofSeed 7) applied⟩

end Example

end LaneDuel
