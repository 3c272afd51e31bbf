/-
# LaneDuel.Proofs.Atom.Exchange -- hands trade what chance picks

An exchange of hands takes cards out by their instance ids and puts them at the end of the
other hand.  Where no id repeats within a hand, that is a trade of the picked cards
(`State.Traded`): each hand keeps its other cards in their old order, the two hands hold
together what they held, and nothing else changes.  Between the hands ids may repeat, and
the acting card may lie in either of them or in none.

The acting card is set aside before chance picks, and its id with it: no card with that id
is given away.  The log tells how many cards came and went, or, where none did, that alone
(`Atom.hands_traded`).
-/
import LaneDuel.Proofs.Engine.Chain

namespace LaneDuel

set_option autoImplicit false

/-! ## Trades -/

/-- A table with the hands of another one. -/
def Table.withHands {ν σ α : Type} (t u : Table ν σ α) : Table ν σ α :=
  { t with red.hand := u.red.hand, blue.hand := u.blue.hand }

@[simp] theorem Table.player_withHands {ν σ α : Type} (t u : Table ν σ α) (s : Side) :
    (t.withHands u).player s = { t.player s with hand := (u.player s).hand } := by cases s <;> rfl

/-- A side gives some cards of its hand for some of the other hand. -/
structure State.Traded (acting : Side) (given taken : List Card) (s t : State) : Prop where
  own : (t.player acting).hand = (s.player acting).hand.filter (· ∉ given) ++ taken
  others : (t.player acting.opponent).hand
    = (s.player acting.opponent).hand.filter (· ∉ taken) ++ given
  cards : ((t.player acting).hand ++ (t.player acting.opponent).hand).Perm
    ((s.player acting).hand ++ (s.player acting.opponent).hand)
  frame : t = Table.withHands s t

/-- The cards that a hand without repetition gives up are what it lacks afterwards. -/
theorem perm_of_given {hand gone : List Card} (distinct : hand.Nodup) (sub : gone.Subperm hand) :
    (hand.filter (· ∉ gone) ++ gone).Perm hand := by
  obtain ⟨l, same, sublist⟩ := sub
  have once : gone.Nodup := same.nodup_iff.mp (sublist.nodup distinct)
  have inside : ∀ c ∈ gone, c ∈ hand :=
    fun c member => sublist.subset (same.mem_iff.mpr member)
  simpa only [decide_not] using Effect.filter_not_mem_append_perm distinct inside once

/-! ## Hands without the cards that are given up -/

namespace Effect

variable {ρ : Type}

/-- Within a hand in which no id repeats, cards leave as themselves. -/
theorem without_map {cards : Origin → Card} {gone hand : List Origin}
    (ids : (hand.map fun o => (cards o).instanceId).Nodup) (sub : ∀ o ∈ gone, o ∈ hand) :
    (without cards gone hand).map cards = (hand.map cards).filter (· ∉ gone.map cards) := by
  rw [without, List.filter_map]
  congr 1
  apply List.filter_congr
  intro o held
  rw [Function.comp_apply, Bool.eq_iff_iff, Bool.not_eq_true', ← Bool.not_eq_true,
    List.contains_iff_mem, decide_eq_true_iff, List.mem_map, List.mem_map]
  constructor
  · rintro other ⟨g, given, same⟩
    exact other ⟨g, given, congrArg Card.instanceId same⟩
  · rintro other ⟨g, given, same⟩
    have one : g = o := List.inj_on_of_nodup_map ids (sub g given) held same
    exact other ⟨g, given, congrArg cards one⟩

theorem without_nil (cards : Origin → Card) (hand : List Origin) :
    without cards [] hand = hand := by
  simp [without]

/-- Giving nothing for nothing changes nothing, so an exchange is always a trade of hands. -/
theorem exchange_table (given taken : List Origin) (b : Binding) (r : Run ρ) :
    (exchange given taken b r).table
      = (r.table.modifyPlayer b.player (tradeHand r.cards given taken)).modifyPlayer b.opponent
          (tradeHand r.cards taken given) := by
  unfold exchange
  split
  · rename_i none_
    rw [Bool.and_eq_true, List.isEmpty_iff, List.isEmpty_iff] at none_
    obtain ⟨rfl, rfl⟩ := none_
    have still : ∀ p : Player Int Origin, tradeHand r.cards [] [] p = p := by
      intro p
      rw [tradeHand, without_nil, List.append_nil]
    rw [Table.modifyPlayer_eq_self (still _), Table.modifyPlayer_eq_self (still _)]
    rfl
  · rfl

theorem exchange_cards (given taken : List Origin) (b : Binding) (r : Run ρ) :
    (exchange given taken b r).cards = r.cards := by
  unfold exchange
  split <;> rfl

theorem exchange_notice (given taken : List Origin) (b : Binding) (r : Run ρ) :
    (exchange given taken b r).log = r.log ++ [.notice
      (if given.length = 0 ∧ taken.length = 0 then .handsSwapEmpty
        else .handsSwapped given.length taken.length)] := by
  by_cases none_ : given.length = 0 ∧ taken.length = 0
  · have empty : (given.isEmpty && taken.isEmpty) = true := by
      simpa [List.isEmpty_iff] using none_
    rw [if_pos none_, exchange, if_pos empty]
    rfl
  · have some_ : ¬ (given.isEmpty && taken.isEmpty) = true := by
      simpa [List.isEmpty_iff] using none_
    rw [if_neg none_, exchange, if_neg some_]
    rfl

/-- An exchange of cards that lie in the hands is a trade. -/
theorem exchange_traded (b : Binding) {r : Run ρ}
    (ids : ∀ s, ((r.table.player s).hand.map fun o => (r.cards o).instanceId).Nodup)
    {given taken : List Origin} (own : given.Subperm (r.table.player b.player).hand)
    (others : taken.Subperm (r.table.player b.player.opponent).hand) :
    State.Traded b.player (given.map r.cards) (taken.map r.cards) r.snapshot
      (exchange given taken b r).snapshot := by
  have distinct : ∀ s, ((r.table.player s).hand.map r.cards).Nodup := by
    intro s
    refine List.Nodup.of_map Card.instanceId ?_
    rw [List.map_map]
    exact ids s
  have leaves : ∀ s (gone : List Origin), gone.Subperm (r.table.player s).hand →
      (((r.table.player s).hand.map r.cards).filter (· ∉ gone.map r.cards)
        ++ gone.map r.cards).Perm ((r.table.player s).hand.map r.cards) := by
    rintro s gone ⟨l, same, sublist⟩
    exact perm_of_given (distinct s) ⟨l.map r.cards, same.map r.cards, sublist.map r.cards⟩
  have ownHand : ((exchange given taken b r).snapshot.player b.player).hand
      = ((r.table.player b.player).hand.map r.cards).filter (· ∉ given.map r.cards)
          ++ taken.map r.cards := by
    rw [← without_map (ids b.player) own.subset, ← List.map_append, Run.hand_snapshot,
      exchange_cards, exchange_table]
    simp [tradeHand]
  have othersHand : ((exchange given taken b r).snapshot.player b.player.opponent).hand
      = ((r.table.player b.player.opponent).hand.map r.cards).filter (· ∉ taken.map r.cards)
          ++ given.map r.cards := by
    rw [← without_map (ids b.player.opponent) others.subset, ← List.map_append,
      Run.hand_snapshot, exchange_cards, exchange_table]
    simp [tradeHand]
  refine ⟨?_, ?_, ?_, ?_⟩
  · rw [ownHand, Run.hand_snapshot]
  · rw [othersHand, Run.hand_snapshot]
  · rw [ownHand, othersHand, Run.hand_snapshot, Run.hand_snapshot, List.perm_iff_count]
    intro c
    have ownCount := (leaves b.player given own).count_eq c
    have othersCount := (leaves b.player.opponent taken others).count_eq c
    rw [List.count_append] at ownCount othersCount
    simp only [List.count_append]
    omega
  · refine Table.ext_players ?_ ?_ ?_ ?_ ?_
    · rw [Side.forall_iff b.player, Run.snapshot, exchange_cards, exchange_table]
      simp [Run.snapshot, Player.map, tradeHand]
    all_goals
      rw [Run.snapshot, exchange_cards, exchange_table]
      simp [Run.snapshot, Table.map, Table.withHands]

/-- Every card of the acting player's hand but those with the acting card's id. -/
theorem eligible_map (b : Binding) (r : Run ρ) :
    (eligible b r).map r.cards = ((r.snapshot.player b.player).hand.filter fun c =>
      c.instanceId != (r.cards b.actor).instanceId) := by
  rw [Run.hand_snapshot, List.filter_map]
  rfl

/-- Picking cards out of the hands is picking their names: an exchange of hands exchanges
names that are read as the picked cards. -/
theorem swapHands_picks [RandomSource ρ] [LawfulRandomSource ρ] (amount : Nat) (b : Binding)
    (r : Run ρ) :
    let givable := (r.snapshot.player b.player).hand.filter fun c =>
      c.instanceId != (r.cards b.actor).instanceId
    let others := (r.snapshot.player b.player.opponent).hand
    let given := pick givable (min amount givable.length) r.source
    let taken := pick others (min amount others.length) given.2
    ∃ names names' : List Origin,
      given.1 = names.map r.cards ∧ taken.1 = names'.map r.cards ∧
      names.Subperm (r.table.player b.player).hand ∧
      names'.Subperm (r.table.player b.player.opponent).hand ∧
      swapHands amount b r = exchange names names' b { r with source := taken.2 } := by
  intro givable others given taken
  have givableRead : givable = (eligible b r).map r.cards := (eligible_map b r).symm
  have othersRead : others = (r.player b.opponent).hand.map r.cards :=
    r.hand_snapshot b.player.opponent
  let names := pick (eligible b r) (min amount (eligible b r).length) r.source
  let names' := pick (r.player b.opponent).hand (min amount (r.player b.opponent).hand.length)
    names.2
  have first : given = (names.1.map r.cards, names.2) := by
    simp only [given, names, givableRead, pick_map, List.length_map]
  have second : taken = (names'.1.map r.cards, names'.2) := by
    simp only [taken, names', first, othersRead, pick_map, List.length_map]
  have own : names.1.Subperm (eligible b r) := pick_subperm (Nat.min_le_right _ _) _
  refine ⟨names.1, names'.1, congrArg Prod.fst first, congrArg Prod.fst second,
    own.trans List.filter_sublist.subperm, pick_subperm (Nat.min_le_right _ _) _, ?_⟩
  rw [second]
  rfl

end Effect

/-- **Hands trade what chance picks.**  Where no id repeats within a hand, up to so many cards
are picked out of each hand, the acting card set aside, and the picked ones change hands.
The acting card stays where it lies in the own hand, the cards that are not picked keep
their order, and where nothing can be picked the log says so and no more. -/
theorem Atom.hands_traded {ρ : Type} [RandomSource ρ] [LawfulRandomSource ρ] (b : Binding)
    {r : Run ρ} (amount : Nat)
    (distinct : ∀ s, ((r.snapshot.player s).hand.map (·.instanceId)).Nodup) :
    let own := (r.snapshot.player b.player).hand
    let others := (r.snapshot.player b.player.opponent).hand
    let actorId := (r.cards b.actor).instanceId
    let givable := own.filter (·.instanceId != actorId)
    let g := min amount givable.length
    let h := min amount others.length
    let given := (pick givable g r.source).1
    let taken := (pick others h (pick givable g r.source).2).1
    let after := (Atom.swapRandomHands amount).perform b r
    (given.Subperm givable ∧ given.length = g) ∧ (taken.Subperm others ∧ taken.length = h) ∧
      State.Traded b.player given taken r.snapshot after.snapshot ∧
      (∀ c ∈ own, c.instanceId = actorId → c ∈ (after.snapshot.player b.player).hand) ∧
      after.log = r.log ++ [.notice
        (if g = 0 ∧ h = 0 then .handsSwapEmpty else .handsSwapped g h)] := by
  intro own others actorId givable g h given taken after
  have givenSub : given.Subperm givable := pick_subperm (Nat.min_le_right _ _) _
  have givenCount : given.length = g := length_pick (Nat.min_le_right _ _) _
  have takenSub : taken.Subperm others := pick_subperm (Nat.min_le_right _ _) _
  have takenCount : taken.length = h := length_pick (Nat.min_le_right _ _) _
  obtain ⟨names, names', givenRead, takenRead, inOwn, inOthers, performed⟩ :=
    Effect.swapHands_picks amount b r
  have ids : ∀ s, ((r.table.player s).hand.map fun o => (r.cards o).instanceId).Nodup := by
    intro s
    have once := distinct s
    rw [Run.hand_snapshot, List.map_map] at once
    exact once
  have traded : State.Traded b.player given taken r.snapshot after.snapshot := by
    have trade := Effect.exchange_traded b
      (r := { r with source := (pick others h (pick givable g r.source).2).2 }) ids inOwn inOthers
    rw [← givenRead, ← takenRead, ← performed] at trade
    exact trade
  refine ⟨⟨givenSub, givenCount⟩, ⟨takenSub, takenCount⟩, traded, ?_, ?_⟩
  · intro c held acting
    have kept : c ∉ given := by
      intro gone
      have apart := (List.mem_filter.mp (givenSub.subset gone)).2
      simp [acting] at apart
    rw [traded.own]
    exact List.mem_append_left _ (List.mem_filter.mpr ⟨held, by simpa using kept⟩)
  · have own : names.length = g := by
      rw [← givenCount, ← List.length_map r.cards, ← givenRead]
    have other : names'.length = h := by
      rw [← takenCount, ← List.length_map r.cards, ← takenRead]
    change (Effect.swapHands amount b r).log = _
    rw [performed, Effect.exchange_notice, own, other]

namespace Example

open Engine

/-- Red plays the omen out of its hand and trades up to two cards: the omen stays, and what
both hands held, they hold. -/
theorem omen_kept :
    let omen : Invocation := ⟨.red, card "omen" .miracle, none⟩
    let r := begin duel omen (Lcg.ofSeed 7)
    let after := ((Atom.swapRandomHands 2).perform (bind duel omen) r).snapshot
    (∀ s, ((r.snapshot.player s).hand.map (·.instanceId)).Nodup) ∧
      card "omen" .miracle ∈ (after.player .red).hand ∧
      ((after.player .red).hand ++ (after.player .blue).hand).Perm
        (duel.red.hand ++ duel.blue.hand) := by
  intro omen r after
  have begun : r.snapshot = duel := Run.snapshot_enter duel _ _ _
  have distinct : ∀ s, ((r.snapshot.player s).hand.map (·.instanceId)).Nodup := by
    rw [begun]
    intro s
    cases s <;> decide
  obtain ⟨-, -, traded, stays, -⟩ := Atom.hands_traded (bind duel omen) 2 distinct
  have cards := traded.cards
  rw [begun] at stays cards
  exact ⟨distinct, stays (card "omen" .miracle) (by decide) (by decide), cards⟩

end Example

end LaneDuel
