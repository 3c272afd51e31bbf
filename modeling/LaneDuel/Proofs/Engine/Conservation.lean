/-
# LaneDuel.Proofs.Engine.Conservation -- playing cards conserves them

Whatever is played, by whom, on what and with what luck: the cards of a state
stay the cards of the game.  `State.Conserved s t` says that `t` holds the
instance ids of `s`, each once, every id with the same lasting card, and that the
boards keep their shape.

* `runCalls_invariant`: what no call breaks, no chain of calls breaks.
* `runCalls_conserves`: a chain of calls conserves the cards of its run.
* `resolve_conserves`: so does playing a card.
* `series_conserved`: so does any series of plays, each on the state that the
  play before it left.
-/
import LaneDuel.Engine.Basic
import LaneDuel.Proofs.Effect.Moves

namespace LaneDuel

set_option autoImplicit false

/-! ## Conserved states -/

/-- The cards of one state are those of another, and the boards have its shape. -/
structure State.Conserved (s t : State) : Prop where
  ids : t.instanceIds.Perm s.instanceIds
  once : t.instanceIds.Nodup
  /-- Number, name, kind, rarity, races, cost, text and the use of its ability
  stay with an instance id. -/
  lasting : ∀ c ∈ s.cards, ∀ d ∈ t.cards, d.instanceId = c.instanceId → d.lasting = c.lasting
  buildings : ∀ side, (t.player side).buildings.length = (s.player side).buildings.length
  /-- The battlefields keep their lengths, or have exchanged them. -/
  lanes : (∀ side, (t.player side).battlefield.length = (s.player side).battlefield.length) ∨
    ∀ side, (t.player side).battlefield.length = (s.player side.opponent).battlefield.length

namespace State.Conserved

variable {s t u : State}

theorem refl (distinct : s.instanceIds.Nodup) : State.Conserved s s where
  ids := List.Perm.refl _
  once := distinct
  lasting c hc d hd same := by
    rw [List.inj_on_of_nodup_map distinct hd hc same]
  buildings _ := rfl
  lanes := Or.inl fun _ => rfl

theorem trans (h : State.Conserved s t) (h' : State.Conserved t u) : State.Conserved s u where
  ids := h'.ids.trans h.ids
  once := h'.once
  lasting c hc d hd same := by
    -- the id passes through the state in between
    have there : d.instanceId ∈ t.instanceIds :=
      h'.ids.mem_iff.mp (List.mem_map_of_mem hd)
    obtain ⟨m, hm, between⟩ := List.mem_map.mp there
    exact (h'.lasting m hm d hd between.symm).trans (h.lasting c hc m hm (between.trans same))
  buildings side := (h'.buildings side).trans (h.buildings side)
  lanes := by
    rcases h.lanes with kept | crossed
    · rcases h'.lanes with kept' | crossed'
      · exact Or.inl fun side => (kept' side).trans (kept side)
      · exact Or.inr fun side => (crossed' side).trans (kept side.opponent)
    · rcases h'.lanes with kept' | crossed'
      · exact Or.inr fun side => (kept' side).trans (crossed side)
      · refine Or.inl fun side => (crossed' side).trans ?_
        rw [crossed, Side.opponent_opponent]

end State.Conserved

/-- What conserves a run conserves the states it has reached. -/
theorem Run.Conserves.snapshot {ρ : Type} {r r' : Run ρ} (h : r.Conserves r')
    (distinct : r.Distinct) : State.Conserved r.snapshot r'.snapshot where
  ids := by
    simp only [State.instanceIds, Run.snapshot, Table.cards_map, List.map_map]
    exact h.ids
  once := (Run.distinct_iff r').mp (h.distinct distinct)
  lasting := by
    intro c hc d hd same
    simp only [Run.snapshot, Table.cards_map, List.mem_map] at hc hd
    obtain ⟨o, onTable, rfl⟩ := hc
    obtain ⟨o', onTable', rfl⟩ := hd
    rw [h.instanceId o'] at same
    rw [distinct.eq_of_id ((h.mem_cards_iff o').mp onTable') onTable same]
    exact h.lasting o
  buildings side := by
    simp only [Run.snapshot, Table.player_map, Player.map, List.length_map]
    exact congrArg List.length (h.table.buildings side)
  lanes := by
    simp only [Run.snapshot, Table.player_map, Player.map, List.length_map]
    exact h.table.lanes

namespace Engine

variable {ρ : Type} [RandomSource ρ]

/-- What holds of a run when its calls begin holds when they have run, if neither the
reports of the calls nor the atoms break it. -/
theorem runCalls_invariant {P : Run ρ → Prop} {library : Library} {cardId : Int} {b : Binding}
    (skipped : ∀ r name, P r → P (r.tell [.notice (.unknownAtom name)]))
    (stepped : ∀ r index name, P r → P (r.tell [.trace (.step cardId index name)]))
    (performed : ∀ (r : Run ρ) (a : Atom), P r → P (a.perform b r)) (index : Nat)
    (calls : List Call) {r : Run ρ} (begun : P r) :
    P (runCalls library cardId b index calls r) := by
  induction calls generalizing index r with
  | nil => exact begun
  | cons call calls ih =>
      rw [runCalls]
      split
      · exact ih _ (skipped r call.name begun)
      · exact ih _ (performed _ _ (stepped r index call.name begun))

section Lawful

variable [LawfulRandomSource ρ]

theorem runCalls_conserves (library : Library) (cardId : Int) (b : Binding) (index : Nat)
    (calls : List Call) {r : Run ρ} (distinct : r.Distinct) :
    r.Conserves (runCalls library cardId b index calls r) := by
  refine runCalls_invariant (P := r.Conserves) (fun r' _ h => h.trans (r'.tell_conserves _))
    (fun r' _ _ h => h.trans (r'.tell_conserves _)) ?_ index calls (.refl r)
  intro r' a h
  exact h.trans (Atom.perform_conserves (h.distinct distinct) b a)

/-- Settling touches health and coins only. -/
theorem settle_conserved {s : State} (distinct : s.instanceIds.Nodup) :
    State.Conserved s (settle s) where
  ids := List.Perm.refl _
  once := distinct
  lasting := (State.Conserved.refl distinct).lasting
  buildings side := by cases side <;> rfl
  lanes := Or.inl fun side => by cases side <;> rfl

theorem resolve_conserves (e : Engine) (cardId : Int) (inv : Invocation) {s : State}
    (distinct : s.instanceIds.Nodup) (source : ρ) :
    State.Conserved s (e.resolve cardId inv s source).resolution.state := by
  have stays : State.Conserved s s := .refl distinct
  unfold resolve
  split
  · exact stays
  · rename_i entry found
    split
    · exact stays
    · split
      · exact stays
      · split
        · exact stays
        · have begun : (begin s inv source).Distinct := Run.distinct_enter distinct _ _ _
          have chain := (runCalls_conserves e.library cardId (bind s inv) 0 entry.effects
            begun).snapshot begun
          have entered : (begin s inv source).snapshot = s := Run.snapshot_enter s _ _ _
          rw [entered] at chain
          exact chain.trans (settle_conserved chain.once)

end Lawful

end Engine

/-! ## Series of plays -/

/-- One card played: with which engine, by whom and on what, and with what luck.  The
source may be what an earlier play left, or any other. -/
structure Play (ρ : Type) where
  engine : Engine
  cardId : Int
  invocation : Invocation
  source : ρ

namespace Play

variable {ρ : Type} [RandomSource ρ]

/-- The state after a play. -/
def next (s : State) (p : Play ρ) : State :=
  (p.engine.resolve p.cardId p.invocation s p.source).resolution.state

/-- The state after some plays, each on the state that the one before it left. -/
def series (plays : List (Play ρ)) (s : State) : State := plays.foldl next s

/-- **No series of plays loses, doubles or rewrites a card.** -/
theorem series_conserved [LawfulRandomSource ρ] (plays : List (Play ρ)) {s : State}
    (distinct : s.instanceIds.Nodup) : State.Conserved s (series plays s) := by
  induction plays generalizing s with
  | nil => exact .refl distinct
  | cons p plays ih =>
      have first : State.Conserved s (next s p) :=
        p.engine.resolve_conserves p.cardId p.invocation distinct p.source
      exact first.trans (ih first.once)

end Play

/-! ## A small duel -/

namespace Example

/-- A plain card that is called by its instance id. -/
def card (id : String) (kind : Kind) : Card where
  cardId := 1
  instanceId := id
  name := id
  kind := kind
  rarity := ""
  primaryRace := ""
  secondaryRace := ""
  atk := 2
  hp := 3
  maxHp := 3
  cost := .int 1
  effect := ""
  frozen := 0
  immune := false
  abilityUsed := false
  firstActionUsed := false

/-- Two lanes a side, and cards in every kind of place. -/
def duel : State where
  red := ⟨30, 0, [some (card "knight" .battlefield), none], [some (card "tower" .support), none],
    [card "squire" .battlefield, card "omen" .miracle]⟩
  blue := ⟨30, 0, [none, some (card "ogre" .battlefield)], [none, none],
    [card "goblin" .battlefield]⟩
  deck := [card "archer" .battlefield]
  miracleDeck := [card "comet" .miracle]
  discardPile := [card "ghost" .battlefield]
  signals := ⟨1, "main", none, false, none⟩

/-- The entry of a card with some effects and nothing else. -/
def entry (effects : List Call) : CardEffect :=
  ⟨"omen", .miracle, .onPlay, false, none, false, none, "", none, effects⟩

/-- An engine for one card, number 1. -/
def engine (effects : List Call) : Engine := ⟨⟨[(1, entry effects)]⟩, .standard⟩

/-- Every card of a scope on the battlefields. -/
def onField (scope : Scope) : TargetFilter := ⟨none, some scope, .battlefield, none, none, none⟩

/-- The selected card alone. -/
def selected : TargetFilter := ⟨some .selected, none, .battlefield, none, none, none⟩

/-- Red kills what stands against it, takes it back, redraws, and all is exchanged;
then blue does the same. -/
def plays : List (Play Lcg) :=
  let upheaval := engine [.known (.killCard (onField .opponent)), .known (.drawFromDiscard 2),
    .known .discardAndRedraw, .known (.swapRandomHands 2), .known .swapBattlefields]
  [⟨upheaval, 1, ⟨.red, card "omen" .miracle, none⟩, .ofSeed 7⟩,
    ⟨upheaval, 1, ⟨.blue, card "goblin" .battlefield, none⟩, .ofSeed 8⟩]

theorem duel_conserved :
    duel.instanceIds.Nodup ∧ State.Conserved duel (Play.series plays duel) :=
  have distinct : duel.instanceIds.Nodup := by decide
  ⟨distinct, Play.series_conserved plays distinct⟩

end Example

end LaneDuel
