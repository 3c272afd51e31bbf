/-
# LaneDuel.Proofs.Engine.Limits -- numbers stay well formed through every play

From what one atom does to a run follows what a chain, a play and a series of plays
do: no card passes its upper limit or has negative frost, and players end an applied
play with neither negative health nor negative coins (`series_within_limits`).  Only
the hell lord's bonus lowers an upper limit, and only by its loss.

A chain begins with lanes without repetition and never brings a card back onto
them, so the hell lord reaches every card of the field once.
-/
import LaneDuel.Proofs.Effect.Limits
import LaneDuel.Proofs.Engine.Stops

namespace LaneDuel

set_option autoImplicit false

/-! ## The beginning of a run -/

namespace Table

variable {ν σ α : Type}

/-- A run begins with lanes without repetition. -/
theorem fieldCards_origins_nodup (t : Table ν σ α) :
    ((origins t).fieldCards Side.both).Nodup :=
  (fieldCards_both_sublist (origins t)).nodup (origins_nodup t)

end Table

/-- Every card of the state is within its limits. -/
def State.WithinLimits (s : State) : Prop := ∀ c ∈ s.cards, c.WithinLimits

instance (s : State) : Decidable s.WithinLimits :=
  inferInstanceAs (Decidable (∀ c ∈ s.cards, c.WithinLimits))

namespace Run

variable {ρ : Type}

theorem snapshot_within_iff (r : Run ρ) :
    State.WithinLimits r.snapshot ↔ ∀ o ∈ r.table.cards, (r.cards o).WithinLimits := by
  simp only [State.WithinLimits, snapshot, Table.cards_map, List.mem_map, forall_exists_index,
    and_imp, forall_apply_eq_imp_iff₂]

end Run

namespace Engine

variable {ρ : Type} [RandomSource ρ]

/-! ## Chains -/

theorem runCalls_shrinks (library : Library) (cardId : Int) (b : Binding) (index : Nat)
    (calls : List Call) (r : Run ρ) :
    r.table.Shrinks (runCalls library cardId b index calls r).table := by
  refine runCalls_invariant (P := fun r' => r.table.Shrinks r'.table) (fun _ _ => id)
    (fun _ _ _ => id) ?_ index calls (.refl _)
  intro r' a h
  exact h.trans (Atom.perform_shrinks b r' a)

theorem runCalls_within (library : Library) (cardId : Int) (b : Binding) (index : Nat)
    (calls : List Call) (r : Run ρ) {o : Origin} (within : (r.cards o).WithinLimits) :
    ((runCalls library cardId b index calls r).cards o).WithinLimits := by
  refine runCalls_invariant (P := fun r' => (r'.cards o).WithinLimits) (fun _ _ => id)
    (fun _ _ _ => id) ?_ index calls within
  intro r' a h
  exact Atom.perform_within b r' a h

theorem chain_within (library : Library) (cardId : Int) (inv : Invocation) {s : State}
    (within : s.WithinLimits) (source : ρ) (calls : List Call) :
    State.WithinLimits (chain library cardId inv s source calls).snapshot := by
  have begun : ∀ o ∈ (begin s inv source).table.cards,
      ((begin s inv source).cards o).WithinLimits := by
    rw [← Run.snapshot_within_iff, begin, Run.snapshot_enter]
    exact within
  rw [Run.snapshot_within_iff]
  intro o onTable
  have shrunk := runCalls_shrinks library cardId (bind s inv) 0 calls (begin s inv source)
  exact runCalls_within library cardId _ 0 calls _ (begun o (shrunk.cards o onTable))

/-- The lanes never show a card twice while a chain runs. -/
theorem chain_field_nodup (library : Library) (cardId : Int) (inv : Invocation) (s : State)
    (source : ρ) (calls : List Call) :
    ((chain library cardId inv s source calls).table.fieldCards Side.both).Nodup := by
  obtain ⟨l, same, sub⟩ :=
    (runCalls_shrinks library cardId (bind s inv) 0 calls (begin s inv source)).field
  exact same.nodup_iff.mp (sub.nodup (Table.fieldCards_origins_nodup s))

/-- **Only the hell lord's bonus lowers upper limits**, by 3, of what it weakens. -/
theorem chain_maxHp (library : Library) (cardId : Int) (inv : Invocation) (s : State)
    (source : ρ) (calls : List Call) {a : Atom} (known : library.has a.kind = true) :
    let before := chain library cardId inv s source calls
    let after := chain library cardId inv s source (calls ++ [.known a])
    (a ≠ .hellLordBonus → ∀ o, (before.cards o).maxHp ≤ (after.cards o).maxHp) ∧
      (a = .hellLordBonus → ∀ o,
        (Effect.Weakened (bind s inv) before o →
          (after.cards o).maxHp = (before.cards o).maxHp - 3) ∧
        (¬ Effect.Weakened (bind s inv) before o →
          (before.cards o).maxHp ≤ (after.cards o).maxHp)) := by
  intro before after
  obtain ⟨name, step⟩ := chain_snoc library cardId inv s source calls known
  have performed : after = a.perform (bind s inv)
      (before.tell [.trace (.step cardId calls.length name)]) := step
  rw [performed]
  refine ⟨fun other o => ?_, fun lord o => ?_⟩
  · exact (Atom.perform_upholds (bind s inv) (before.tell _) other o).maxHp
  · subst lord
    have once : (before.table.fieldCards Side.both).Nodup :=
      chain_field_nodup library cardId inv s source calls
    have told := Effect.hellLord_maxHp (bind s inv)
      (r := before.tell [.trace (.step cardId calls.length name)]) once o
    -- telling of the step does not change what is weakened
    exact ⟨fun h => told.1 ⟨h.onField, h.monster, h.common⟩,
      fun h => told.2 fun h' => h ⟨h'.onField, h'.monster, h'.common⟩⟩

/-! ## Plays -/

theorem resolve_within (e : Engine) (cardId : Int) (inv : Invocation) {s : State}
    (within : s.WithinLimits) (source : ρ) :
    State.WithinLimits (e.resolve cardId inv s source).resolution.state := by
  obtain ⟨status, events, -, left⟩ | ⟨entry, -, ended⟩ := e.resolve_cases cardId inv s source
  · rw [left]
    exact within
  · rw [ended]
    exact chain_within e.library cardId inv within source entry.effects

theorem settle_nonneg (s : State) (side : Side) :
    0 ≤ ((settle s).player side).health ∧ 0 ≤ ((settle s).player side).coins := by
  cases side <;> exact ⟨Int.le_max_left _ _, Int.le_max_left _ _⟩

theorem resolve_nonneg (e : Engine) (cardId : Int) (inv : Invocation) (s : State) (source : ρ)
    (applied : (e.resolve cardId inv s source).resolution.status = .applied) (side : Side) :
    0 ≤ ((e.resolve cardId inv s source).resolution.state.player side).health ∧
      0 ≤ ((e.resolve cardId inv s source).resolution.state.player side).coins := by
  obtain ⟨status, events, stopped, left⟩ | ⟨entry, -, ended⟩ := e.resolve_cases cardId inv s source
  · rw [left] at applied
    exact absurd applied stopped
  · rw [ended]
    exact settle_nonneg _ side

end Engine

/-! ## Series of plays -/

namespace Play

open Engine

variable {ρ : Type} [RandomSource ρ]

theorem series_within (plays : List (Play ρ)) {s : State} (within : s.WithinLimits) :
    (series plays s).WithinLimits := by
  induction plays generalizing s with
  | nil => exact within
  | cons p plays ih =>
      exact ih (p.engine.resolve_within p.cardId p.invocation within p.source)

/-- **Numbers stay well formed through any series of plays.**  Every card is within its
limits after it; a next play that is applied leaves no negative health or coins; and
at any call of its chain an upper limit falls only where the hell lord weakens, by 3. -/
theorem series_within_limits (plays : List (Play ρ)) {s : State} (within : s.WithinLimits) :
    (series plays s).WithinLimits ∧ ∀ p : Play ρ,
      let state := series plays s
      let outcome := p.engine.resolve p.cardId p.invocation state p.source
      (outcome.resolution.status = .applied → ∀ side,
        0 ≤ (outcome.resolution.state.player side).health ∧
          0 ≤ (outcome.resolution.state.player side).coins) ∧
      ∀ (calls : List Call) (a : Atom), p.engine.library.has a.kind = true →
        let before := chain p.engine.library p.cardId p.invocation state p.source calls
        let after :=
          chain p.engine.library p.cardId p.invocation state p.source (calls ++ [.known a])
        (a ≠ .hellLordBonus → ∀ o, (before.cards o).maxHp ≤ (after.cards o).maxHp) ∧
          (a = .hellLordBonus → ∀ o,
            (Effect.Weakened (bind state p.invocation) before o →
              (after.cards o).maxHp = (before.cards o).maxHp - 3) ∧
            (¬ Effect.Weakened (bind state p.invocation) before o →
              (before.cards o).maxHp ≤ (after.cards o).maxHp)) := by
  refine ⟨series_within plays within, fun p => ⟨?_, ?_⟩⟩
  · exact p.engine.resolve_nonneg p.cardId p.invocation (series plays s) p.source
  · intro calls a known
    exact chain_maxHp p.engine.library p.cardId p.invocation (series plays s) p.source calls known

end Play

namespace Example

open Engine

/-- The small duel with a monster in place of the ogre. -/
def lair : State :=
  { duel with blue := { duel.blue with
      battlefield := [none, some { card "ogre" .battlefield with primaryRace := "怪物" }] } }

/-- Red raises the monster's limit, then calls the hell lord against it. -/
theorem lair_within_limits :
    let omen : Invocation := ⟨.red, card "omen" .miracle, none⟩
    let raised := Play.series
      [⟨engine [.known (.modifyHp 2 (onField .opponent) none)], 1, omen, Lcg.ofSeed 7⟩] lair
    let monster := Origin.slot ⟨.blue, .battlefield, 1⟩
    lair.WithinLimits ∧ raised.WithinLimits ∧
      ((chain .standard 1 omen raised (Lcg.ofSeed 8) [.known .hellLordBonus]).cards monster).maxHp
        = ((chain .standard 1 omen raised (Lcg.ofSeed 8) []).cards monster).maxHp - 3 := by
  intro omen raised monster
  have within : lair.WithinLimits := by decide
  obtain ⟨kept, plays⟩ := Play.series_within_limits
    [⟨engine [.known (.modifyHp 2 (onField .opponent) none)], 1, omen, Lcg.ofSeed 7⟩] within
  obtain ⟨-, chains⟩ := plays ⟨engine [.known .hellLordBonus], 1, omen, Lcg.ofSeed 8⟩
  obtain ⟨-, lowers⟩ := chains [] .hellLordBonus (by decide)
  exact ⟨within, kept, (lowers rfl monster).1 ⟨by decide, by decide, by decide⟩⟩

end Example

end LaneDuel
