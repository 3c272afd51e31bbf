/-
# LaneDuel.Proofs.Engine.Ledger -- the log accounts for the state

Players learn from the log of a play what it has done.  An atom that says nothing for
them to read has done nothing, neither to the state nor to the cards that the play is
bound to, on the table or not.  And cards leave the lanes and the discard pile by the
entries of the log alone, one entry for each (`runCalls_balances`, `resolve_balances`).

`log_accounts_for_state` says both of the entries that a journal records, in any words
and with or without traces.
-/
import LaneDuel.Proofs.Effect.Traffic
import LaneDuel.Proofs.Engine.Stops

namespace LaneDuel

set_option autoImplicit false

namespace Journal

/-- What is for players to read is recorded also without traces. -/
theorem mem_entries_of_info (b : Phrasebook) (tracing : Bool) {es : List Event} {e : Event}
    (told : e ∈ es) (info : e.level = .info) : Entry.ofEvent b e ∈ entries b tracing es := by
  refine List.mem_filter.mpr ⟨List.mem_map_of_mem told, ?_⟩
  simp [recorded, Entry.ofEvent, info]

end Journal

namespace Engine

variable {ρ : Type} [RandomSource ρ]

/-! ## Chains -/

/-- A chain moves cards by the entries it tells; the reports of its calls are none of
these. -/
theorem runCalls_balances (library : Library) (cardId : Int) (b : Binding) (index : Nat)
    (calls : List Call) (r : Run ρ) : r.Balances (runCalls library cardId b index calls r) := by
  refine runCalls_invariant (P := r.Balances) ?_ ?_ ?_ index calls (.refl r)
  · intro r' name h
    exact h.trans (.of_table ["engine.unknown_atom"]
      (.of_tell r' (by simp [Event.key, Notice.key])) (by decide) rfl)
  · intro r' index name h
    exact h.trans (.of_table [] (.of_tell r' (by simp [Event.key])) (by simp) rfl)
  · intro r' a h
    exact h.trans (a.perform_balances b r')

/-! ## Plays -/

/-- A play that is applied moves cards by the events it tells. -/
theorem resolve_balances {e : Engine} {cardId : Int} {inv : Invocation} {s : State} {source : ρ}
    (applied : (e.resolve cardId inv s source).resolution.status = .applied) :
    let told := (e.resolve cardId inv s source).resolution.events
    let after := (e.resolve cardId inv s source).resolution.state
    Table.fieldSize after + told.countP (Event.isKeyed removalKeys) = Table.fieldSize s ∧
      after.discardPile.length + told.countP (Event.isKeyed retrievalKeys)
        = s.discardPile.length + told.countP (Event.isKeyed removalKeys) := by
  obtain ⟨entry, -, ended⟩ := resolve_of_applied applied
  have moved := (runCalls_balances e.library cardId (bind s inv) 0 entry.effects
    (begin s inv source)).of_fresh rfl
  rw [begin, Run.snapshot_enter] at moved
  rw [ended]
  -- settling moves no card
  exact moved

/-- **The log accounts for the state.**  An atom whose entries hold nothing for players to
read has changed neither the state nor the acting card nor the target, wherever these lie.
And in an applied play the lanes lose exactly one card for every entry of a killed or
cleared card, the discard pile gets exactly these and loses one for every entry of a card
taken back. -/
theorem log_accounts_for_state (book : Phrasebook) (tracing : Bool) :
    (∀ (b : Binding) (r : Run ρ) (a : Atom), ∃ told, (a.perform b r).log = r.log ++ told ∧
        ((∀ entry ∈ Journal.entries book tracing told, entry.level ≠ .info) →
          (a.perform b r).snapshot = r.snapshot ∧
            (a.perform b r).cards b.actor = r.cards b.actor ∧
            b.target.map (a.perform b r).cards = b.target.map r.cards)) ∧
      ∀ (e : Engine) (cardId : Int) (inv : Invocation) (s : State) (source : ρ),
        let resolution := (e.resolve cardId inv s source).resolution
        let entries := Journal.entries book tracing resolution.events
        let removed := entries.countP fun entry => removalKeys.contains entry.key
        let retrieved := entries.countP fun entry => retrievalKeys.contains entry.key
        resolution.status = .applied →
          (Table.fieldCards resolution.state Side.both).length + removed
              = (Table.fieldCards s Side.both).length ∧
            resolution.state.discardPile.length + retrieved
              = s.discardPile.length + removed := by
  constructor
  · intro b r a
    obtain ⟨told, log, -, nothing⟩ := a.perform_tells b r
    refine ⟨told, log, fun silent => ?_⟩
    obtain ⟨table, cards⟩ := nothing fun e new info =>
      silent _ (Journal.mem_entries_of_info book tracing new info) info
    exact ⟨by rw [Run.snapshot, table, cards, Run.snapshot], by rw [cards], by rw [cards]⟩
  · intro e cardId inv s source resolution entries removed retrieved applied
    have told := resolve_balances applied
    have removals : removed = resolution.events.countP (Event.isKeyed removalKeys) :=
      Journal.countP_keys book tracing (by decide) _
    have retrievals : retrieved = resolution.events.countP (Event.isKeyed retrievalKeys) :=
      Journal.countP_keys book tracing (by decide) _
    rw [removals, retrievals]
    exact told

end Engine

namespace Example

open Engine

/-- Thawing where nothing is frozen leaves no entry, so it has changed nothing; red's
strike kills one card and takes one back. -/
theorem strike_accounted :
    let omen : Invocation := ⟨.red, card "omen" .miracle, none⟩
    let r := begin duel omen (Lcg.ofSeed 7)
    let thaw := (Atom.removeDebuffs (onField .both)).perform (bind duel omen) r
    let strike := (engine [.known (.killCard (onField .opponent)),
      .known (.drawFromDiscard 1)]).resolve 1 omen duel (Lcg.ofSeed 7)
    let entries := Journal.entries (.standard .english) false strike.resolution.events
    thaw.snapshot = r.snapshot ∧ strike.resolution.status = .applied ∧
      (Table.fieldCards strike.resolution.state Side.both).length
          + (entries.countP fun entry => removalKeys.contains entry.key) = 2 ∧
      strike.resolution.state.discardPile.length
          + (entries.countP fun entry => retrievalKeys.contains entry.key)
        = 1 + entries.countP fun entry => removalKeys.contains entry.key := by
  intro omen r thaw strike entries
  obtain ⟨atoms, plays⟩ := log_accounts_for_state (ρ := Lcg) (.standard .english) false
  obtain ⟨told, log, nothing⟩ := atoms (bind duel omen) r (.removeDebuffs (onField .both))
  have silent : Journal.entries (.standard .english) false told = [] := by
    have said : told = thaw.log := log.symm
    rw [said]
    rfl
  have applied : strike.resolution.status = .applied := by decide
  refine ⟨(nothing (by simp [silent])).1, applied, ?_⟩
  exact plays (engine [.known (.killCard (onField .opponent)), .known (.drawFromDiscard 1)]) 1
    omen duel (Lcg.ofSeed 7) applied

end Example

end LaneDuel
