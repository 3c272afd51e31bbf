/-
# LaneDuel.Proofs.Engine.ValidTarget -- what is valid and what can be played

Two searches decide where a target may lie.  Asking (`isValidTarget`) looks into
the zone of the entry's filter; playing (`resolve`) looks for every target on the
battlefields.  So a valid target can be played exactly where the filter is about
the battlefields (`valid_target_aborted_iff`): a filter for hands has valid
targets, but none of them can be played.
-/
import LaneDuel.Engine.Query
import LaneDuel.Proofs.Engine.Stops

namespace LaneDuel

set_option autoImplicit false

/-- An instance id that only one card has lies in one slot only. -/
theorem State.slot_eq_of_id {s : State} (distinct : s.instanceIds.Nodup) {slot slot' : Slot}
    {c d : Card} (here : s.cardAt slot = some c) (there : s.cardAt slot' = some d)
    (same : c.instanceId = d.instanceId) : slot = slot' := by
  have cards : c = d := List.inj_on_of_nodup_map distinct (Table.mem_cards_of_cardAt here)
    (Table.mem_cards_of_cardAt there) same
  subst cards
  exact Table.cardAt_inj (List.Nodup.of_map _ distinct) here there

namespace Engine

/-- Where a filter is consulted, a valid target lies in the filter's zone. -/
theorem exists_slot_of_isValidTarget {e : Engine} {cardId : Int} {entry : CardEffect}
    (found : e.catalog.get? cardId = some entry) (needs : entry.needsTarget = true)
    {f : TargetFilter} (filtered : entry.targetFilter = some f) {t : Card} {s : State}
    {acting : Option Side} (valid : e.isValidTarget cardId t s acting = true) :
    ∃ slot c, slot.zone = f.location.zone ∧ s.cardAt slot = some c ∧
      c.instanceId = t.instanceId := by
  have asked : e.consulted cardId = some f := by
    rw [consulted, found, Option.bind_some, consultedBy, if_pos needs, filtered]
  simp only [isValidTarget, asked, validIn] at valid
  cases located : State.locate s t.instanceId [f.location.zone] with
  | none =>
      rw [located] at valid
      cases valid
  | some slot =>
      obtain ⟨zone, c, there, hit⟩ := Table.locate_eq_some located
      exact ⟨slot, c, List.mem_singleton.mp zone, there, beq_iff_eq.mp hit⟩

variable {ρ : Type} [RandomSource ρ]

/-- **A valid target is refused exactly where the filter asks for cards in hand.** -/
theorem valid_target_aborted_iff (e : Engine) {cardId : Int} {entry : CardEffect}
    (found : e.catalog.get? cardId = some entry) (needs : entry.needsTarget = true)
    {f : TargetFilter} (filtered : entry.targetFilter = some f) {s : State}
    (distinct : s.instanceIds.Nodup) (player : Side) (card t : Card)
    (valid : e.isValidTarget cardId t s (some player) = true) (source : ρ) :
    (e.resolve cardId ⟨player, card, some t⟩ s source).resolution.status = .aborted ↔
      f.location = .hand := by
  obtain ⟨slot, c, zone, there, same⟩ := exists_slot_of_isValidTarget found needs filtered valid
  -- a target is given, so only a lost one is refused
  have refused : (e.resolve cardId ⟨player, card, some t⟩ s source).resolution.status = .aborted
      ↔ OffField s t := by
    rw [resolve_aborted_iff]
    simp [found, targetLost_iff]
  rw [refused]
  constructor
  · intro nowhere
    cases location : f.location with
    | hand => rfl
    | battlefield =>
        have lies : some c ∈ (s.player slot.side).zone slot.zone :=
          Table.mem_zone_iff_cardAt.mpr ⟨slot.index, there⟩
        rw [zone, location] at lies
        exact absurd same (nowhere slot.side c lies)
  · intro location side d onField same'
    have lies : some d ∈ (s.player side).zone .battlefield := onField
    obtain ⟨index, there'⟩ := Table.mem_zone_iff_cardAt.mp lies
    have slots := State.slot_eq_of_id distinct there there' (same.trans same'.symm)
    rw [location, slots] at zone
    cases zone

end Engine

namespace Example

open Engine

/-- An engine for one card, number 1, that needs a target and does nothing to it. -/
def seeking (f : TargetFilter) : Engine :=
  ⟨⟨[(1, { entry [] with needsTarget := true, targetFilter := some f })]⟩, .standard⟩

/-- Every card in the hands of a scope. -/
def inHand (scope : Scope) : TargetFilter := ⟨none, some scope, .hand, none, none, none⟩

theorem ogre_playable :
    (seeking (onField .opponent)).isValidTarget 1 (card "ogre" .battlefield) duel (some .red)
        = true ∧
      ((seeking (onField .opponent)).resolve 1
        ⟨.red, card "squire" .battlefield, some (card "ogre" .battlefield)⟩ duel
        (Lcg.ofSeed 7)).resolution.status ≠ .aborted := by
  have valid : (seeking (onField .opponent)).isValidTarget 1 (card "ogre" .battlefield) duel
      (some .red) = true := by decide
  refine ⟨valid, fun refused => ?_⟩
  have location := (valid_target_aborted_iff (seeking (onField .opponent)) rfl rfl rfl
    (by decide) .red (card "squire" .battlefield) _ valid (Lcg.ofSeed 7)).mp refused
  cases location

theorem goblin_refused :
    duel.instanceIds.Nodup ∧
      (seeking (inHand .opponent)).isValidTarget 1 (card "goblin" .battlefield) duel (some .red)
        = true ∧
      ((seeking (inHand .opponent)).resolve 1
        ⟨.red, card "squire" .battlefield, some (card "goblin" .battlefield)⟩ duel
        (Lcg.ofSeed 7)).resolution.status = .aborted := by
  refine ⟨by decide, by decide, by decide⟩

end Example

end LaneDuel
