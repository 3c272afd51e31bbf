/-
# LaneDuel.Proofs.Engine.Reach -- valid targets are those that the filter reaches

Whether a target is valid is asked of one card: it is looked up by its instance id
in the zone of the filter, and is then rejected for its side, its races, its
rarity or its kind.  An effect reaches cards the other way round: it collects the
zone over the sides of a scope and narrows the list.  Both come to the same
instance ids (`isValidTarget_iff_reached`), for the filter without its mode and
over both sides where it names no scope or nobody is known to act
(`TargetFilter.widened`).

* `Engine.validIn_iff`: the question, told by the slot in which a card lies.
* `Run.mem_targets_enter`: the search, told by the slots in which cards lie.
-/
import LaneDuel.Proofs.Effect.Target
import LaneDuel.Proofs.Engine.ValidTarget

namespace LaneDuel

set_option autoImplicit false

namespace TargetFilter

/-- The scope in which a target may lie: that of the filter, or both sides where it has
none or nobody is known to act. -/
def scopeFor (f : TargetFilter) : Option Side → Scope
  | some _ => f.player.getD .both
  | none => .both

/-- The filter as a question about targets: without a mode, over the scope in which a
target may lie. -/
def widened (f : TargetFilter) (acting : Option Side) : TargetFilter :=
  { f with target := none, player := some (f.scopeFor acting) }

@[simp] theorem condition_widened (f : TargetFilter) (acting : Option Side) :
    (f.widened acting).condition = f.condition := rfl

end TargetFilter

/-! ## The question -/

namespace Engine

/-- What a single card is rejected for is what the condition of the filter asks. -/
theorem fits_eq_admits (f : TargetFilter) (c : Card) : fits f c = f.condition.admits c := by
  rw [Bool.eq_iff_iff]
  simp only [fits, TargetFilter.condition, Condition.admits]
  cases asked f.race <;> cases asked f.rarity <;> cases f.kind <;> simp [and_assoc]

/-- A side is left out of a scope exactly where it is none of its sides. -/
theorem outOfScope_eq_false_iff {acting side : Side} {scope : Option Scope} :
    outOfScope acting scope side = false ↔ side ∈ (scope.getD .both).sides acting := by
  cases scope with
  | none => simp [outOfScope, Scope.sides, Side.mem_both]
  | some scope => cases scope <;> simp [outOfScope, Scope.sides, Side.mem_both]

theorem any_outOfScope_eq_false_iff (f : TargetFilter) {acting : Option Side} {player : Side}
    (acts : ∀ side, acting = some side → player = side) (side : Side) :
    (acting.any fun a => outOfScope a f.player side) = false ↔
      side ∈ (f.scopeFor acting).sides player := by
  cases acting with
  | none => simp [TargetFilter.scopeFor, Scope.sides, Side.mem_both]
  | some a =>
      rw [acts a rfl, Option.any_some, outOfScope_eq_false_iff]
      rfl

/-- **The question.**  The card with the instance id lies in the zone of the filter, on a
side of its scope, and meets its condition. -/
theorem validIn_iff {s : State} (distinct : s.instanceIds.Nodup) (f : TargetFilter)
    {acting : Option Side} {player : Side} (acts : ∀ side, acting = some side → player = side)
    (id : String) :
    validIn f id s acting = true ↔
      ∃ slot c, s.cardAt slot = some c ∧ c.instanceId = id ∧ slot.zone = f.location.zone ∧
        slot.side ∈ (f.scopeFor acting).sides player ∧ f.condition.admits c = true := by
  simp only [validIn]
  cases located : State.locate s id [f.location.zone] with
  | none =>
      simp only [Bool.false_eq_true, false_iff]
      rintro ⟨slot, c, there, rfl, zone, -, -⟩
      have missed := Table.locate_eq_none_iff.mp located slot c (List.mem_singleton.mpr zone) there
      exact absurd missed (by simp)
  | some slot =>
      obtain ⟨zone, c, there, hit⟩ := Table.locate_eq_some located
      simp only [there, Option.any_some, Bool.and_eq_true, Bool.not_eq_true', fits_eq_admits,
        any_outOfScope_eq_false_iff f acts]
      constructor
      · rintro ⟨inScope, admitted⟩
        exact ⟨slot, c, there, beq_iff_eq.mp hit, List.mem_singleton.mp zone, inScope, admitted⟩
      · rintro ⟨slot', c', there', rfl, -, inScope, admitted⟩
        -- the instance id has one slot only, so the search found this one
        have same : slot = slot' := State.slot_eq_of_id distinct there there' (beq_iff_eq.mp hit)
        subst same
        have card : c = c' := Option.some.inj (there.symm.trans there')
        exact ⟨inScope, card ▸ admitted⟩

end Engine

/-! ## The search -/

namespace Run

variable {ρ : Type}

theorem mem_zone_enter {s : State} {actor chosen : Card} {source : ρ} {side : Side} {zone : Zone}
    {o : Origin} :
    o ∈ (((enter s actor chosen source).player side).zone zone).filterMap id ↔
      ∃ slot c, s.cardAt slot = some c ∧ slot.side = side ∧ slot.zone = zone ∧
        o = .slot slot := by
  have places : ∀ index, (Table.origins s).cardAt ⟨side, zone, index⟩
      = (s.cardAt ⟨side, zone, index⟩).map fun _ => .slot ⟨side, zone, index⟩ :=
    fun index => Table.cardAt_origins s ⟨side, zone, index⟩
  rw [mem_taken, player_eq, enter, Table.mem_zone_iff_cardAt]
  simp only [places, Option.map_eq_some_iff]
  constructor
  · rintro ⟨index, c, there, rfl⟩
    exact ⟨⟨side, zone, index⟩, c, there, rfl, rfl, rfl⟩
  · rintro ⟨slot, c, there, rfl, rfl, rfl⟩
    exact ⟨slot.index, c, there, rfl⟩

/-- **The search.**  Of a run that has just begun, a filter without a mode reaches the cards
of its zone on the sides of its scope that meet its condition. -/
theorem mem_targets_enter {s : State} {actor chosen : Card} {source : ρ} {b : Binding}
    {f : TargetFilter} (plain : f.target = none) {scope : Scope} (spans : f.player = some scope)
    {o : Origin} :
    o ∈ ((enter s actor chosen source).targets b f).1 ↔
      ∃ slot c, s.cardAt slot = some c ∧ slot.zone = f.location.zone ∧
        slot.side ∈ scope.sides b.player ∧ f.condition.admits c = true ∧ o = .slot slot := by
  have read : ∀ {slot : Slot} {c : Card}, s.cardAt slot = some c →
      (enter s actor chosen source).cards (.slot slot) = c :=
    Table.cardOf_slot s actor chosen
  simp only [targets, plain, TargetFilter.narrow_eq_filter, candidates, spans, List.mem_filter,
    List.mem_flatMap, mem_zone_enter]
  constructor
  · rintro ⟨⟨side, inScope, slot, c, there, rfl, zone, rfl⟩, admitted⟩
    rw [read there] at admitted
    exact ⟨slot, c, there, zone, inScope, admitted, rfl⟩
  · rintro ⟨slot, c, there, zone, inScope, admitted, rfl⟩
    refine ⟨⟨slot.side, inScope, slot, c, there, rfl, zone, rfl⟩, ?_⟩
    rw [read there]
    exact admitted

end Run

/-! ## Both agree -/

namespace Engine

variable {ρ : Type}

/-- **Valid is what is reached.**  Of an entry that has its filter consulted, a target is
valid exactly if the widened filter reaches a card with its instance id, whoever else is
bound; nothing else of the target is looked at. -/
theorem isValidTarget_iff_reached (e : Engine) {cardId : Int} {entry : CardEffect}
    (found : e.catalog.get? cardId = some entry) (needs : entry.needsTarget = true)
    {f : TargetFilter} (filtered : entry.targetFilter = some f) {s : State}
    (distinct : s.instanceIds.Nodup) (acting : Option Side) (b : Binding)
    (acts : ∀ side, acting = some side → b.player = side) (t actor chosen : Card) (source : ρ) :
    let r := Run.enter s actor chosen source
    (e.isValidTarget cardId t s acting = true ↔
        ∃ o ∈ (r.targets b (f.widened acting)).1, (r.cards o).instanceId = t.instanceId) ∧
      ∀ t' : Card, t'.instanceId = t.instanceId →
        e.isValidTarget cardId t' s acting = e.isValidTarget cardId t s acting := by
  intro r
  have consulted : e.consulted cardId = some f := by
    rw [consulted, found, Option.bind_some, consultedBy, if_pos needs, filtered]
  have asked : ∀ t' : Card, e.isValidTarget cardId t' s acting
      = validIn f t'.instanceId s acting := by
    intro t'
    simp only [isValidTarget, consulted]
  refine ⟨?_, fun t' same => by rw [asked, asked, same]⟩
  rw [asked, validIn_iff distinct f acts]
  have reached : ∀ o, o ∈ (r.targets b (f.widened acting)).1 ↔ _ :=
    fun o => Run.mem_targets_enter (f := f.widened acting) rfl rfl
  simp only [reached]
  constructor
  · rintro ⟨slot, c, there, id, zone, inScope, admitted⟩
    refine ⟨.slot slot, ⟨slot, c, there, zone, inScope, admitted, rfl⟩, ?_⟩
    rw [← id]
    exact congrArg Card.instanceId (Table.cardOf_slot s actor chosen there)
  · rintro ⟨o, ⟨slot, c, there, zone, inScope, admitted, rfl⟩, id⟩
    have read : r.cards (.slot slot) = c := Table.cardOf_slot s actor chosen there
    rw [read] at id
    exact ⟨slot, c, there, id, zone, inScope, admitted⟩

end Engine

namespace Example

open Engine

/-- A copy of the goblin that was kept from before it changed its race. -/
def staleGoblin : Card := { card "goblin" .support with primaryRace := "orc", atk := 9 }

/-- Red may choose the goblin in the opponent's hand, also by a stale copy of it. -/
theorem goblin_reached :
    let r := Run.enter duel (card "squire" .battlefield) staleGoblin (Lcg.ofSeed 7)
    let b : Binding := ⟨.red, .actor, none⟩
    duel.instanceIds.Nodup ∧
      (seeking (inHand .opponent)).isValidTarget 1 staleGoblin duel (some .red) = true ∧
      ∃ o ∈ (r.targets b ((inHand .opponent).widened (some .red))).1,
        (r.cards o).instanceId = "goblin" := by
  intro r b
  have distinct : duel.instanceIds.Nodup := by decide
  have valid : (seeking (inHand .opponent)).isValidTarget 1 staleGoblin duel (some .red) = true :=
    by decide
  have found : (seeking (inHand .opponent)).catalog.get? 1 = some
      { entry [] with needsTarget := true, targetFilter := some (inHand .opponent) } := rfl
  have agree := isValidTarget_iff_reached (seeking (inHand .opponent)) found rfl rfl distinct
    (some .red) b (fun _ red => Option.some.inj red) staleGoblin (card "squire" .battlefield)
    staleGoblin (Lcg.ofSeed 7)
  exact ⟨distinct, valid, agree.1.mp valid⟩

end Example

end LaneDuel
