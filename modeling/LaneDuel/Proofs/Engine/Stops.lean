/-
# LaneDuel.Proofs.Engine.Stops -- when a play stops before its chain

`Engine.stop?` is how a play ends without running anything, if it does: the entry,
the target and the mode of the entry are looked at in this order.  A play either
stops there and leaves the state alone, or settles the chain of its entry
(`resolve_of_stop?`, `resolve_of_go`).

A target is lost where no battlefield holds its instance id (`targetLost_iff`).
This is said by membership, apart from the order in which places are searched.
-/
import LaneDuel.Proofs.Engine.Chain

namespace LaneDuel

set_option autoImplicit false

universe u

namespace Table

variable {ν σ : Type} {α : Type u}

theorem mem_zone_iff_cardAt {t : Table ν σ α} {side : Side} {zone : Zone} {c : α} :
    some c ∈ (t.player side).zone zone ↔ ∃ index, t.cardAt ⟨side, zone, index⟩ = some c := by
  simp only [cardAt, List.mem_iff_getElem?, Option.join_eq_some_iff]

/-- A search of one zone fails where nothing in it passes the test. -/
theorem locate_zone_eq_none_iff {t : Table ν σ α} {hit : α → Bool} {zone : Zone} :
    t.locate hit [zone] = none ↔
      ∀ side c, some c ∈ (t.player side).zone zone → hit c = false := by
  rw [locate_eq_none_iff]
  constructor
  · intro misses side c lies
    obtain ⟨index, there⟩ := mem_zone_iff_cardAt.mp lies
    exact misses ⟨side, zone, index⟩ c List.mem_cons_self there
  · intro misses slot c asked there
    have zone_eq : slot.zone = zone := List.mem_singleton.mp asked
    refine misses slot.side c (mem_zone_iff_cardAt.mpr ⟨slot.index, ?_⟩)
    rw [← zone_eq]
    exact there

end Table

namespace Engine

/-! ## Lost targets -/

/-- The instance id of a card is on neither battlefield. -/
def OffField (s : State) (t : Card) : Prop :=
  ∀ side c, some c ∈ (s.player side).battlefield → c.instanceId ≠ t.instanceId

theorem targetLost_iff {s : State} {inv : Invocation} :
    targetLost s inv = true ↔ ∃ t, inv.target = some t ∧ OffField s t := by
  cases given : inv.target with
  | none => simp [targetLost, given]
  | some t =>
      simp only [targetLost, given, bindTarget, State.locate, Option.isNone_map,
        Option.isNone_iff_eq_none, Table.locate_zone_eq_none_iff, beq_eq_false_iff_ne,
        Option.some.injEq, exists_eq_left']
      rfl

/-! ## Stops -/

/-- The status and the notices of a play that ends before its chain. -/
def stop? (c : Catalog) (cardId : Int) (inv : Invocation) (s : State) :
    Option (Status × List Notice) :=
  match c.get? cardId with
  | none => some (.noEffect, [])
  | some entry =>
    if targetLost s inv then some (.aborted, [.targetLost])
    else if entry.needsTarget && inv.target.isNone then
      some (.aborted, [.targetRequired entry.name])
    else entry.uiMode.map fun mode => (.uiMode, [.uiMode entry.name mode])

theorem stop?_of_found {c : Catalog} {cardId : Int} {entry : CardEffect}
    (found : c.get? cardId = some entry) (inv : Invocation) (s : State) :
    stop? c cardId inv s =
      if targetLost s inv then some (.aborted, [.targetLost])
      else if entry.needsTarget && inv.target.isNone then
        some (.aborted, [.targetRequired entry.name])
      else entry.uiMode.map fun mode => (.uiMode, [.uiMode entry.name mode]) := by
  rw [stop?, found]

/-- What stops a play stops it for one of four reasons, each where those before it
do not apply. -/
theorem stop?_eq_some_iff {c : Catalog} {cardId : Int} {inv : Invocation} {s : State}
    {stop : Status × List Notice} :
    stop? c cardId inv s = some stop ↔
      (c.get? cardId = none ∧ stop = (.noEffect, [])) ∨
      ∃ entry, c.get? cardId = some entry ∧
        ((targetLost s inv = true ∧ stop = (.aborted, [.targetLost])) ∨
          targetLost s inv = false ∧
            (((entry.needsTarget && inv.target.isNone) = true ∧
                stop = (.aborted, [.targetRequired entry.name])) ∨
              (entry.needsTarget && inv.target.isNone) = false ∧
                ∃ mode, entry.uiMode = some mode ∧
                  stop = (.uiMode, [.uiMode entry.name mode]))) := by
  unfold stop?
  cases c.get? cardId with
  | none => simp [eq_comm (b := stop)]
  | some entry =>
      simp only [reduceCtorEq, false_and, false_or, Option.some.injEq, exists_eq_left']
      cases targetLost s inv with
      | true => simp [eq_comm (b := stop)]
      | false =>
          cases entry.needsTarget && inv.target.isNone with
          | true => simp [eq_comm (b := stop)]
          | false => cases entry.uiMode <;> simp [eq_comm (b := stop)]

/-- Nothing stops an entry without a mode of its own that has the target it needs. -/
theorem stop?_eq_none_iff {c : Catalog} {cardId : Int} {inv : Invocation} {s : State} :
    stop? c cardId inv s = none ↔
      ∃ entry, c.get? cardId = some entry ∧ targetLost s inv = false ∧
        (entry.needsTarget && inv.target.isNone) = false ∧ entry.uiMode = none := by
  unfold stop?
  cases c.get? cardId with
  | none => simp
  | some entry =>
      simp only [Option.some.injEq, exists_eq_left']
      cases targetLost s inv with
      | true => simp
      | false => cases entry.needsTarget && inv.target.isNone <;> simp

theorem not_applied_of_stop? {c : Catalog} {cardId : Int} {inv : Invocation} {s : State}
    {stop : Status × List Notice} (h : stop? c cardId inv s = some stop) :
    stop.1 ≠ .applied := by
  rcases stop?_eq_some_iff.mp h with
    ⟨-, rfl⟩ | ⟨entry, -, ⟨-, rfl⟩ | ⟨-, ⟨-, rfl⟩ | ⟨-, mode, -, rfl⟩⟩⟩ <;> simp

/-- What stops a play tells of it by one of three keys of the engine's own. -/
theorem key_of_stop? {c : Catalog} {cardId : Int} {inv : Invocation} {s : State}
    {stop : Status × List Notice} (h : stop? c cardId inv s = some stop) :
    ∀ n ∈ stop.2, n.key ∈ ["engine.target_lost", "engine.target_required", "engine.ui_mode"] := by
  rcases stop?_eq_some_iff.mp h with
    ⟨-, rfl⟩ | ⟨entry, -, ⟨-, rfl⟩ | ⟨-, ⟨-, rfl⟩ | ⟨-, mode, -, rfl⟩⟩⟩ <;> simp [Notice.key]

variable {ρ : Type} [RandomSource ρ]

theorem resolve_of_stop? {e : Engine} {cardId : Int} {inv : Invocation} {s : State}
    {stop : Status × List Notice} (h : stop? e.catalog cardId inv s = some stop) (source : ρ) :
    e.resolve cardId inv s source = leave s source stop.1 (stop.2.map .notice) := by
  unfold resolve
  rcases stop?_eq_some_iff.mp h with ⟨found, rfl⟩ | ⟨entry, found, reason⟩
  · rw [found]
    rfl
  · rw [found]
    rcases reason with ⟨lost, rfl⟩ | ⟨kept, ⟨missing, rfl⟩ | ⟨aimed, mode, own, rfl⟩⟩
    · simp [lost]
    · simp [kept, missing]
    · simp [kept, aimed, own]

/-- A play that nothing stops settles the chain of its entry. -/
theorem resolve_of_go {e : Engine} {cardId : Int} {inv : Invocation} {s : State}
    (h : stop? e.catalog cardId inv s = none) (source : ρ) :
    ∃ entry, e.catalog.get? cardId = some entry ∧ e.resolve cardId inv s source
      = finish (chain e.library cardId inv s source entry.effects) := by
  obtain ⟨entry, found, kept, aimed, plain⟩ := stop?_eq_none_iff.mp h
  exact ⟨entry, found, resolve_eq_finish found kept aimed plain source⟩

/-- A play leaves the state as it was, or settles the chain of its entry. -/
theorem resolve_cases (e : Engine) (cardId : Int) (inv : Invocation) (s : State) (source : ρ) :
    (∃ status events, status ≠ .applied ∧
        e.resolve cardId inv s source = leave s source status events) ∨
      ∃ entry, e.catalog.get? cardId = some entry ∧
        e.resolve cardId inv s source
          = finish (chain e.library cardId inv s source entry.effects) := by
  cases stops : stop? e.catalog cardId inv s with
  | some stop => exact .inl ⟨_, _, not_applied_of_stop? stops, resolve_of_stop? stops source⟩
  | none => exact .inr (resolve_of_go stops source)

/-- An applied play settles the chain of its entry. -/
theorem resolve_of_applied {e : Engine} {cardId : Int} {inv : Invocation} {s : State} {source : ρ}
    (applied : (e.resolve cardId inv s source).resolution.status = .applied) :
    ∃ entry, e.catalog.get? cardId = some entry ∧
      e.resolve cardId inv s source
        = finish (chain e.library cardId inv s source entry.effects) := by
  obtain ⟨status, events, stopped, left⟩ | ended := e.resolve_cases cardId inv s source
  · rw [left] at applied
    exact absurd applied stopped
  · exact ended

theorem resolve_aborted_iff (e : Engine) (cardId : Int) (inv : Invocation) (s : State)
    (source : ρ) :
    (e.resolve cardId inv s source).resolution.status = .aborted ↔
      ∃ entry, e.catalog.get? cardId = some entry ∧
        (targetLost s inv = true ∨ (entry.needsTarget = true ∧ inv.target = none)) := by
  unfold resolve
  cases found : e.catalog.get? cardId with
  | none => simp [leave]
  | some entry =>
      simp only [Option.some.injEq, exists_eq_left']
      cases lost : targetLost s inv with
      | true => simp [leave]
      | false =>
          have asked : (entry.needsTarget = true ∧ inv.target = none) ↔
              (entry.needsTarget && inv.target.isNone) = true := by simp
          rw [asked]
          cases missing : entry.needsTarget && inv.target.isNone with
          | true => simp [leave]
          | false => cases entry.uiMode <;> simp [leave, finish]

end Engine

end LaneDuel
