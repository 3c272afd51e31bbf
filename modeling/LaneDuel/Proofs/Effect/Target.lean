/-
# LaneDuel.Proofs.Effect.Target -- the cards a filter reaches, in step

Narrowing by race, by rarity and by kind one after another keeps exactly the
cards that meet the condition made of the three (`narrow_eq_filter`).  So runs in
step reach the same cards with a filter (`Matches.targets`), and an effect that
only changes those keeps them in step (`Matches.reach`).

The order differs in one case: the sides are crossed and the filter goes over both
of them, red first (`TargetFilter.Spans`).
-/
import LaneDuel.Proofs.Effect.Correspondence

namespace LaneDuel

set_option autoImplicit false

namespace TargetFilter

/-- What a filter asks of a single card. -/
def condition (f : TargetFilter) : Condition := ⟨f.race, f.rarity, f.kind⟩

theorem narrow_eq_filter (f : TargetFilter) (cards : Origin → Card) (os : List Origin) :
    f.narrowByKind cards (f.narrowByRarity cards (f.narrowByRace cards os))
      = os.filter fun o => f.condition.admits (cards o) := by
  have all : ∀ os' : List Origin, os'.filter (fun _ => true) = os' := fun os' =>
    List.filter_eq_self.mpr fun _ _ => rfl
  simp only [narrowByKind, narrowByRarity, narrowByRace, condition, Condition.admits]
  cases asked f.race <;> cases asked f.rarity <;> cases f.kind <;>
    simp [List.filter_filter, all, Bool.and_comm]

/-- The filter goes over the cards of both sides. -/
def Spans (f : TargetFilter) : Prop := f.target = none ∧ f.player = some .both

end TargetFilter

namespace Correspondence

variable (φ : Correspondence)

/-! ## The sides of a scope -/

theorem sides_perm (s : Side) (scope : Scope) :
    (scope.sides (φ.side s)).Perm ((scope.sides s).map φ.side) := by
  cases scope with
  | own => exact .refl _
  | opponent =>
      rw [Scope.sides, Scope.sides, List.map_singleton, side_opponent]
  | both =>
      cases crossed : φ.crossed with
      | false =>
          simp [Scope.sides, Side.both, side, crossed]
      | true =>
          simp only [Scope.sides, Side.both, side, crossed, if_true, List.map_cons, List.map_nil,
            Side.opponent]
          exact .swap _ _ _

theorem sides_eq (s : Side) (scope : Scope) (oneSided : φ.crossed = true → scope ≠ .both) :
    scope.sides (φ.side s) = (scope.sides s).map φ.side := by
  cases scope with
  | own => rfl
  | opponent =>
      rw [Scope.sides, Scope.sides, List.map_singleton, side_opponent]
  | both =>
      have uncrossed : φ.crossed = false := by
        rw [← Bool.not_eq_true]
        intro crossed
        exact oneSided crossed rfl
      simp [Scope.sides, Side.both, side, uncrossed]

namespace Matches

variable {φ : Correspondence} {ρ : Type} {l r : Run ρ} {b : Binding}

/-! ## Searching with a filter -/

theorem zone (h : φ.Matches l r) (s : Side) (zone : Zone) :
    ((r.table.player (φ.side s)).zone zone).filterMap id
      = (((l.table.player s).zone zone).filterMap id).map φ.name := by
  rw [h.player, Player.zone_map, taken_map]

theorem live_of_zone (h : φ.Matches l r) (s : Side) (zone : Zone) :
    ∀ o ∈ ((l.table.player s).zone zone).filterMap id, φ.live o := by
  intro o held
  exact h.live_of_player (Player.mem_cards_of_zone (mem_taken.mp held))

theorem candidates_live (h : φ.Matches l r) (f : TargetFilter) :
    ∀ o ∈ l.candidates b f, φ.live o := by
  unfold Run.candidates
  cases f.player with
  | none =>
      intro o held
      cases held
  | some scope =>
      intro o held
      obtain ⟨s, -, there⟩ := List.mem_flatMap.mp held
      exact h.live_of_zone s f.location.zone o there

/-- Collecting cards side by side, over the sides of the second run. -/
theorem collect (h : φ.Matches l r) (sides : List Side) (zone : Zone) :
    ((sides.map φ.side).flatMap fun s => ((r.table.player s).zone zone).filterMap id)
      = (sides.flatMap fun s => ((l.table.player s).zone zone).filterMap id).map φ.name := by
  rw [List.flatMap_map, List.map_flatMap]
  congr 1
  funext s
  exact h.zone s zone

theorem candidates_perm (h : φ.Matches l r) (f : TargetFilter) :
    (r.candidates (φ.binding b) f).Perm ((l.candidates b f).map φ.name) := by
  unfold Run.candidates
  cases f.player with
  | none => exact .refl _
  | some scope =>
      simp only [Run.player_eq, ← h.collect]
      exact (φ.sides_perm b.player scope).flatMap_right _

theorem candidates_eq (h : φ.Matches l r) {f : TargetFilter}
    (oneSided : φ.crossed = true → f.player ≠ some .both) :
    r.candidates (φ.binding b) f = (l.candidates b f).map φ.name := by
  unfold Run.candidates
  cases player : f.player with
  | none => rfl
  | some scope =>
      simp only [Run.player_eq, ← h.collect]
      rw [← φ.sides_eq b.player scope fun crossed both => oneSided crossed (by rw [player, both])]
      rfl

/-- Whether a card on the lanes of a scope has a property does not depend on the order
of the sides. -/
theorem anyOnField (h : φ.Matches l r) (s : Side) (scope : Scope) (p : Card → Bool) :
    ((r.table.fieldCards (scope.sides (φ.side s))).map r.cards).any p
      = ((l.table.fieldCards (scope.sides s)).map l.cards).any p := by
  have alive : ∀ o ∈ l.table.fieldCards (scope.sides s), φ.live o := by
    intro o onField
    obtain ⟨s', -, held⟩ := List.mem_flatMap.mp onField
    exact h.live_of_field held
  have fields : r.table.fieldCards ((scope.sides s).map φ.side)
      = (l.table.fieldCards (scope.sides s)).map φ.name := by
    rw [Table.fieldCards, Table.fieldCards, List.flatMap_map, List.map_flatMap]
    congr 1
    funext s'
    exact h.field s'
  have same : (r.table.fieldCards (scope.sides (φ.side s))).Perm
      ((l.table.fieldCards (scope.sides s)).map φ.name) := by
    rw [← fields]
    exact (φ.sides_perm s scope).flatMap_right _
  rw [(same.map r.cards).any_eq, h.values alive]

/-- Runs in step reach the same cards with a filter and say the same about it; in the same
order unless the filter spans crossed sides. -/
theorem targets (h : φ.Matches l r) (binds : φ.Binds b)
    (distinct : φ.crossed = true → l.Distinct) (f : TargetFilter) :
    (∀ o ∈ (l.targets b f).1, φ.live o) ∧
      (r.targets (φ.binding b) f).1.Perm ((l.targets b f).1.map φ.name) ∧
      ((φ.crossed = true → ¬ f.Spans) →
        (r.targets (φ.binding b) f).1 = (l.targets b f).1.map φ.name) ∧
      (φ.crossed = false → (r.targets (φ.binding b) f).2 = (l.targets b f).2) := by
  unfold Run.targets
  cases target : f.target with
  | some special =>
      cases special with
      | own =>
          have id : r.cards (φ.binding b).actor = l.cards b.actor := h.cards b.actor binds.1
          have found := h.findById distinct (l.cards b.actor).instanceId [.battlefield]
          simp only [id, found]
          cases own : l.findById (l.cards b.actor).instanceId [.battlefield] with
          | none => simp
          | some o =>
              have alive : φ.live o := h.live o (Run.findById_eq_some own).2
              simp [alive]
      | selected =>
          have same : (φ.binding b).target.toList = b.target.toList.map φ.name := by
            rw [binding]
            cases b.target <;> rfl
          simp only [same]
          refine ⟨?_, .refl _, fun _ => trivial, fun _ => trivial⟩
          intro o chosen
          exact binds.2 o (Option.mem_toList.mp chosen)
  | none =>
      simp only [TargetFilter.narrow_eq_filter]
      have alive := h.candidates_live (b := b) f
      have kept := h.filter f.condition.admits alive
      refine ⟨fun o chosen => alive o (List.mem_filter.mp chosen).1, ?_, ?_, ?_⟩
      · rw [← kept]
        exact (h.candidates_perm f).filter _
      · intro oneSided
        rw [h.candidates_eq fun crossed player => oneSided crossed ⟨target, player⟩, kept]
      · intro uncrossed
        have told : (((l.candidates b f).filter fun o => f.condition.admits (l.cards o)).map
              φ.name).map (fun o => Text.quote (r.cards o).name)
            = ((l.candidates b f).filter fun o => f.condition.admits (l.cards o)).map
              fun o => Text.quote (l.cards o).name := by
          rw [List.map_map]
          apply List.map_congr_left
          intro o chosen
          rw [Function.comp_apply, h.cards o (alive o (List.mem_filter.mp chosen).1)]
        rw [h.candidates_eq fun crossed => by simp [uncrossed] at crossed, kept,
          List.length_map, told]

theorem reach (h : φ.Matches l r) (binds : φ.Binds b)
    (distinct : φ.crossed = true → l.Distinct) (f : TargetFilter)
    (change : Card → Card × List Event) :
    φ.Matches (l.reach b f change) (r.reach (φ.binding b) f change) := by
  obtain ⟨alive, same, order, told⟩ := h.targets binds distinct f
  refine (h.tell told).visit change alive same fun uncrossed => order fun crossed => ?_
  rw [uncrossed] at crossed
  cases crossed

end Matches

end Correspondence

end LaneDuel
