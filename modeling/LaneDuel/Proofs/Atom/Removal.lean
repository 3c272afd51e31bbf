/-
# LaneDuel.Proofs.Atom.Removal -- two ways to the same removal

Cards leave the lanes one by one, each looked up by its instance id on both battlefields, or
a battlefield at a time, lane by lane.  `Table.retire` is what both come to: the cards of a
list are off the lanes, wherever on them they stood, and on the discard pile in the order of
the list.

Looking up by id needs ids that do not repeat on the lanes.  Then a step of killing retires
the one card with the id asked for, if it is there (`Effect.killOne_table`); killing a scope
retires the cards that the filter admits (`Effect.kill_retires`), as clearing it retires
those that are not spared (`Effect.clearField_retires`).  These are the same cards where
nothing is narrowed, and part the scope between them where the race killed is the race
spared (`Atom.two_removals`).
-/
import Mathlib.Data.List.Flatten
import LaneDuel.Proofs.Atom.Filters
import LaneDuel.Proofs.Effect.Traffic

namespace LaneDuel

set_option autoImplicit false

/-! ## Lanes -/

namespace Effect

variable {α β : Type}

@[simp] theorem sweep_none (goes : α → Bool) (lanes : List (Option α)) :
    sweep goes (none :: lanes) = none :: sweep goes lanes := rfl

@[simp] theorem sweep_some (goes : α → Bool) (a : α) (lanes : List (Option α)) :
    sweep goes (some a :: lanes) = (if goes a then none else some a) :: sweep goes lanes := by
  rw [sweep, List.map_cons]
  cases gone : goes a <;> simp [Option.filter, gone, sweep]

theorem sweep_congr {goes goes' : α → Bool} {lanes : List (Option α)}
    (same : ∀ a ∈ lanes.filterMap id, goes a = goes' a) : sweep goes lanes = sweep goes' lanes := by
  refine List.map_congr_left fun lane member => ?_
  cases lane with
  | none => rfl
  | some a => simp only [Option.filter, same a (mem_taken.mpr member)]

theorem sweep_eq_self {goes : α → Bool} {lanes : List (Option α)}
    (stays : ∀ a ∈ lanes.filterMap id, goes a = false) : sweep goes lanes = lanes := by
  rw [sweep_congr stays]
  refine List.map_id'' (fun lane => ?_) lanes
  cases lane <;> rfl

theorem sweep_sweep (goes goes' : α → Bool) (lanes : List (Option α)) :
    sweep goes' (sweep goes lanes) = sweep (fun a => goes a || goes' a) lanes := by
  induction lanes with
  | nil => rfl
  | cons lane lanes ih =>
      cases lane with
      | none => rw [sweep_none, sweep_none, sweep_none, ih]
      | some a => cases first : goes a <;> simp [first, ih]

/-- Sweeping what was renamed. -/
theorem sweep_map {goes : α → Bool} {goes' : β → Bool} {f : α → β} {lanes : List (Option α)}
    (same : ∀ a ∈ lanes.filterMap id, goes' (f a) = goes a) :
    sweep goes' (lanes.map (Option.map f)) = (sweep goes lanes).map (Option.map f) := by
  rw [sweep, sweep, List.map_map, List.map_map]
  refine List.map_congr_left fun lane member => ?_
  cases lane with
  | none => rfl
  | some a =>
      have told := same a (mem_taken.mpr member)
      cases gone : goes a <;> simp [Option.filter, gone, told]

/-- Emptying the lane of a card that stands on no other sweeps the card. -/
theorem set_none_eq_sweep [DecidableEq α] {lanes : List (Option α)} {i : Nat} {c : α}
    (there : lanes[i]? = some (some c)) (once : (lanes.filterMap id).Nodup) :
    lanes.set i none = sweep (fun a => decide (a ∈ [c])) lanes := by
  induction lanes generalizing i with
  | nil => simp at there
  | cons lane lanes ih =>
      cases i with
      | zero =>
          simp only [List.getElem?_cons_zero, Option.some.injEq] at there
          subst there
          have behind : c ∉ lanes.filterMap id := (List.nodup_cons.mp once).1
          have rest : sweep (fun a => decide (a ∈ [c])) lanes = lanes := by
            refine sweep_eq_self fun a stands => decide_eq_false fun same => behind ?_
            exact List.mem_singleton.mp same ▸ stands
          rw [List.set_cons_zero, sweep_some, rest, if_pos (by simp)]
      | succ i =>
          have there' : lanes[i]? = some (some c) := by simpa using there
          cases lane with
          | none => exact congrArg (none :: ·) (ih there' once)
          | some d =>
              obtain ⟨before, once'⟩ := List.nodup_cons.mp once
              have other : d ≠ c := fun same =>
                before (same ▸ mem_taken.mpr (List.mem_of_getElem? there'))
              rw [List.set_cons_succ, ih there' once', sweep_some, if_neg (by simpa using other)]

end Effect

/-! ## Retiring cards -/

namespace Player

variable {ν α : Type} [DecidableEq α]

/-- A player without some cards on the lanes. -/
def without (gone : List α) (p : Player ν α) : Player ν α :=
  { p with battlefield := Effect.sweep (fun a => decide (a ∈ gone)) p.battlefield }

theorem fieldCards_without (gone : List α) (p : Player ν α) :
    (p.without gone).fieldCards = p.fieldCards.filter fun a => a ∉ gone := by
  rw [fieldCards, without, Table.taken_sweep]
  simp only [fieldCards, decide_not]

theorem without_eq_self {gone : List α} {p : Player ν α}
    (stay : ∀ a ∈ p.fieldCards, a ∉ gone) : p.without gone = p := by
  rw [without, Effect.sweep_eq_self fun a stands => decide_eq_false (stay a stands)]

theorem without_singleton {p : Player ν α} {i : Nat} {c : α}
    (there : p.battlefield[i]? = some (some c)) (once : p.fieldCards.Nodup) :
    { p with battlefield := p.battlefield.set i none } = p.without [c] := by
  rw [without, Effect.set_none_eq_sweep there once]

theorem without_filter (goes : α → Bool) (p : Player ν α) :
    { p with battlefield := Effect.sweep goes p.battlefield }
      = p.without (p.fieldCards.filter goes) := by
  have same : ∀ a ∈ p.battlefield.filterMap id,
      goes a = decide (a ∈ p.fieldCards.filter goes) := by
    intro a stands
    simp only [fieldCards, List.mem_filter, stands, true_and, Bool.decide_eq_true]
  rw [without, Effect.sweep_congr same]

end Player

namespace Table

variable {ν σ α β : Type}

/-- A table with some cards off the lanes and on top of the discard pile. -/
def retire [DecidableEq α] (gone : List α) (t : Table ν σ α) : Table ν σ α where
  red := t.red.without gone
  blue := t.blue.without gone
  deck := t.deck
  miracleDeck := t.miracleDeck
  discardPile := t.discardPile ++ gone
  signals := t.signals

section Retire

variable [DecidableEq α]

@[simp] theorem player_retire (gone : List α) (t : Table ν σ α) (s : Side) :
    (t.retire gone).player s = (t.player s).without gone := by cases s <;> rfl

theorem retire_nil (t : Table ν σ α) : t.retire [] = t := by
  refine ext_players (fun s => ?_) rfl rfl (List.append_nil _) rfl
  rw [player_retire, Player.without_eq_self fun _ _ => List.not_mem_nil]

theorem retire_retire (gone gone' : List α) (t : Table ν σ α) :
    (t.retire gone).retire gone' = t.retire (gone ++ gone') := by
  refine ext_players (fun s => ?_) rfl rfl (List.append_assoc _ _ _) rfl
  simp only [player_retire, Player.without, Effect.sweep_sweep, List.mem_append, Bool.decide_or]

theorem fieldCards_retire (gone : List α) (t : Table ν σ α) (sides : List Side) :
    (t.retire gone).fieldCards sides = (t.fieldCards sides).filter fun a => a ∉ gone := by
  simp only [fieldCards, player_retire, Player.fieldCards_without, List.filter_flatMap]

theorem fieldCards_retire_filter (t : Table ν σ α) (sides : List Side) (goes : α → Bool) :
    (t.retire ((t.fieldCards sides).filter goes)).fieldCards sides
      = (t.fieldCards sides).filter fun a => !goes a := by
  rw [fieldCards_retire]
  refine List.filter_congr fun a stands => ?_
  simp only [List.mem_filter, stands, true_and, decide_not, Bool.decide_eq_true]

/-- Retired from a table of names read as cards, cards are those of retired names, if no
two cards on the lanes are the same. -/
theorem retire_map [DecidableEq β] {f : α → β} {gone : List α} {t : Table ν σ α}
    (apart : ∀ s, ∀ a ∈ (t.player s).fieldCards, f a ∈ gone.map f → a ∈ gone) :
    (t.retire gone).map f = (t.map f).retire (gone.map f) := by
  refine ext_players (fun s => ?_) rfl rfl List.map_append rfl
  rw [player_map, player_retire, player_retire, player_map]
  simp only [Player.map, Player.without]
  rw [Effect.sweep_map fun a stands => ?_]
  exact decide_eq_decide.mpr ⟨apart s a stands, fun member => List.mem_map_of_mem member⟩

section Lanes

variable {t : Table ν σ α} (once : (t.fieldCards Side.both).Nodup)
include once

/-- A change of one side that takes cards of that side off its lanes. -/
theorem modifyPlayer_discard_eq {side : Side} {leave : Player ν α → Player ν α} {gone : List α}
    (own : ∀ a ∈ gone, a ∈ (t.player side).fieldCards)
    (left : leave (t.player side) = (t.player side).without gone) :
    (t.modifyPlayer side leave).discard gone = t.retire gone := by
  obtain ⟨-, -, apart⟩ := List.nodup_append.mp ((t.fieldCards_both_perm side).nodup_iff.mp once)
  have other : (t.player side.opponent).without gone = t.player side.opponent :=
    Player.without_eq_self fun a stands goes => apart a (own a goes) a stands rfl
  refine ext_players ?_ ?_ ?_ ?_ ?_
  · rw [Side.forall_iff side]
    simp [discard, left, other]
  all_goals simp [discard, retire]

/-- Emptying the lane of one card. -/
theorem clearLane_discard_eq {slot : Slot} {c : α} (onField : slot.zone = .battlefield)
    (there : t.cardAt slot = some c) :
    (t.clearLane slot.side slot.index).discard [c] = t.retire [c] := by
  rw [cardAt, Option.join_eq_some_iff, onField] at there
  obtain ⟨here, -⟩ :=
    List.nodup_append.mp ((t.fieldCards_both_perm slot.side).nodup_iff.mp once)
  refine modifyPlayer_discard_eq once ?_ (Player.without_singleton there here)
  intro a member
  exact List.mem_singleton.mp member ▸ mem_taken.mpr (List.mem_of_getElem? there)

/-- Sweeping the lanes of one side. -/
theorem sweepSide_discard_eq (side : Side) (goes : α → Bool) :
    (t.modifyPlayer side fun p => { p with battlefield := Effect.sweep goes p.battlefield }).discard
        ((t.player side).fieldCards.filter goes)
      = t.retire ((t.player side).fieldCards.filter goes) :=
  modifyPlayer_discard_eq once (fun _ gone => (List.mem_filter.mp gone).1)
    (Player.without_filter goes _)

end Lanes

end Retire

end Table

namespace Table

variable {ν σ α : Type}

/-- The lanes of a scope are some of all lanes, in their order. -/
theorem fieldCards_sides_sublist (t : Table ν σ α) (acting : Side) (scope : Scope) :
    (t.fieldCards (scope.sides acting)).Sublist (t.fieldCards Side.both) := by
  rw [Scope.sides_eq_filter]
  exact List.filter_sublist.flatMap _

end Table

/-! ## Runs -/

namespace Run

variable {ρ : Type}

/-- No two cards on the lanes share an instance id. -/
def FieldDistinct (r : Run ρ) : Prop :=
  ((r.table.fieldCards Side.both).map fun o => (r.cards o).instanceId).Nodup

theorem fieldDistinct_iff (r : Run ρ) :
    r.FieldDistinct ↔ ((r.snapshot.fieldCards Side.both).map (·.instanceId)).Nodup := by
  rw [snapshot, Table.fieldCards_map, List.map_map]
  rfl

/-- The cards on the lanes with the instance id of a card. -/
def namesakes (r : Run ρ) (o : Origin) : List Origin :=
  (r.table.fieldCards Side.both).filter fun x => (r.cards x).instanceId == (r.cards o).instanceId

namespace FieldDistinct

variable {r r' : Run ρ} (h : r.FieldDistinct)
include h

theorem nodup : (r.table.fieldCards Side.both).Nodup := List.Nodup.of_map _ h

theorem eq_of_id {x y : Origin} (hx : x ∈ r.table.fieldCards Side.both)
    (hy : y ∈ r.table.fieldCards Side.both)
    (same : (r.cards x).instanceId = (r.cards y).instanceId) : x = y :=
  List.inj_on_of_nodup_map h hx hy same

/-- A card on the lanes has no namesake but itself. -/
theorem namesakes_eq {o : Origin} (onField : o ∈ r.table.fieldCards Side.both) :
    r.namesakes o = [o] := by
  refine List.perm_singleton.mp
    ((List.perm_ext_iff_of_nodup (h.nodup.filter _) (List.nodup_singleton o)).mpr fun x => ?_)
  rw [List.mem_filter, List.mem_singleton, beq_iff_eq]
  constructor
  · rintro ⟨stands, same⟩
    exact h.eq_of_id stands onField same
  · rintro rfl
    exact ⟨onField, rfl⟩

/-- Cards retired leave the rest distinct. -/
theorem retire {gone : List Origin} (table : r'.table = r.table.retire gone)
    (cards : r'.cards = r.cards) : r'.FieldDistinct := by
  rw [FieldDistinct, table, cards, Table.fieldCards_retire]
  exact (List.filter_sublist.map _).nodup h

/-- The state after some cards on the lanes were retired. -/
theorem snapshot_retire {gone : List Origin}
    (onField : ∀ o ∈ gone, o ∈ r.table.fieldCards Side.both)
    (table : r'.table = r.table.retire gone) (cards : r'.cards = r.cards) :
    r'.snapshot = r.snapshot.retire (gone.map r.cards) := by
  rw [snapshot, snapshot, table, cards, Table.retire_map]
  intro s a stands member
  obtain ⟨o, goes, same⟩ := List.mem_map.mp member
  have there : a ∈ r.table.fieldCards Side.both :=
    List.mem_flatMap.mpr ⟨s, Side.mem_both s, stands⟩
  rw [h.eq_of_id there (onField o goes) (by rw [same])]
  exact goes

end FieldDistinct

end Run

namespace Effect

variable {ρ : Type}

/-- One step of killing retires the card on the lanes with the id asked for, if there is
one. -/
theorem killOne_table {r : Run ρ} (distinct : r.FieldDistinct) (o : Origin) :
    (killOne r o).table = r.table.retire (r.namesakes o) := by
  unfold killOne
  simp only
  split
  · rename_i missing
    have nobody : r.namesakes o = [] := by
      refine List.filter_eq_nil_iff.mpr fun x stands => ?_
      obtain ⟨slot, zone, there⟩ := Table.mem_fieldCards_both.mp stands
      rw [Table.locate_eq_none_iff.mp missing slot x (List.mem_singleton.mpr zone) there]
      exact Bool.false_ne_true
    rw [nobody, Table.retire_nil]
    rfl
  · rename_i slot located
    obtain ⟨zone, found, there, hit⟩ := Table.locate_eq_some located
    rw [List.mem_singleton] at zone
    have stands : found ∈ r.table.fieldCards Side.both :=
      Table.mem_fieldCards_both.mpr ⟨slot, zone, there⟩
    have only : r.namesakes o = [found] := by
      rw [← distinct.namesakes_eq stands, Run.namesakes, Run.namesakes, beq_iff_eq.mp hit]
    simp only [there, only]
    exact Table.clearLane_discard_eq distinct.nodup zone there

/-- Killing cards of the lanes one by one retires them in their order. -/
theorem foldl_killOne_table {r : Run ρ} (distinct : r.FieldDistinct) {os : List Origin}
    (once : os.Nodup) (onField : ∀ o ∈ os, o ∈ r.table.fieldCards Side.both) :
    (os.foldl killOne r).table = r.table.retire os := by
  induction os generalizing r with
  | nil => exact (Table.retire_nil r.table).symm
  | cons o os ih =>
      obtain ⟨fresh, once⟩ := List.nodup_cons.mp once
      have first : (killOne r o).table = r.table.retire [o] := by
        rw [killOne_table distinct, distinct.namesakes_eq (onField o List.mem_cons_self)]
      have stand : ∀ x ∈ os, x ∈ (killOne r o).table.fieldCards Side.both := by
        intro x later
        rw [first, Table.fieldCards_retire, List.mem_filter]
        have other : x ≠ o := fun same => fresh (same ▸ later)
        exact ⟨onField x (List.mem_cons_of_mem o later), by simpa using other⟩
      have rest := ih (distinct.retire first (killOne_cards r o)) once stand
      rw [List.foldl_cons, rest, first, Table.retire_retire, List.singleton_append]

/-- Sweeping sides one after another retires what goes of all of them. -/
theorem foldl_clearSide_table (except : Option (List String)) {r : Run ρ}
    (once : (r.table.fieldCards Side.both).Nodup) {sides : List Side} (apart : sides.Nodup) :
    (sides.foldl (clearSide except) r).table
      = r.table.retire ((r.table.fieldCards sides).filter fun o => !spared except (r.cards o)) := by
  induction sides generalizing r with
  | nil => exact (Table.retire_nil r.table).symm
  | cons s sides ih =>
      obtain ⟨fresh, apart⟩ := List.nodup_cons.mp apart
      have first : (clearSide except r s).table
          = r.table.retire ((r.field s).filter fun o => !spared except (r.cards o)) :=
        Table.sweepSide_discard_eq once s _
      have others : (clearSide except r s).table.fieldCards sides = r.table.fieldCards sides := by
        rw [first, Table.fieldCards_retire]
        refine List.filter_eq_self.mpr fun o stands => decide_eq_true fun gone => ?_
        obtain ⟨s', later, there⟩ := List.mem_flatMap.mp stands
        have opposite : s' = s.opponent :=
          (Side.eq_or_eq_opponent s s').resolve_left fun same => fresh (same ▸ later)
        obtain ⟨-, -, distinct⟩ :=
          List.nodup_append.mp ((r.table.fieldCards_both_perm s).nodup_iff.mp once)
        exact distinct o (List.mem_filter.mp gone).1 o (opposite ▸ there) rfl
      have once' : ((clearSide except r s).table.fieldCards Side.both).Nodup := by
        rw [first, Table.fieldCards_retire]
        exact once.filter _
      rw [List.foldl_cons, ih once' apart, others, first, Table.retire_retire, clearSide_cards]
      simp only [Table.fieldCards, List.flatMap_cons, List.filter_append]
      rfl

theorem kill_cards (f : TargetFilter) (b : Binding) (r : Run ρ) :
    (kill f b r).cards = r.cards :=
  fold_cards killOne_cards (r.tell _) _

theorem clearField_cards (f : Option ClearFieldFilter) (b : Binding) (r : Run ρ) :
    (clearField f b r).cards = r.cards :=
  fold_cards (clearSide_cards _) r _

/-! ## Effects that retire -/

/-- From distinct lanes an effect retires the cards of some sides that have a property, and
changes none. -/
def Retires (sides : List Side) (goes : Card → Bool) (act : Run ρ → Run ρ) : Prop :=
  ∀ r : Run ρ, r.FieldDistinct →
    (act r).table = r.table.retire ((r.table.fieldCards sides).filter fun o => goes (r.cards o)) ∧
      (act r).cards = r.cards

/-- **Killing a scope** retires those of its cards that the filter admits. -/
theorem kill_retires (b : Binding) {f : TargetFilter} {scope : Scope} (plain : f.target = none)
    (player : f.player = some scope) (location : f.location = .battlefield) :
    Retires (ρ := ρ) (scope.sides b.player) f.condition.admits (kill f b) := by
  intro r distinct
  refine ⟨?_, kill_cards f b r⟩
  have found : r.candidates b f = r.table.fieldCards (scope.sides b.player) := by
    rw [Run.candidates, player, location]
    rfl
  have sub := r.table.fieldCards_sides_sublist b.player scope
  rw [kill, (r.targets_plain b plain).1, found]
  refine foldl_killOne_table (r := r.tell _) distinct
    ((sub.nodup distinct.nodup).filter _) fun o slain => ?_
  exact sub.subset (List.mem_filter.mp slain).1

/-- **Clearing a scope** retires those of its cards that are not spared. -/
theorem clearField_retires (b : Binding) (scope : Scope) (except : Option (List String)) :
    Retires (ρ := ρ) (scope.sides b.player) (fun c => !spared except c)
      (clearField (some ⟨scope, except⟩) b) := by
  intro r distinct
  refine ⟨foldl_clearSide_table except distinct.nodup ?_, clearField_cards _ b r⟩
  rw [Scope.sides_eq_filter]
  exact (by decide : Side.both.Nodup).filter _

namespace Retires

variable {sides : List Side} {goes goes' : Card → Bool} {act act' : Run ρ → Run ρ} {r : Run ρ}

theorem fieldDistinct (h : Retires sides goes act) (distinct : r.FieldDistinct) :
    (act r).FieldDistinct :=
  distinct.retire (h r distinct).1 (h r distinct).2

theorem snapshot (h : Retires sides goes act) (distinct : r.FieldDistinct) :
    (act r).snapshot = r.snapshot.retire ((r.snapshot.fieldCards sides).filter goes) := by
  obtain ⟨table, cards⟩ := h r distinct
  have read : (r.snapshot.fieldCards sides).filter goes
      = ((r.table.fieldCards sides).filter fun o => goes (r.cards o)).map r.cards := by
    rw [Run.snapshot, Table.fieldCards_map, List.filter_map]
    rfl
  rw [read]
  refine distinct.snapshot_retire (fun o gone => ?_) table cards
  obtain ⟨s, -, stands⟩ := List.mem_flatMap.mp (List.mem_filter.mp gone).1
  exact List.mem_flatMap.mpr ⟨s, Side.mem_both s, stands⟩

theorem fieldCards (h : Retires sides goes act) (distinct : r.FieldDistinct) :
    (act r).snapshot.fieldCards sides
      = (r.snapshot.fieldCards sides).filter fun c => !goes c := by
  rw [h.snapshot distinct, Table.fieldCards_retire_filter]

/-- Two effects that leave no card between them empty the lanes. -/
theorem fieldCards_eq_nil (h : Retires sides goes act) (h' : Retires sides goes' act')
    (all : ∀ c, goes c = true ∨ goes' c = true) (distinct : r.FieldDistinct) :
    (act' (act r)).snapshot.fieldCards sides = [] := by
  rw [h'.fieldCards (h.fieldDistinct distinct), h.fieldCards distinct, List.filter_filter,
    List.filter_eq_nil_iff]
  intro c _
  rcases all c with gone | gone <;> simp [gone]

end Retires

end Effect

theorem Condition.admits_race {races : List String} (asks : races ≠ []) :
    Condition.admits ⟨some races, none, none⟩ = fun c => c.hasRace races := by
  obtain ⟨n, ns, rfl⟩ := List.exists_cons_of_ne_nil asks
  funext c
  simp [Condition.admits, asked]

theorem Effect.spared_race {races : List String} (asks : races ≠ []) :
    Effect.spared (some races) = fun c => c.hasRace races := by
  obtain ⟨n, ns, rfl⟩ := List.exists_cons_of_ne_nil asks
  rfl

/-- **Two ways to the same removal.**  On lanes without repetition killing a scope and
clearing it leave the same state and tell of as many cards.  The cards of some races that
are killed and those of other races that are cleared part the scope between them, and after
both, in either order, its lanes are empty. -/
theorem Atom.two_removals {ρ : Type} [RandomSource ρ] (b : Binding) (scope : Scope) {r : Run ρ}
    (distinct : ((r.snapshot.fieldCards Side.both).map (·.instanceId)).Nodup) :
    let sides := scope.sides b.player
    let cards := r.snapshot.fieldCards sides
    let kill := fun race (r : Run ρ) =>
      (Atom.killCard ⟨none, some scope, .battlefield, race, none, none⟩).perform b r
    let clear := fun except (r : Run ρ) => (Atom.clearField (some ⟨scope, except⟩)).perform b r
    ((kill none r).snapshot = r.snapshot.retire cards ∧
        (clear none r).snapshot = r.snapshot.retire cards ∧
        (kill none r).tally removalKeys = (clear none r).tally removalKeys) ∧
      ∀ races, races ≠ [] →
        let slain := cards.filter fun c => c.hasRace races
        let swept := cards.filter fun c => !c.hasRace races
        (kill (some races) r).snapshot = r.snapshot.retire slain ∧
          (clear (some races) r).snapshot = r.snapshot.retire swept ∧
          (slain ++ swept).Perm cards ∧ slain.Disjoint swept ∧
          (clear (some races) (kill (some races) r)).snapshot.fieldCards sides = [] ∧
          (kill (some races) (clear (some races) r)).snapshot.fieldCards sides = [] := by
  intro sides cards kill clear
  have apart : r.FieldDistinct := r.fieldDistinct_iff.mpr distinct
  have kills : ∀ race,
      Effect.Retires sides (Condition.admits ⟨race, none, none⟩) (kill race) := fun race =>
    Effect.kill_retires b (f := ⟨none, some scope, .battlefield, race, none, none⟩) rfl rfl rfl
  have clears : ∀ except,
      Effect.Retires sides (fun c => !Effect.spared except c) (clear except) := fun except =>
    Effect.clearField_retires b scope except
  constructor
  · have everyone : r.snapshot.retire (cards.filter fun _ => true) = r.snapshot.retire cards := by
      rw [List.filter_eq_self.mpr fun _ _ => rfl]
    have same : (kill none r).table = (clear none r).table :=
      (kills none r apart).1.trans (clears none r apart).1.symm
    exact ⟨((kills none).snapshot apart).trans everyone,
      ((clears none).snapshot apart).trans everyone,
      Run.Balances.tally_congr (Atom.perform_balances b r _) (Atom.perform_balances b r _) same⟩
  · intro races asks slain swept
    have kills := kills (some races)
    have clears := clears (some races)
    rw [Condition.admits_race asks] at kills
    rw [Effect.spared_race asks] at clears
    have everyone : ∀ c : Card, c.hasRace races = true ∨ (!c.hasRace races) = true := by
      intro c
      cases c.hasRace races <;> simp
    refine ⟨kills.snapshot apart, clears.snapshot apart, List.filter_append_perm _ cards, ?_,
      kills.fieldCards_eq_nil clears everyone apart,
      clears.fieldCards_eq_nil kills (fun c => (everyone c).symm) apart⟩
    intro c killed cleared
    have has := (List.mem_filter.mp killed).2
    have lacks := (List.mem_filter.mp cleared).2
    simp [has] at lacks

namespace Example

open Engine

/-- In the lair the monster is killed or the knight cleared; the discard pile gets both, the
one that left first below. -/
theorem lair_emptied :
    let omen : Invocation := ⟨.red, card "omen" .miracle, none⟩
    let r := begin lair omen (Lcg.ofSeed 7)
    let b := bind lair omen
    let kill := (Atom.killCard ⟨none, some .both, .battlefield, some ["怪物"], none, none⟩).perform b
    let clear := (Atom.clearField (some ⟨.both, some ["怪物"]⟩)).perform b
    ((r.snapshot.fieldCards Side.both).map (·.instanceId)).Nodup ∧
      ((clear (kill r)).snapshot.fieldCards Side.both = [] ∧
        (kill (clear r)).snapshot.fieldCards Side.both = []) ∧
      (clear (kill r)).snapshot.discardPile.map (·.instanceId) = ["ghost", "ogre", "knight"] ∧
      (kill (clear r)).snapshot.discardPile.map (·.instanceId) = ["ghost", "knight", "ogre"] := by
  intro omen r b kill clear
  have distinct : ((r.snapshot.fieldCards Side.both).map (·.instanceId)).Nodup := by decide
  obtain ⟨-, races⟩ := Atom.two_removals b .both distinct
  obtain ⟨-, -, -, -, empty, empty'⟩ := races ["怪物"] (by decide)
  exact ⟨distinct, ⟨empty, empty'⟩, by decide, by decide⟩

end Example

end LaneDuel
