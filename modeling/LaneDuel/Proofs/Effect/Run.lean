/-
# LaneDuel.Proofs.Effect.Run -- a run after one of its operations

Telling, changing a card and moving cards touch different parts of a run; the
small laws say which.  Two views tie a run to states:

* `snapshot_enter`: a run that has just begun has reached the state it began on.
* `findById_enter`: searching it is searching that state, so the acting card and
  the target are bound to the names of the cards found.

Where a run changes several cards, each once and each in its own way, every one is changed
as it was before all of them, and told of so (`foldl_edit_cards`, `foldl_edit_log`).

`Run.Distinct` says that no two cards of the table share an instance id.  Then a
search by id is told by membership (`Distinct.findById_eq_some_iff`).
-/
import Mathlib.Data.List.Nodup
import LaneDuel.Effect.Target
import LaneDuel.Proofs.Table.Origins

namespace LaneDuel

set_option autoImplicit false

@[simp] theorem Binding.opponent_eq (b : Binding) : b.opponent = b.player.opponent := rfl

namespace Run

variable {ρ : Type}

/-! ## Parts of a run -/

@[simp] theorem notice_eq_tell (r : Run ρ) (n : Notice) : r.notice n = r.tell [.notice n] := rfl

@[simp] theorem trace_eq_tell (r : Run ρ) (t : Trace) : r.trace t = r.tell [.trace t] := rfl

@[simp] theorem tell_table (r : Run ρ) (es : List Event) : (r.tell es).table = r.table := rfl

@[simp] theorem tell_cards (r : Run ρ) (es : List Event) : (r.tell es).cards = r.cards := rfl

@[simp] theorem tell_source (r : Run ρ) (es : List Event) : (r.tell es).source = r.source := rfl

@[simp] theorem tell_log (r : Run ρ) (es : List Event) : (r.tell es).log = r.log ++ es := rfl

@[simp] theorem modifyTable_table (r : Run ρ)
    (f : Table Int Signals Origin → Table Int Signals Origin) :
    (r.modifyTable f).table = f r.table := rfl

@[simp] theorem modifyTable_cards (r : Run ρ)
    (f : Table Int Signals Origin → Table Int Signals Origin) :
    (r.modifyTable f).cards = r.cards := rfl

@[simp] theorem modifyTable_source (r : Run ρ)
    (f : Table Int Signals Origin → Table Int Signals Origin) :
    (r.modifyTable f).source = r.source := rfl

@[simp] theorem modifyTable_log (r : Run ρ)
    (f : Table Int Signals Origin → Table Int Signals Origin) :
    (r.modifyTable f).log = r.log := rfl

@[simp] theorem modifyPlayer_eq (r : Run ρ) (s : Side)
    (f : Player Int Origin → Player Int Origin) :
    r.modifyPlayer s f = r.modifyTable fun t => t.modifyPlayer s f := rfl

@[simp] theorem player_eq (r : Run ρ) (s : Side) : r.player s = r.table.player s := rfl

/-! ## Changing cards -/

section Edits

variable (change : Card → Card × List Event)

@[simp] theorem edit_table (r : Run ρ) (o : Origin) : (r.edit change o).table = r.table := rfl

@[simp] theorem edit_source (r : Run ρ) (o : Origin) : (r.edit change o).source = r.source := rfl

@[simp] theorem edit_log (r : Run ρ) (o : Origin) :
    (r.edit change o).log = r.log ++ (change (r.cards o)).2 := rfl

theorem edit_cards (r : Run ρ) (o x : Origin) :
    (r.edit change o).cards x = if x = o then (change (r.cards o)).1 else r.cards x := rfl

@[simp] theorem visit_table (r : Run ρ) (os : List Origin) :
    (r.visit os change).table = r.table := by
  induction os generalizing r with
  | nil => rfl
  | cons o os ih => exact ih (r.edit change o)

@[simp] theorem visit_source (r : Run ρ) (os : List Origin) :
    (r.visit os change).source = r.source := by
  induction os generalizing r with
  | nil => rfl
  | cons o os ih => exact ih (r.edit change o)

/-- Changing two cards in either order leaves the same cards. -/
theorem edit_cards_comm (r : Run ρ) (o o' : Origin) :
    ((r.edit change o).edit change o').cards = ((r.edit change o').edit change o).cards := by
  funext x
  by_cases eq : o = o'
  · rw [eq]
  · have eq' : o' ≠ o := Ne.symm eq
    simp only [edit_cards, if_neg eq, if_neg eq']
    by_cases atO : x = o
    · subst atO
      simp [eq]
    · simp [atO]

theorem visit_cards_congr {r r' : Run ρ} (same : r'.cards = r.cards) (os : List Origin) :
    (r'.visit os change).cards = (r.visit os change).cards := by
  induction os generalizing r r' with
  | nil => exact same
  | cons o os ih =>
      apply ih
      funext x
      simp only [edit_cards, same]

/-- The order of a visit does not matter to the cards. -/
theorem visit_cards_perm (r : Run ρ) {os os' : List Origin} (same : os'.Perm os) :
    (r.visit os' change).cards = (r.visit os change).cards := by
  induction same generalizing r with
  | nil => rfl
  | cons o _ ih => exact ih (r.edit change o)
  | swap o o' os => exact visit_cards_congr change (edit_cards_comm change r o' o) os
  | trans _ _ first second => exact (first r).trans (second r)

end Edits

/-! ## Changing different cards, each in its own way -/

section Several

variable {α : Type} {change : α → Card → Card × List Event} {name : α → Origin}

@[simp] theorem foldl_edit_table (r : Run ρ) (as : List α) :
    (as.foldl (fun r a => r.edit (change a) (name a)) r).table = r.table := by
  induction as generalizing r with
  | nil => rfl
  | cons a as ih => exact ih _

/-- A card that is not named stays as it is. -/
theorem foldl_edit_cards_of_not_mem (r : Run ρ) {as : List α} {o : Origin}
    (unnamed : o ∉ as.map name) :
    (as.foldl (fun r a => r.edit (change a) (name a)) r).cards o = r.cards o := by
  induction as generalizing r with
  | nil => rfl
  | cons a as ih =>
      rw [List.map_cons, List.mem_cons, not_or] at unnamed
      obtain ⟨other, later⟩ := unnamed
      have first := edit_cards (change a) r (name a) o
      rw [if_neg other] at first
      exact (ih _ later).trans first

/-- A card that is named once is changed in its own way. -/
theorem foldl_edit_cards (r : Run ρ) {as : List α} (once : (as.map name).Nodup) {a : α}
    (member : a ∈ as) :
    (as.foldl (fun r a => r.edit (change a) (name a)) r).cards (name a)
      = (change a (r.cards (name a))).1 := by
  induction as generalizing r with
  | nil => cases member
  | cons first as ih =>
      obtain ⟨fresh, later⟩ := List.nodup_cons.mp once
      rcases List.mem_cons.mp member with rfl | behind
      · refine (foldl_edit_cards_of_not_mem _ fresh).trans ?_
        rw [edit_cards, if_pos rfl]
      · have other : name a ≠ name first := fun same =>
          fresh (same ▸ List.mem_map_of_mem behind)
        have rest := ih (r.edit (change first) (name first)) later behind
        rw [edit_cards, if_neg other] at rest
        exact rest

/-- Each change tells of the card as it was before all of them. -/
theorem foldl_edit_log (r : Run ρ) {as : List α} (once : (as.map name).Nodup) :
    (as.foldl (fun r a => r.edit (change a) (name a)) r).log
      = r.log ++ as.flatMap fun a => (change a (r.cards (name a))).2 := by
  induction as generalizing r with
  | nil => simp
  | cons first as ih =>
      obtain ⟨fresh, later⟩ := List.nodup_cons.mp once
      have same : ∀ a ∈ as, (r.edit (change first) (name first)).cards (name a)
          = r.cards (name a) := by
        intro a member
        have other : name a ≠ name first := fun same =>
          fresh (same ▸ List.mem_map_of_mem member)
        rw [edit_cards, if_neg other]
      have told : (as.flatMap fun a =>
            (change a ((r.edit (change first) (name first)).cards (name a))).2)
          = as.flatMap fun a => (change a (r.cards (name a))).2 :=
        List.flatMap_congr fun a member => by rw [same a member]
      have rest := ih (r.edit (change first) (name first)) later
      rw [told, edit_log, List.append_assoc] at rest
      exact rest

end Several

/-! ## Changing the cards of a filter -/

@[simp] theorem reach_table (r : Run ρ) (b : Binding) (f : TargetFilter)
    (change : Card → Card × List Event) : (r.reach b f change).table = r.table := by
  simp [reach]

@[simp] theorem reach_source (r : Run ρ) (b : Binding) (f : TargetFilter)
    (change : Card → Card × List Event) : (r.reach b f change).source = r.source := by
  simp [reach]

/-! ## The state reached -/

theorem snapshot_congr {r r' : Run ρ} (table : r'.table = r.table) (cards : r'.cards = r.cards) :
    r'.snapshot = r.snapshot := by
  rw [snapshot, snapshot, table, cards]

theorem hand_snapshot (r : Run ρ) (s : Side) :
    (r.snapshot.player s).hand = (r.table.player s).hand.map r.cards := by
  rw [snapshot, Table.player_map]
  rfl

theorem battlefield_snapshot (r : Run ρ) (s : Side) :
    (r.snapshot.player s).battlefield = (r.table.player s).battlefield.map (Option.map r.cards) := by
  rw [snapshot, Table.player_map]
  rfl

theorem fieldCards_snapshot (r : Run ρ) (s : Side) :
    (r.snapshot.player s).fieldCards = (r.field s).map r.cards := by
  rw [snapshot, Table.player_map, Player.fieldCards_map]
  rfl

/-! ## Beginning -/

@[simp] theorem snapshot_enter (s : State) (actor target : Card) (source : ρ) :
    (enter s actor target source).snapshot = s :=
  Table.origins_map_cardOf s actor target

theorem locate_snapshot (r : Run ρ) (id : String) (zones : List Zone) :
    State.locate r.snapshot id zones
      = r.table.locate (fun o => (r.cards o).instanceId == id) zones :=
  Table.locate_map r.cards r.table _ zones

theorem findById_enter (s : State) (actor target : Card) (source : ρ) (id : String)
    (zones : List Zone) :
    (enter s actor target source).findById id zones = (State.locate s id zones).map .slot := by
  have located := locate_snapshot (enter s actor target source) id zones
  rw [snapshot_enter] at located
  rw [findById, Table.findCard, ← located]
  cases found : State.locate s id zones with
  | none => rfl
  | some slot =>
      obtain ⟨-, c, there, -⟩ := Table.locate_eq_some found
      change (Table.origins s).cardAt slot = some (.slot slot)
      rw [Table.cardAt_origins, there, Option.map_some]

/-- A card found by its id lies on the table. -/
theorem findById_eq_some {r : Run ρ} {id : String} {zones : List Zone} {o : Origin}
    (found : r.findById id zones = some o) :
    (r.cards o).instanceId = id ∧ o ∈ r.table.cards := by
  obtain ⟨hit, slot, -, there⟩ := Table.findCard_eq_some found
  exact ⟨beq_iff_eq.mp hit, Table.mem_cards_of_cardAt there⟩

/-! ## Distinct instance ids -/

/-- No two cards of the table share an instance id. -/
def Distinct (r : Run ρ) : Prop := (r.table.cards.map fun o => (r.cards o).instanceId).Nodup

theorem distinct_iff (r : Run ρ) : r.Distinct ↔ (State.instanceIds r.snapshot).Nodup := by
  rw [State.instanceIds, snapshot, Table.cards_map, List.map_map]
  rfl

theorem distinct_enter {s : State} (distinct : s.instanceIds.Nodup) (actor target : Card)
    (source : ρ) : (enter s actor target source).Distinct := by
  rw [distinct_iff, snapshot_enter]
  exact distinct

namespace Distinct

variable {r : Run ρ}

theorem nodup (h : r.Distinct) : r.table.cards.Nodup := List.Nodup.of_map _ h

theorem eq_of_id (h : r.Distinct) {a b : Origin} (ha : a ∈ r.table.cards)
    (hb : b ∈ r.table.cards) (same : (r.cards a).instanceId = (r.cards b).instanceId) : a = b :=
  List.inj_on_of_nodup_map h ha hb same

/-- Only one card of the table passes the test for an id. -/
theorem unique (h : r.Distinct) (id : String) : ∀ a ∈ r.table.cards, ∀ b ∈ r.table.cards,
    ((r.cards a).instanceId == id) = true → ((r.cards b).instanceId == id) = true → a = b := by
  intro a ha b hb hitA hitB
  exact h.eq_of_id ha hb ((beq_iff_eq.mp hitA).trans (beq_iff_eq.mp hitB).symm)

theorem findById_eq_some_iff (h : r.Distinct) {id : String} {zones : List Zone} {o : Origin} :
    r.findById id zones = some o ↔
      (r.cards o).instanceId = id ∧
        ∃ slot, slot.zone ∈ zones ∧ r.table.cardAt slot = some o := by
  rw [findById, Table.findCard_eq_some_iff (h.unique id), beq_iff_eq]

end Distinct

end Run

end LaneDuel
