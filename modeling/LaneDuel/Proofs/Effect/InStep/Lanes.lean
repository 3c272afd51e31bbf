/-
# LaneDuel.Proofs.Effect.InStep.Lanes -- emptying and exchanging lanes, in step

Killing, clearing and the exchange of the battlefields keep corresponding runs in
step.  Killing and clearing lay the cards of both sides on one pile, red's first; so
where the sides are crossed they must keep to one side (`Atom.RedFirst`).
-/
import LaneDuel.Proofs.Effect.Moves
import LaneDuel.Proofs.Effect.Target

namespace LaneDuel

set_option autoImplicit false

/-- The atom lays cards of both sides on the discard pile, those of red first. -/
def Atom.RedFirst : Atom → Prop
  | killCard f => f.Spans
  | clearField none => True
  | clearField (some f) => f.player = .both
  | _ => False

open Correspondence (Matches)

namespace Effect

variable {φ : Correspondence} {ρ : Type} {l r : Run ρ} {b : Binding}

/-! ## Leaving the lanes -/

theorem discard_matches (h : φ.Matches l r) {gone : List Origin} (alive : ∀ o ∈ gone, φ.live o) :
    φ.Matches (l.modifyTable fun t => t.discard gone)
      (r.modifyTable fun t => t.discard (gone.map φ.name)) := by
  refine h.piles l.table.deck l.table.miracleDeck (l.table.discardPile ++ gone) rfl ?_
    (h.live_of_pile .deck) (h.live_of_pile .miracleDeck) fun o lies => ?_
  · rw [Table.discard, List.map_append, ← h.deck, ← h.miracleDeck, ← h.discardPile]
  · rcases List.mem_append.mp lies with before | fresh
    · exact h.live_of_pile .discardPile o before
    · exact alive o fresh

/-- New lanes with no new cards on them. -/
theorem lanes_matches (h : φ.Matches l r) {s : Side}
    (lanes lanes' : List (Option Origin) → List (Option Origin))
    (same : lanes' ((l.table.player s).battlefield.map (Option.map φ.name))
      = (lanes (l.table.player s).battlefield).map (Option.map φ.name))
    (alive : ∀ o, some o ∈ lanes (l.table.player s).battlefield → φ.live o) :
    φ.Matches (l.modifyPlayer s fun p => { p with battlefield := lanes p.battlefield })
      (r.modifyPlayer (φ.side s) fun p => { p with battlefield := lanes' p.battlefield }) := by
  refine h.modifyPlayer ?_ ?_
  · simp only [Player.map, same]
  · intro o held
    rcases Player.mem_cards.mp held with onLane | elsewhere
    · exact alive o onLane
    · exact h.live_of_player (Player.mem_cards.mpr (.inr elsewhere))

theorem killOne_matches (h : φ.Matches l r) (distinct : φ.crossed = true → l.Distinct)
    {o : Origin} (alive : φ.live o) : φ.Matches (killOne l o) (killOne r (φ.name o)) := by
  have located := φ.locate_table l.table
    (fun x => (l.cards x).instanceId == (l.cards o).instanceId)
    (fun x => (r.cards x).instanceId == (l.cards o).instanceId)
    (fun x onTable => by rw [h.cards_eq onTable])
    (fun crossed => ⟨(distinct crossed).nodup, (distinct crossed).unique _⟩) [.battlefield]
  unfold killOne
  simp only [h.cards o alive, h.table, located]
  cases l.table.locate (fun x => (l.cards x).instanceId == (l.cards o).instanceId)
      [.battlefield] with
  | none => exact h.tell fun _ => rfl
  | some place =>
      simp only [Option.map_some, φ.cardAt_table]
      cases there : l.table.cardAt place with
      | none => exact h
      | some found =>
          have onTable := Table.mem_cards_of_cardAt there
          simp only [Option.map_some, h.cards_eq onTable, φ.slot_side, φ.slot_index]
          have cleared := lanes_matches h (s := place.side)
            (fun lanes => lanes.set place.index none) (fun lanes => lanes.set place.index none)
            (by simp [List.map_set]) ?_
          · exact (discard_matches cleared (by simpa using h.live found onTable)).tell fun _ => rfl
          · intro x onLane
            rcases List.mem_or_eq_of_mem_set onLane with kept | none_
            · exact h.live_of_player (Player.mem_cards.mpr (.inl kept))
            · cases none_

theorem kill_matches (h : φ.Matches l r) (binds : φ.Binds b)
    (distinct : φ.crossed = true → l.Distinct) {f : TargetFilter}
    (oneSided : φ.crossed = true → ¬ f.Spans) :
    φ.Matches (kill f b l) (kill f (φ.binding b) r) := by
  obtain ⟨alive, -, order, told⟩ := h.targets binds distinct f
  -- the targets were chosen before the first of them is killed
  have all : ∀ (os : List Origin), (∀ o ∈ os, φ.live o) → ∀ l' r' : Run ρ, φ.Matches l' r' →
      (φ.crossed = true → l'.Distinct) →
      φ.Matches (os.foldl killOne l') ((os.map φ.name).foldl killOne r') := by
    intro os
    induction os with
    | nil => exact fun _ _ _ h' _ => h'
    | cons o os ih =>
        intro alive' l' r' h' distinct'
        refine ih (fun x later => alive' x (List.mem_cons_of_mem o later)) _ _
          (killOne_matches h' distinct' (alive' o List.mem_cons_self)) fun crossed => ?_
        exact (killOne_conserves l' o).distinct (distinct' crossed)
  rw [kill, kill, order oneSided]
  exact all _ alive _ _ (h.tell told) distinct

theorem clearSide_matches (h : φ.Matches l r) (except : Option (List String)) (s : Side) :
    φ.Matches (clearSide except l s) (clearSide except r (φ.side s)) := by
  have onField : ∀ o ∈ l.field s, φ.live o := fun o held => h.live_of_field held
  have gone := h.filter (fun c => !spared except c) onField
  have told : ∀ o ∈ (l.field s).filter (fun o => !spared except (l.cards o)), φ.live o :=
    fun o goes => onField o (List.mem_filter.mp goes).1
  unfold clearSide
  simp only [h.field, gone]
  refine Matches.tell (discard_matches (lanes_matches h _ _ ?_ ?_) told) fun _ => ?_
  · rw [sweep, sweep, List.map_map, List.map_map]
    apply List.map_congr_left
    intro lane onLane
    cases lane with
    | none => rfl
    | some o =>
        have same := h.cards o (onField o (mem_taken.mpr onLane))
        simp only [Function.comp_apply, Option.map_some, Option.filter_some, same]
        cases spared except (l.cards o) <;> rfl
  · intro o left
    obtain ⟨lane, onLane, eq⟩ := List.mem_map.mp left
    rw [Option.filter_eq_some_iff] at eq
    rw [eq.1] at onLane
    exact onField o (mem_taken.mpr onLane)
  · rw [List.map_map]
    apply List.map_congr_left
    intro o goes
    rw [Function.comp_apply, h.cards o (told o goes)]

theorem clearField_matches (h : φ.Matches l r) {f : Option ClearFieldFilter}
    (oneSided : φ.crossed = true → ¬ (Atom.clearField f).RedFirst) :
    φ.Matches (clearField f b l) (clearField f (φ.binding b) r) := by
  have all : ∀ (sides : List Side) (except : Option (List String)) (l' r' : Run ρ),
      φ.Matches l' r' →
      φ.Matches (sides.foldl (clearSide except) l')
        ((sides.map φ.side).foldl (clearSide except) r') := by
    intro sides except
    induction sides with
    | nil => exact fun _ _ h' => h'
    | cons s sides ih => exact fun _ _ h' => ih _ _ (clearSide_matches h' except s)
  unfold clearField
  cases f with
  | none =>
      have sides := φ.sides_eq b.player .both fun crossed => (oneSided crossed trivial).elim
      simp only [φ.binding_player, sides]
      exact all _ _ _ _ h
  | some f =>
      have sides := φ.sides_eq b.player f.player oneSided
      simp only [φ.binding_player, sides]
      exact all _ _ _ _ h

theorem swapBattlefields_matches (h : φ.Matches l r) :
    φ.Matches (swapBattlefields b l) (swapBattlefields (φ.binding b) r) := by
  have own := h.player b.player
  have others := h.player b.player.opponent
  unfold swapBattlefields
  simp only [φ.binding_player, φ.binding_opponent, Run.player_eq, Binding.opponent_eq, own, others]
  have alive : ∀ s o, some o ∈ (l.table.player s).battlefield → φ.live o :=
    fun s o onLane => h.live_of_player (Player.mem_cards.mpr (.inl onLane))
  have first := lanes_matches h (s := b.player)
    (fun _ => (l.table.player b.player.opponent).battlefield) (fun _ => _) rfl
    (alive b.player.opponent)
  have second := lanes_matches first (s := b.player.opponent)
    (fun _ => (l.table.player b.player).battlefield) (fun _ => _) rfl (alive b.player)
  exact second.tell fun _ => rfl

end Effect

end LaneDuel
