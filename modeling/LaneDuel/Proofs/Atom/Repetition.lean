/-
# LaneDuel.Proofs.Atom.Repetition -- what a second time adds nothing to

Frost, thaw and immunity set a mark whatever it was, so a card that has been visited is a
fixed point of the change (`Effect.Settles`), and the second search finds the cards of the
first.

A search after a removal finds no card that the first one did not (`Run.targets_subset`):
cards only leave the lanes, hands stay, and a target stays bound to the card it names, in
the discard pile or not.  Of whatever was searched for, no namesake is left on the lanes
(`Effect.foldl_killOne_retires`), so there is nothing for a second removal to find.

Only ids on the lanes have to be distinct for this: where two cards on them share one, a
selected card is found twice, and each time another one goes.
-/
import LaneDuel.Proofs.Atom.Amounts
import LaneDuel.Proofs.Atom.Removal

namespace LaneDuel

set_option autoImplicit false

/-! ## Marks -/

namespace Effect

/-- A change that does nothing to a card it has changed. -/
def Settles (change : Card → Card × List Event) : Prop :=
  ∀ c, (change (change c).1).1 = (change c).1

theorem settles_frost (turns : Nat) : Settles (frost turns) := fun _ => rfl

theorem settles_thaw : Settles thaw := by
  intro c
  cases frozen : c.isFrozen with
  | true =>
      have thawed : (thaw c).1 = { c with frozen := 0 } := by rw [thaw, if_pos frozen]
      rw [thawed]
      rfl
  | false =>
      have still : (thaw c).1 = c := by rw [thaw, if_neg (Bool.eq_false_iff.mp frozen)]
      rw [still, still]

theorem settles_shield : Settles shield := fun _ => rfl

/-- Changed a number of times and then as often again. -/
theorem Settles.iterate {change : Card → Card × List Event} (settles : Settles change) (n : Nat)
    (c : Card) :
    (fun d => (change d).1)^[n] ((fun d => (change d).1)^[n] c) = (fun d => (change d).1)^[n] c := by
  cases n with
  | zero => rfl
  | succ n =>
      refine Function.iterate_fixed ?_ (n + 1)
      rw [Function.iterate_succ_apply']
      exact settles _

end Effect

namespace Run

variable {ρ : Type}

theorem reach_twice_cards {change : Card → Card × List Event} (lasts : Effect.Lasts change)
    (settles : Effect.Settles change) (r : Run ρ) (b : Binding) (f : TargetFilter) :
    ((r.reach b f change).reach b f change).cards = (r.reach b f change).cards := by
  funext o
  rw [reach_cards, targets_reach lasts, reach_cards, settles.iterate]

/-! ## Searching after a removal -/

theorem FieldDistinct.findById_eq_some_iff {r : Run ρ} (distinct : r.FieldDistinct) {id : String}
    {o : Origin} :
    r.findById id [.battlefield] = some o ↔
      o ∈ r.table.fieldCards Side.both ∧ (r.cards o).instanceId = id := by
  have sound : ∀ x, r.findById id [.battlefield] = some x →
      x ∈ r.table.fieldCards Side.both ∧ (r.cards x).instanceId = id := by
    intro x found
    obtain ⟨hit, slot, zone, there⟩ := Table.findCard_eq_some found
    exact ⟨Table.mem_fieldCards_both.mpr ⟨slot, List.mem_singleton.mp zone, there⟩,
      beq_iff_eq.mp hit⟩
  refine ⟨sound o, ?_⟩
  rintro ⟨stands, same⟩
  cases found : r.findById id [.battlefield] with
  | some x =>
      obtain ⟨stands', same'⟩ := sound x found
      rw [distinct.eq_of_id stands' stands (same'.trans same.symm)]
  | none =>
      obtain ⟨slot, zone, there⟩ := Table.mem_fieldCards_both.mp stands
      have missed := Table.findCard_eq_none_iff.mp found slot o (List.mem_singleton.mpr zone) there
      exact absurd same (beq_eq_false_iff_ne.mp missed)

section Retired

variable {r r' : Run ρ} {gone : List Origin}

theorem candidates_subset (table : r'.table = r.table.retire gone) (b : Binding)
    (f : TargetFilter) : r'.candidates b f ⊆ r.candidates b f := by
  intro o found
  unfold candidates at found ⊢
  cases player : f.player with
  | none => simp [player] at found
  | some scope =>
      simp only [player, List.mem_flatMap, player_eq, table, Table.player_retire] at found ⊢
      obtain ⟨s, inScope, there⟩ := found
      refine ⟨s, inScope, ?_⟩
      cases location : f.location with
      | battlefield =>
          rw [location] at there
          have kept : o ∈ ((r.table.player s).without gone).fieldCards := there
          rw [Player.fieldCards_without] at kept
          exact (List.mem_filter.mp kept).1
      | hand =>
          rw [location] at there
          exact there

variable (table : r'.table = r.table.retire gone) (cards : r'.cards = r.cards)
include table cards

theorem namesakes_of_retire (o : Origin) :
    r'.namesakes o = (r.namesakes o).filter fun x => x ∉ gone := by
  rw [namesakes, namesakes, table, cards, Table.fieldCards_retire, List.filter_filter,
    List.filter_filter]
  exact List.filter_congr fun _ _ => Bool.and_comm _ _

/-- After cards were retired a search finds some of the cards that it would have found. -/
theorem targets_subset (distinct : r.FieldDistinct) (b : Binding) (f : TargetFilter) :
    (r'.targets b f).1 ⊆ (r.targets b f).1 := by
  cases mode : f.target with
  | none =>
      intro o found
      rw [(targets_plain _ b mode).1, List.mem_filter] at found ⊢
      rw [cards] at found
      exact ⟨candidates_subset table b f found.1, found.2⟩
  | some special =>
      cases special with
      | selected => simp only [targets, mode, List.Subset.refl]
      | own =>
          intro o found
          simp only [targets, mode] at found ⊢
          cases own : r'.findById (r'.cards b.actor).instanceId [.battlefield] with
          | none => simp [own] at found
          | some x =>
              simp only [own, List.mem_singleton] at found
              subst found
              obtain ⟨stands, same⟩ :=
                (distinct.retire table cards).findById_eq_some_iff.mp own
              rw [table, Table.fieldCards_retire] at stands
              rw [cards] at same
              rw [distinct.findById_eq_some_iff.mpr ⟨(List.mem_filter.mp stands).1, same⟩]
              exact List.mem_singleton_self o

end Retired

end Run

/-! ## Removing twice -/

namespace Effect

variable {ρ : Type} {r : Run ρ}

/-- Killing cards by their ids retires some cards, and of every one of them the namesakes. -/
theorem foldl_killOne_retires (distinct : r.FieldDistinct) (os : List Origin) :
    ∃ gone, (os.foldl killOne r).table = r.table.retire gone ∧
      ∀ o ∈ os, (os.foldl killOne r).namesakes o = [] := by
  induction os generalizing r with
  | nil => exact ⟨[], (Table.retire_nil r.table).symm, fun o member => absurd member List.not_mem_nil⟩
  | cons o os ih =>
      have first := killOne_table distinct o
      obtain ⟨gone, rest, none_left⟩ := ih (distinct.retire first (killOne_cards r o))
      refine ⟨r.namesakes o ++ gone, ?_, ?_⟩
      · rw [List.foldl_cons, rest, first, Table.retire_retire]
      · intro x member
        rcases List.mem_cons.mp member with rfl | later
        · have cards : (os.foldl killOne (killOne r x)).cards = r.cards :=
            (fold_cards killOne_cards _ os).trans (killOne_cards r x)
          rw [List.foldl_cons, Run.namesakes_of_retire
            (rest.trans (by rw [first, Table.retire_retire])) cards, List.filter_eq_nil_iff]
          intro y namesake
          simpa using fun absent => absurd namesake absent
        · exact none_left x later

/-- Nothing is killed where no card on the lanes has an id asked for. -/
theorem foldl_killOne_eq (distinct : r.FieldDistinct) {os : List Origin}
    (nobody : ∀ o ∈ os, r.namesakes o = []) : (os.foldl killOne r).table = r.table := by
  induction os generalizing r with
  | nil => rfl
  | cons o os ih =>
      have first : (killOne r o).table = r.table.retire [] := by
        rw [killOne_table distinct, nobody o List.mem_cons_self]
      have cards := killOne_cards r o
      have rest := ih (distinct.retire first cards) fun x later => by
        rw [Run.namesakes_of_retire first cards, nobody x (List.mem_cons_of_mem o later),
          List.filter_nil]
      rw [List.foldl_cons, rest, first, Table.retire_nil]

/-- What is killed once is not there to be killed again. -/
theorem kill_twice_table (distinct : r.FieldDistinct) (f : TargetFilter) (b : Binding) :
    (kill f b (kill f b r)).table = (kill f b r).table := by
  have cards := kill_cards f b r
  obtain ⟨gone, retired, none_left⟩ :=
    foldl_killOne_retires (r := r.tell (r.targets b f).2) distinct (r.targets b f).1
  have table : (kill f b r).table = r.table.retire gone := retired
  have again := Run.targets_subset table cards distinct b f
  exact foldl_killOne_eq (r := (kill f b r).tell _) (distinct.retire table cards)
    fun o found => none_left o (again found)

theorem Retires.twice {sides : List Side} {goes : Card → Bool} {act : Run ρ → Run ρ}
    (h : Retires sides goes act) (distinct : r.FieldDistinct) :
    (act (act r)).table = (act r).table := by
  obtain ⟨table, cards⟩ := h r distinct
  have left : ((act r).table.fieldCards sides).filter (fun o => goes ((act r).cards o)) = [] := by
    rw [table, Table.fieldCards_retire_filter, cards, List.filter_filter, List.filter_eq_nil_iff]
    intro o _
    simp
  rw [(h (act r) (h.fieldDistinct distinct)).1, left, Table.retire_nil]

/-- What is cleared once is not there to be cleared again. -/
theorem clearField_twice_table (distinct : r.FieldDistinct) (f : Option ClearFieldFilter)
    (b : Binding) : (clearField f b (clearField f b r)).table = (clearField f b r).table := by
  cases f with
  | none =>
      have both : Retires (ρ := ρ) Side.both (fun c => !spared none c) (clearField none b) :=
        clearField_retires b .both none
      exact both.twice distinct
  | some f => exact (clearField_retires b f.player f.exceptRace).twice distinct

end Effect

namespace Atom

variable {ρ : Type} [RandomSource ρ]

/-- A change that settles, made of the cards of a filter. -/
theorem edit_twice {a : Atom} {f : TargetFilter} {change : Card → Card × List Event}
    (edits : a.edit? = some (f, change)) (settles : Effect.Settles change) (b : Binding)
    (r : Run ρ) :
    (a.perform b (a.perform b r)).table = (a.perform b r).table ∧
      (a.perform b (a.perform b r)).cards = (a.perform b r).cards := by
  rw [perform_of_edit? edits, perform_of_edit? edits]
  exact ⟨Run.reach_table _ b f change, r.reach_twice_cards (lasts_of_edit? edits) settles b f⟩

/-- The kinds of atoms that remove cards or set marks. -/
def settling : List AtomKind := [.freeze, .removeDebuffs, .addImmunity, .killCard, .clearField]

theorem settling_twice {a : Atom} (settles : a.kind ∈ settling) (b : Binding) {r : Run ρ}
    (distinct : r.FieldDistinct) :
    (a.perform b (a.perform b r)).table = (a.perform b r).table ∧
      (a.perform b (a.perform b r)).cards = (a.perform b r).cards := by
  cases a with
  | freeze turns f => exact edit_twice rfl (Effect.settles_frost turns) b r
  | removeDebuffs f => exact edit_twice rfl Effect.settles_thaw b r
  | addImmunity f => exact edit_twice rfl Effect.settles_shield b r
  | killCard f =>
      exact ⟨Effect.kill_twice_table distinct f b, Effect.kill_cards f b _⟩
  | clearField f =>
      exact ⟨Effect.clearField_twice_table distinct f b, Effect.clearField_cards f b _⟩
  | _ => simp [kind, settling] at settles

/-- **A second time adds nothing.**  From lanes with distinct ids, whoever acts on whatever
target and with whatever filter: frost, thaw, immunity, killing and clearing done again
leave the state as it was, and tell of no card that has left a lane. -/
theorem performed_twice {a : Atom} (settles : a.kind ∈ settling) (b : Binding) {r : Run ρ}
    (distinct : ((r.snapshot.fieldCards Side.both).map (·.instanceId)).Nodup) :
    let once := a.perform b r
    let twice := a.perform b once
    twice.snapshot = once.snapshot ∧ twice.cards = once.cards ∧
      twice.tally removalKeys = once.tally removalKeys := by
  intro once twice
  obtain ⟨table, cards⟩ := settling_twice settles b (r.fieldDistinct_iff.mpr distinct)
  exact ⟨Run.snapshot_congr table cards, cards,
    Run.Balances.tally_congr (.refl once) (a.perform_balances b once) table⟩

end Atom

namespace Example

open Engine

/-- Red selects the ogre and kills it.  It lies in the discard pile, still selected, and is
not killed again. -/
theorem ogre_killed_once :
    let omen : Invocation := ⟨.red, card "omen" .miracle, some (card "ogre" .battlefield)⟩
    let r := begin duel omen (Lcg.ofSeed 7)
    let kill := (Atom.killCard selected).perform (bind duel omen)
    let ogre := Origin.slot ⟨.blue, .battlefield, 1⟩
    ((r.snapshot.fieldCards Side.both).map (·.instanceId)).Nodup ∧
      (kill r).snapshot.discardPile.map (·.instanceId) = ["ghost", "ogre"] ∧
      ((kill r).targets (bind duel omen) selected).1 = [ogre] ∧
      (kill (kill r)).snapshot = (kill r).snapshot ∧ (kill (kill r)).tally removalKeys = 1 := by
  intro omen r kill ogre
  have distinct : ((r.snapshot.fieldCards Side.both).map (·.instanceId)).Nodup := by decide
  have first : (kill r).tally removalKeys = 1 := by decide
  obtain ⟨still, -, told⟩ := Atom.performed_twice (a := .killCard selected) (by decide)
    (bind duel omen) distinct
  exact ⟨distinct, by decide, by decide, still, told.trans first⟩

end Example

end LaneDuel
