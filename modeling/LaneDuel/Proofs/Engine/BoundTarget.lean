/-
# LaneDuel.Proofs.Engine.BoundTarget -- a target is never lost sight of

A target is bound once, when a chain begins, and named by that binding to the
end.  Whatever the calls of the chain have moved in between -- to the discard
pile, into a hand, through a shuffled deck, to the other side -- the bound card
lies on the table exactly once, and a change aimed at the selected card reaches
that card and no other (`bound_target_written`).
-/
import LaneDuel.Proofs.Engine.Chain

namespace LaneDuel

set_option autoImplicit false

/-- Changing the card with a name changes the card with its instance id. -/
theorem Run.Distinct.snapshot_edit {ρ : Type} {r : Run ρ} (distinct : r.Distinct) {o : Origin}
    (onTable : o ∈ r.table.cards) (change : Card → Card × List Event) :
    (r.edit change o).snapshot = r.snapshot.map fun c =>
      if c.instanceId = (r.cards o).instanceId then (change c).1 else c := by
  rw [snapshot, snapshot, Table.map_map, edit_table]
  apply Table.map_congr
  intro x member
  rw [edit_cards, Function.comp_apply]
  by_cases same : x = o
  · rw [if_pos same, same, if_pos rfl]
  · have other : (r.cards x).instanceId ≠ (r.cards o).instanceId :=
      fun ids => same (distinct.eq_of_id member onTable ids)
    rw [if_neg same, if_neg other]

/-- A filter for the selected card reaches the bound target alone. -/
theorem Run.reach_selected {ρ : Type} (r : Run ρ) {b : Binding} {f : TargetFilter} {o : Origin}
    (selected : f.target = some .selected) (bound : b.target = some o)
    (change : Card → Card × List Event) : r.reach b f change = r.edit change o := by
  have targets : r.targets b f = ([o], []) := by
    rw [Run.targets, selected, bound]
    rfl
  have silent : r.tell [] = r := by
    rw [Run.tell, List.append_nil]
  rw [Run.reach, targets, silent]
  rfl

namespace Engine

variable {ρ : Type} [RandomSource ρ] [LawfulRandomSource ρ]

/-- **No write through the bound target is lost.**  After any calls of a chain the
target is on the table once, and a next call that changes the selected card makes its
own change, the same wherever the card lies, to the one card with the target's id. -/
theorem bound_target_written (library : Library) (cardId : Int) (inv : Invocation) {s : State}
    (distinct : s.instanceIds.Nodup) {t : Card} {o : Origin} (given : inv.target = some t)
    (found : bindTarget s t = some o) (source : ρ) (calls : List Call) :
    let r := chain library cardId inv s source calls
    (bind s inv).target = some o ∧ r.table.cards.count o = 1 ∧
      (r.cards o).instanceId = t.instanceId ∧ r.snapshot.instanceIds.count t.instanceId = 1 ∧
      ∀ (a : Atom) (f : TargetFilter) (change : Card → Card × List Event),
        library.has a.kind = true → a.edit? = some (f, change) → f.target = some .selected →
          (chain library cardId inv s source (calls ++ [.known a])).snapshot
            = r.snapshot.map fun c => if c.instanceId = t.instanceId then (change c).1 else c := by
  intro r
  have conserved := chain_conserves library cardId inv distinct source calls
  have distinct' : r.Distinct := chain_distinct library cardId inv distinct source calls
  obtain ⟨named, began⟩ := mem_cards_of_bindTarget found inv source
  have bound : (bind s inv).target = some o := by
    change inv.target.bind (bindTarget s) = some o
    rw [given, Option.bind_some, found]
  have onTable : o ∈ r.table.cards := (conserved.mem_cards_iff o).mpr began
  have id_eq : (r.cards o).instanceId = t.instanceId := (conserved.instanceId o).trans named
  have listed : t.instanceId ∈ r.snapshot.instanceIds := by
    rw [State.instanceIds, Run.snapshot, Table.cards_map, List.map_map, List.mem_map]
    exact ⟨o, onTable, id_eq⟩
  refine ⟨bound, ?_, id_eq, ?_, ?_⟩
  · exact List.count_eq_one_of_mem distinct'.nodup onTable
  · exact List.count_eq_one_of_mem ((Run.distinct_iff r).mp distinct') listed
  · intro a f change known edits selected
    obtain ⟨name, step⟩ := chain_snoc library cardId inv s source calls known
    -- telling of the step moves and changes nothing
    have told : (r.tell [.trace (.step cardId calls.length name)]).Distinct := distinct'
    rw [step, Atom.perform_of_edit? edits, Run.reach_selected _ selected bound,
      told.snapshot_edit onTable]
    change r.snapshot.map _ = _
    rw [Run.tell_cards, id_eq]

end Engine

namespace Example

open Engine

/-- The ogre is killed, taken up by red and shuffled away. -/
def removal : List Call :=
  [.known (.killCard selected), .known (.drawFromDiscard 1), .known .discardAndRedraw]

theorem ogre_written :
    let inv : Invocation := ⟨.red, card "squire" .battlefield, some (card "ogre" .battlefield)⟩
    let r := chain .standard 1 inv duel (Lcg.ofSeed 7) removal
    bindTarget duel (card "ogre" .battlefield) = some (.slot ⟨.blue, .battlefield, 1⟩) ∧
      r.table.cards.count (.slot ⟨.blue, .battlefield, 1⟩) = 1 ∧
      (chain .standard 1 inv duel (Lcg.ofSeed 7)
          (removal ++ [.known (.modifyHp 2 selected none)])).snapshot
        = r.snapshot.map fun c =>
          if c.instanceId = "ogre" then (Effect.changeHp 2 none c).1 else c := by
  have found : bindTarget duel (card "ogre" .battlefield) = some (.slot ⟨.blue, .battlefield, 1⟩) :=
    by decide
  have written := bound_target_written .standard 1
    ⟨.red, card "squire" .battlefield, some (card "ogre" .battlefield)⟩
    (by decide) rfl found (Lcg.ofSeed 7) removal
  obtain ⟨-, once, -, -, change⟩ := written
  exact ⟨found, once, change (.modifyHp 2 selected none) selected _ (by decide) rfl rfl⟩

end Example

end LaneDuel
