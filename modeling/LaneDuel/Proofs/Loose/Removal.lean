/-
# LaneDuel.Proofs.Loose.Removal -- typed cards leaving the lanes

A loose effect takes cards off one by one.  For `kill` this is what the checked one
does.  For `clearField` the checked one sweeps a whole battlefield at once; going lane by
lane comes to the same (`clearLanes_eq`), because what is swept already stays swept and
no card changes on the way.
-/
import LaneDuel.Proofs.Loose.Targets

namespace LaneDuel

set_option autoImplicit false

variable {ρ : Type}

namespace Loose

theorem Board.loosen_removal {α : Type} (t : Table Int LaneDuel.Signals α) (s : Side) (index : Nat)
    (a : α) : ((loosen t).clearLane s index).discard [a]
      = loosen ((t.clearLane s index).discard [a]) := by
  cases s <;> rfl

end Loose

/-! ## Lane by lane -/

namespace Effect

variable {ρ : Type} (except : Option (List String)) (side : Side)

/-- Clear one lane, unless its card is spared. -/
def clearLane (r : Run ρ) : Option Origin × Nat → Run ρ
  | (none, _) => r
  | (some o, index) =>
    if spared except (r.cards o) then r
    else
      (r.modifyTable fun t => (t.clearLane side index).discard [o]).notice
        (.cardCleared (r.cards o).name)

/-- Sweep the lanes after some that were swept before. -/
def clearRest (swept lanes : List (Option Origin)) (r : Run ρ) : Run ρ :=
  let goes := fun o => !spared except (r.cards o)
  let gone := (lanes.filterMap id).filter goes
  ((r.modifyPlayer side fun p => { p with battlefield := swept ++ sweep goes lanes }).modifyTable
    fun t => t.discard gone).tell (gone.map fun o => .notice (.cardCleared (r.cards o).name))

section Step

variable {r : Run ρ} {o : Origin} {swept lanes : List (Option Origin)}

theorem clearRest_nil (there : (r.player side).battlefield = swept) :
    clearRest except side swept [] r = r := by
  obtain ⟨table, cards, source, log⟩ := r
  subst there
  cases side <;>
    simp [clearRest, sweep, Run.modifyTable, Run.tell, Table.discard, Table.modifyPlayer,
      Table.setPlayer, Table.player]

theorem clearRest_none :
    clearRest except side swept (none :: lanes) r
      = clearRest except side (swept ++ [none]) lanes r := by
  simp only [clearRest, sweep, List.append_assoc]
  rfl

theorem clearRest_spared (stays : spared except (r.cards o) = true) :
    clearRest except side swept (some o :: lanes) r
      = clearRest except side (swept ++ [some o]) lanes r := by
  have kept : sweep (fun o => !spared except (r.cards o)) (some o :: lanes)
      = some o :: sweep (fun o => !spared except (r.cards o)) lanes := by
    simp only [sweep, List.map_cons, Option.filter_some, stays, Bool.not_true, Bool.not_false,
      if_true]
  have gone : ((some o :: lanes).filterMap id).filter (fun o => !spared except (r.cards o))
      = (lanes.filterMap id).filter fun o => !spared except (r.cards o) :=
    List.filter_cons_of_neg (by simp only [stays, Bool.not_true, Bool.false_eq_true,
      not_false_iff])
  simp only [clearRest, kept, gone, List.append_assoc, List.singleton_append]

/-- Sweeping from a lane whose card goes is clearing it and sweeping from the next. -/
theorem clearRest_gone (goes : spared except (r.cards o) = false) :
    clearRest except side swept (some o :: lanes) r
      = clearRest except side (swept ++ [none]) lanes
        ((r.modifyTable fun t => (t.clearLane side swept.length).discard [o]).notice
          (.cardCleared (r.cards o).name)) := by
  have kept : sweep (fun o => !spared except (r.cards o)) (some o :: lanes)
      = none :: sweep (fun o => !spared except (r.cards o)) lanes := by
    simp only [sweep, List.map_cons, Option.filter_some, goes, Bool.not_true, Bool.not_false]
    rfl
  have gone : ((some o :: lanes).filterMap id).filter (fun o => !spared except (r.cards o))
      = o :: (lanes.filterMap id).filter fun o => !spared except (r.cards o) :=
    List.filter_cons_of_pos (by simp only [goes, Bool.not_false])
  simp only [clearRest, kept, gone, List.append_assoc, List.singleton_append]
  cases side <;>
    simp [Run.modifyTable, Run.tell, Table.discard, Table.clearLane, Table.modifyPlayer,
      Table.setPlayer, Table.player]

theorem battlefield_gone (there : (r.player side).battlefield = swept ++ some o :: lanes) :
    (((r.modifyTable fun t => (t.clearLane side swept.length).discard [o]).notice
      (.cardCleared (r.cards o).name)).player side).battlefield = swept ++ [none] ++ lanes := by
  have emptied : ((((r.table.clearLane side swept.length).discard [o]).player side).battlefield)
      = (r.player side).battlefield.set swept.length none := by
    cases side <;> rfl
  rw [List.append_assoc]
  exact emptied.trans (by rw [there, List.set_append_right _ _ (Nat.le_refl _), Nat.sub_self]; rfl)

end Step

/-- Clearing lane by lane sweeps them. -/
theorem clearLanes_eq (lanes swept : List (Option Origin)) (r : Run ρ)
    (there : (r.player side).battlefield = swept ++ lanes) :
    (lanes.zipIdx swept.length).foldl (clearLane except side) r
      = clearRest except side swept lanes r := by
  induction lanes generalizing swept r with
  | nil => exact (clearRest_nil except side (there.trans (List.append_nil swept))).symm
  | cons lane lanes ih =>
      have further : ∀ l : Option Origin, swept ++ l :: lanes = swept ++ [l] ++ lanes :=
        fun l => by rw [List.append_assoc, List.singleton_append]
      have next := fun l => ih (swept ++ [l])
      simp only [List.length_append, List.length_singleton] at next
      rw [List.zipIdx_cons, List.foldl_cons]
      cases lane with
      | none =>
          rw [clearRest_none]
          exact next none r (there.trans (further none))
      | some o =>
          cases stays : spared except (r.cards o) with
          | true =>
              rw [clearLane, if_pos stays, clearRest_spared except side stays]
              exact next (some o) r (there.trans (further (some o)))
          | false =>
              rw [clearLane, if_neg (Bool.eq_false_iff.mp stays), clearRest_gone except side stays]
              exact next none _ (battlefield_gone side there)

theorem clearSide_eq (r : Run ρ) :
    clearSide except r side
      = (r.player side).battlefield.zipIdx.foldl (clearLane except side) r :=
  (clearLanes_eq except side (r.player side).battlefield [] r rfl).symm

end Effect

namespace Loose.Act.Does

variable {r : LaneDuel.Run ρ} (tracing : Bool) (b : Binding)

/-! ## Kills -/

theorem kill (f : TargetFilter) : Does (Act.kill f (.ofBinding tracing b)) r ()
    (Effect.kill f b r) := by
  refine (targets tracing b f).bind ((each Effect.killOne (fun r o _ => ?_) _).bind (pure ()))
  refine (look o).bind ((locate _).bind ?_)
  cases located : r.table.locate (fun x => (r.cards x).instanceId == (r.cards o).instanceId)
      [.battlefield] with
  | none =>
      have missed : Effect.killOne r o = r.trace (.notOnBattlefield (r.cards o).name) := by
        simp only [Effect.killOne, located]
      rw [missed]
      exact (trace tracing b _).bind (pure _)
  | some slot =>
      obtain ⟨-, found, there, -⟩ := Table.locate_eq_some located
      have laid : (Run.ofChecked r).table.cardAt slot = some found :=
        (Board.cardAt_loosen r.table slot).trans there
      have gone : Effect.killOne r o
          = (r.modifyTable fun t => (t.clearLane slot.side slot.index).discard [found]).notice
            (.cardKilled (r.cards found).name) := by
        simp only [Effect.killOne, located, there]
      refine get.bind ?_
      rw [laid, gone]
      refine (modifyTable (g := fun t => (t.clearLane slot.side slot.index).discard [found])
        (Board.loosen_removal r.table slot.side slot.index found)).bind ?_
      exact (look found).bind ((notice tracing b _).bind (pure _))

/-! ## Clearing the field -/

theorem spared (except : Option (List String)) (c : LaneDuel.Card) :
    Act.spared except (.ofChecked c) = .ok (Effect.spared except c) := by
  rw [Act.spared, Effect.spared]
  cases asked except with
  | none => rfl
  | some races => exact hasAnyRace_ofChecked c races

theorem clearField (f : Option ClearFieldFilter) :
    Does (Act.clearField f (.ofBinding tracing b)) r () (Effect.clearField f b r) := by
  refine (each (Effect.clearSide (f.bind (·.exceptRace))) (fun r side _ => ?_) _).bind (pure ())
  rw [Effect.clearSide_eq]
  refine (player side).bind ?_
  refine (each (Effect.clearLane (f.bind (·.exceptRace)) side) (fun r (lane, index) _ => ?_) r).bind
    (pure _)
  cases lane with
  | none => exact pure _
  | some o =>
      refine (look o).bind ((ofExcept (spared _ _)).bind ?_)
      rw [Effect.clearLane]
      cases Effect.spared (f.bind (·.exceptRace)) (r.cards o) with
      | true => exact pure _
      | false =>
          refine (modifyTable (g := fun t => (t.clearLane side index).discard [o])
            (Board.loosen_removal r.table side index o)).bind ?_
          exact (notice tracing b _).bind (pure _)

end Loose.Act.Does

end LaneDuel
