/-
# LaneDuel.Proofs.Loose.Targets -- reaching typed cards

On a typed run a loose search finds and tells of the same cards as the checked one
(`targets`), in the same order.  The search has join points for what is not asked for;
`search` is the same search with one narrowing after the other.

`reach` is the law of effects on cards: where the body of a loop makes one edit, the loop
is the checked visit.
-/
import LaneDuel.Proofs.Loose.Does

namespace LaneDuel

set_option autoImplicit false

variable {ρ : Type}

/-! ## Edits as writes -/

namespace Run

variable {r : Run ρ} {o : Origin}

theorem put_put (r : Run ρ) (o : Origin) (c d : Card) : (r.put o c).put o d = r.put o d := by
  have cards : ((r.put o c).put o d).cards = (r.put o d).cards := by
    funext x
    by_cases here : x = o
    · simp only [put, if_pos here]
    · simp only [put, if_neg here]
  exact congrArg (fun cards => (⟨r.table, cards, r.source, r.log⟩ : Run ρ)) cards

theorem put_cards_self (r : Run ρ) (o : Origin) (c : Card) : (r.put o c).cards o = c := if_pos rfl

theorem put_same (r : Run ρ) (o : Origin) : r.put o (r.cards o) = r := by
  have cards : (r.put o (r.cards o)).cards = r.cards := by
    funext x
    by_cases here : x = o
    · simp only [put, here, ite_self]
    · simp only [put, if_neg here]
  exact congrArg (fun cards => (⟨r.table, cards, r.source, r.log⟩ : Run ρ)) cards

theorem tell_nil (r : Run ρ) : r.tell [] = r :=
  congrArg (fun log => (⟨r.table, r.cards, r.source, log⟩ : Run ρ)) (List.append_nil r.log)

theorem tell_tell (r : Run ρ) (es es' : List Event) : (r.tell es).tell es' = r.tell (es ++ es') :=
  congrArg (fun log => (⟨r.table, r.cards, r.source, log⟩ : Run ρ))
    (List.append_assoc r.log es es')

section Edits

variable {change : Card → Card × List Event} {d : Card} {es : List Event}

theorem edit_eq (h : change (r.cards o) = (d, es)) : r.edit change o = (r.put o d).tell es := by
  rw [edit, h]

/-- A change that leaves the card as it was only tells. -/
theorem edit_kept (h : change (r.cards o) = (r.cards o, es)) : r.edit change o = r.tell es := by
  rw [edit_eq h, put_same]

end Edits

end Run

namespace Loose.Act

/-! ## Targets -/

/-- Keep what passes the test for what is asked for, if anything is. -/
def narrow {γ : Type} (test : γ → Card → Except Failure Bool) (wanted : Option γ)
    (os : List Origin) : Act ρ (List Origin) :=
  match wanted with
  | some w => keep os (test w)
  | none => pure os

/-- The search of a filter without a special mode, one narrowing after the other. -/
def search (b : Scene) (f : TargetFilter) : Act ρ (List Origin) := do
  let found ← scopeCandidates b f
  trace b (.candidates f.player (f.location == .hand) found.length)
  let found ← narrow (fun races c => c.hasAnyRace races) (asked f.race) found
  let found ← narrow (fun rarities c => .ok (rarities.any c.isRarity)) (asked f.rarity) found
  let found ← narrow (fun kind c => .ok (c.kind.isKind kind)) f.kind found
  let names ← found.mapM fun o => return (← look o).name.literal
  trace b (.chosen names)
  return found

theorem targets_eq_search (b : Scene) {f : TargetFilter} (anywhere : f.target = none) :
    (targets b f : Act ρ (List Origin)) = search b f := by
  rw [targets, anywhere, search]
  cases asked f.race <;> cases asked f.rarity <;> cases f.kind <;> rfl

namespace Does

variable {r : LaneDuel.Run ρ} (tracing : Bool) (b : Binding)

theorem scopeCandidates (f : TargetFilter) :
    Does (Act.scopeCandidates (.ofBinding tracing b) f) r (r.candidates b f) r := by
  refine get.bind ?_
  rw [LaneDuel.Run.candidates]
  cases f.player with
  | none => exact pure []
  | some scope =>
      have zones : (fun s => (((Board.loosen r.table).player s).zone f.location.zone).filterMap id)
          = fun s => ((r.player s).zone f.location.zone).filterMap id := by
        funext s
        rw [Board.player_loosen, Board.zone_loosenPlayer]
        rfl
      exact silent rfl (congrArg (fun each => (Except.ok ((scope.sides b.player).flatMap each),
        Run.ofChecked r)) zones)

theorem names (os : List Origin) :
    Does (os.mapM fun o => do return (← Act.look o).name.literal) r
      (os.map fun o => Text.quote (r.cards o).name) r :=
  mapM fun o _ => (look o).bind (pure _)

section Narrowing

variable (f : TargetFilter) (os : List Origin)

theorem narrowByRace :
    Does (Act.narrow (fun races c => c.hasAnyRace races) (asked f.race) os) r
      (f.narrowByRace r.cards os) r := by
  rw [TargetFilter.narrowByRace]
  cases asked f.race with
  | none => exact pure os
  | some races =>
      exact keep (fun c => c.hasAnyRace races) (fun c => hasAnyRace_ofChecked c races) os

theorem narrowByRarity :
    Does (Act.narrow (fun rarities c => .ok (rarities.any c.isRarity)) (asked f.rarity) os) r
      (f.narrowByRarity r.cards os) r := by
  rw [TargetFilter.narrowByRarity]
  cases asked f.rarity with
  | none => exact pure os
  | some rarities =>
      exact keep (fun c => .ok (rarities.any c.isRarity))
        (fun c => congrArg Except.ok (anyRarity_ofChecked c rarities)) os

theorem narrowByKind :
    Does (Act.narrow (fun kind c => .ok (c.kind.isKind kind)) f.kind os) r
      (f.narrowByKind r.cards os) r := by
  rw [TargetFilter.narrowByKind]
  cases f.kind with
  | none => exact pure os
  | some kind =>
      exact keep (fun c => .ok (c.kind.isKind kind))
        (fun c => congrArg Except.ok (isKind_ofChecked c kind)) os

end Narrowing

theorem search {f : TargetFilter} (anywhere : f.target = none) :
    Does (Act.search (.ofBinding tracing b) f) r (r.targets b f).1
      (r.tell (r.targets b f).2) := by
  have told : ∀ first second : Trace,
      (r.trace first).trace second = r.tell [.trace first, .trace second] :=
    fun first second => LaneDuel.Run.tell_tell r [.trace first] [.trace second]
  rw [LaneDuel.Run.targets, anywhere, ← told]
  refine (scopeCandidates tracing b f).bind ((trace tracing b _).bind ?_)
  refine (narrowByRace f _).bind ((narrowByRarity f _).bind ((narrowByKind f _).bind ?_))
  exact (names _).bind ((trace tracing b _).bind (pure _))

/-- The acting card is found on a battlefield by its instance id. -/
theorem ownTarget {f : TargetFilter} (own : f.target = some .own) :
    Does (Act.targets (.ofBinding tracing b) f) r (r.targets b f).1
      (r.tell (r.targets b f).2) := by
  rw [Act.targets, LaneDuel.Run.targets, own]
  refine (actor tracing b).bind ((look b.actor).bind ((locate _).bind ?_))
  rw [LaneDuel.Run.findById, Table.findCard]
  cases found : r.table.locate
      (fun o => (r.cards o).instanceId == (r.cards b.actor).instanceId) [.battlefield] with
  | none => exact (notice tracing b _).bind (pure [])
  | some slot =>
      obtain ⟨-, o, there, -⟩ := Table.locate_eq_some found
      have laid : (Run.ofChecked r).table.cardAt slot = some o :=
        (Board.cardAt_loosen r.table slot).trans there
      rw [Option.bind_some, there]
      refine get.bind ?_
      rw [laid, LaneDuel.Run.tell_nil]
      exact pure [o]

theorem targets (f : TargetFilter) :
    Does (Act.targets (.ofBinding tracing b) f) r (r.targets b f).1
      (r.tell (r.targets b f).2) := by
  cases mode : f.target with
  | none =>
      rw [targets_eq_search _ mode]
      exact search tracing b mode
  | some special =>
      cases special with
      | own => exact ownTarget tracing b mode
      | selected =>
          rw [Act.targets, LaneDuel.Run.targets, mode]
          rw [LaneDuel.Run.tell_nil]
          exact pure _

/-! ## Loops over cards -/

/-- A loop that edits some cards one after another. -/
theorem visit (os : List Origin) {change : LaneDuel.Card → LaneDuel.Card × List Event}
    {body : Origin → PUnit → Act ρ (ForInStep PUnit)}
    (one : ∀ r o, Does (body o ⟨⟩) r (.yield ⟨⟩) (r.edit change o)) :
    Does (do forIn os PUnit.unit body) r () (r.visit os change) :=
  each (LaneDuel.Run.edit change) (fun r o _ => one r o) r

/-- A loop that edits the cards of a filter one after another. -/
theorem reach (f : TargetFilter) {change : LaneDuel.Card → LaneDuel.Card × List Event}
    {body : Origin → PUnit → Act ρ (ForInStep PUnit)}
    (one : ∀ r o, Does (body o ⟨⟩) r (.yield ⟨⟩) (r.edit change o)) :
    Does (do
      forIn (← Act.targets (.ofBinding tracing b) f) PUnit.unit body
      return ()) r () (r.reach b f change) :=
  (targets tracing b f).bind ((visit _ one).bind (pure ()))

end Does

end Loose.Act

end LaneDuel
