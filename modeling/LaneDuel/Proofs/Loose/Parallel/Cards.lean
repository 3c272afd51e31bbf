/-
# LaneDuel.Proofs.Loose.Parallel.Cards -- effects on cards, side by side

The search for targets answers known names only (`targets`), so whatever an effect then does
to a card it does to the same card on both runs.  `reach` is the law of the effects that go
through the cards of a filter: only the body of the loop is left to show.
-/
import LaneDuel.Proofs.Loose.Parallel
import LaneDuel.Proofs.Loose.Targets

namespace LaneDuel.Loose.Act.Steady

set_option autoImplicit false

variable {ρ : Type} {pair : Pairing} {b : Scene}

/-! ## Targets -/

theorem scopeCandidates (f : TargetFilter) :
    Steady pair (Act.scopeCandidates b f : Act ρ _) pair.All := by
  refine get (fun r r' same => by simp only [same]) fun r within => ?_
  cases f.player with
  | none => exact pure pair.all_nil
  | some scope =>
      refine pure fun o listed => ?_
      obtain ⟨s, -, there⟩ := List.mem_flatMap.mp listed
      exact (within.player s).zone (mem_taken.mp there)

theorem narrow {γ : Type} {test : γ → Card → Except Failure Bool} {wanted : Option γ}
    {os : List Origin} (known : pair.All os) :
    Steady pair (Act.narrow test wanted os : Act ρ _) pair.All := by
  cases wanted with
  | none => exact pure known
  | some w => exact keep known

theorem names {os : List Origin} (known : pair.All os) :
    Steady pair (os.mapM fun o => do return (← Act.look o).name.literal : Act ρ _) Any :=
  any (mapM (P := Any) fun o mem => (look (known o mem)).andThen fun _ => pure trivial)

theorem search (f : TargetFilter) : Steady pair (Act.search b f : Act ρ _) pair.All := by
  refine (scopeCandidates f).bind fun found known => (trace _).andThen fun _ => ?_
  refine (narrow known).bind fun found known => (narrow known).bind fun found known => ?_
  refine (narrow known).bind fun found known => (names known).andThen fun _ => ?_
  exact (trace _).andThen fun _ => pure known

theorem targets (bound : pair.Binds b) (f : TargetFilter) :
    Steady pair (Act.targets b f : Act ρ _) pair.All := by
  cases mode : f.target with
  | none =>
      rw [targets_eq_search b mode]
      exact search f
  | some special =>
      rw [Act.targets, mode]
      cases special with
      | selected =>
          refine pure fun o mem => bound.target o ?_
          exact Option.mem_toList.mp mem
      | own =>
          refine (actor bound).bind fun own known => (look known).andThen fun c => ?_
          refine (locate _).andThen fun slot => ?_
          cases slot with
          | none => exact (notice _ rfl).andThen fun _ => pure pair.all_nil
          | some slot =>
              refine get (fun r r' same => by rw [same]) fun r within => ?_
              refine pure fun o mem => ?_
              have there : r.table.cardAt slot = some o := Option.mem_toList.mp mem
              exact within.cardAt there

/-- An effect that goes through the cards of a filter. -/
theorem reach (bound : pair.Binds b) (f : TargetFilter)
    {body : Origin → PUnit → Act ρ (ForInStep PUnit)}
    (one : ∀ o, pair.known o → Steady pair (body o ⟨⟩) Any) :
    Steady pair (do
      forIn (← Act.targets b f) PUnit.unit body
      return ()) Any :=
  (targets bound f).bind fun _ known =>
    (each fun o mem => one o (known o mem)).andThen fun _ => pure trivial

/-! ## Attack and hit points -/

section Stats

variable {o : Origin} (known : pair.known o) (amount : Int)
include known

theorem addAtk : Steady pair (Act.addAtk o amount : Act ρ Card) Any :=
  (look known).andThen fun _ => (ofExcept _).andThen fun _ =>
    (put o _).andThen fun _ => pure trivial

theorem addHp : Steady pair (Act.addHp o amount : Act ρ Card) Any :=
  (look known).andThen fun _ => (ofExcept _).andThen fun _ => (put o _).andThen fun _ =>
    (ofExcept _).andThen fun _ => (put o _).andThen fun _ => pure trivial

theorem addBoth : Steady pair (Act.addBoth o amount : Act ρ Card) Any :=
  (look known).andThen fun _ => (ofExcept _).andThen fun _ => (put o _).andThen fun _ =>
    (ofExcept _).andThen fun _ => (put o _).andThen fun _ => pure trivial

end Stats

section Amounts

variable (bound : pair.Binds b) (f : TargetFilter)
include bound

theorem modifyAtk (amount : Int) (condition : Option Condition) :
    Steady pair (Act.modifyAtk amount f condition b : Act ρ Unit) Any :=
  reach bound f fun _ known => (look known).andThen fun _ => (ofExcept _).andThen fun _ =>
    branch ((addAtk known amount).andThen fun _ => (notice _ rfl).andThen fun _ => pure trivial)
      ((trace _).andThen fun _ => pure trivial)

theorem modifyHp (amount : Int) (condition : Option Condition) :
    Steady pair (Act.modifyHp amount f condition b : Act ρ Unit) Any :=
  reach bound f fun _ known => (look known).andThen fun _ => (ofExcept _).andThen fun _ =>
    branch ((addHp known amount).andThen fun _ => (notice _ rfl).andThen fun _ => pure trivial)
      (pure trivial)

theorem conditionalModifyAtk (base bonus : Int) (condition : Condition) :
    Steady pair (Act.conditionalModifyAtk base bonus condition f b : Act ρ Unit) Any :=
  reach bound f fun _ known => (look known).andThen fun _ => (ofExcept _).andThen fun _ =>
    branch ((addAtk known _).andThen fun _ =>
        (either _ _ rfl rfl).andThen fun _ => pure trivial)
      (pure trivial)

theorem conditionalModifyHp (base bonus : Int) (condition : Condition) :
    Steady pair (Act.conditionalModifyHp base bonus condition f b : Act ρ Unit) Any :=
  reach bound f fun _ known => (look known).andThen fun _ => (ofExcept _).andThen fun _ =>
    branch ((addHp known _).andThen fun _ =>
        (either _ _ rfl rfl).andThen fun _ => pure trivial)
      (pure trivial)

end Amounts

/-! ## The hell lord and cascades -/

theorem hellLord : Steady pair (Act.hellLord b : Act ρ Unit) Any := by
  refine (field _).bind fun own known => (anyCard known).andThen fun demon => ?_
  refine (each fun o mem => ?_).andThen fun _ => (field _).bind fun others theirs =>
    (each fun o mem => ?_).andThen fun _ => pure trivial
  · refine (look (known o mem)).andThen fun _ => (ofExcept _).andThen fun _ =>
      branch ?_ (pure trivial)
    exact (addAtk (known o mem) _).andThen fun _ => (addBoth (known o mem) _).andThen fun _ =>
      (notice _ rfl).andThen fun _ => pure trivial
  · refine (look (theirs o mem)).andThen fun _ => (ofExcept _).andThen fun _ =>
      branch ?_ (pure trivial)
    exact (ofExcept _).andThen fun _ => (put o _).andThen fun _ =>
      (addBoth (theirs o mem) _).andThen fun _ => (notice _ rfl).andThen fun _ => pure trivial

theorem byHealth {os : List Origin} (known : pair.All os) :
    Steady pair (Act.byHealth os : Act ρ _) pair.All := by
  refine (mapM (P := fun keyed => pair.known keyed.2) fun o mem => ?_).bind fun keyed heard => ?_
  · exact (look (known o mem)).andThen fun _ => (ofExcept _).andThen fun _ => pure (known o mem)
  · refine pure fun o sorted => ?_
    obtain ⟨p, mem, rfl⟩ := List.mem_map.mp sorted
    exact heard p (List.mem_mergeSort.mp mem)

theorem cascade (base : Json) : Steady pair (Act.cascade base b : Act ρ Unit) Any := by
  refine (field _).bind fun others known => (byHealth known).bind fun sorted known => ?_
  refine (each fun (o, rank) ranked => ?_).andThen fun _ => pure trivial
  have there := known o (List.mem_of_getElem? (List.mem_zipIdx_iff_getElem?.mp ranked))
  refine (ofExcept _).andThen fun _ => (look there).andThen fun _ => (ofExcept _).andThen fun _ => ?_
  refine (put o _).andThen fun _ => (notice _ rfl).andThen fun _ => (ofExcept _).andThen fun _ => ?_
  exact branch ((notice _ rfl).andThen fun _ => pure trivial) (pure trivial)

/-! ## Frost and immunity -/

section Status

variable (bound : pair.Binds b) (f : TargetFilter)
include bound

theorem freeze (turns : Nat) : Steady pair (Act.freeze turns f b : Act ρ Unit) Any :=
  reach bound f fun o known => (look known).andThen fun _ => (put o _).andThen fun _ =>
    (notice _ rfl).andThen fun _ => pure trivial

theorem removeDebuffs : Steady pair (Act.removeDebuffs f b : Act ρ Unit) Any :=
  reach bound f fun o known => (look known).andThen fun _ => (ofExcept _).andThen fun _ =>
    branch ((put o _).andThen fun _ => (notice _ rfl).andThen fun _ => pure trivial)
      (pure trivial)

theorem addImmunity : Steady pair (Act.addImmunity f b : Act ρ Unit) Any :=
  reach bound f fun o known => (look known).andThen fun _ => (put o _).andThen fun _ =>
    (notice _ rfl).andThen fun _ => pure trivial

omit f in
theorem firstAttack (turns : Json) : Steady pair (Act.firstAttack turns b : Act ρ Unit) Any := by
  refine (actor bound).bind fun own known => (look known).andThen fun c => branch (trace _) ?_
  refine (put own _).andThen fun _ => ?_
  cases aimed : b.target with
  | none => exact notice _ rfl
  | some o =>
      exact (look (bound.target o aimed)).andThen fun _ => (put o _).andThen fun _ => notice _ rfl

end Status

end LaneDuel.Loose.Act.Steady
