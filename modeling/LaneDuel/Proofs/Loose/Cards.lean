/-
# LaneDuel.Proofs.Loose.Cards -- changing typed cards

The loose effects that change cards do on a typed run what the checked ones do.  A loose
effect writes one field after the other and tells of the card afterwards; putting a card
over another leaves the last one (`Run.put_put`), so the writes add up to one edit.
-/
import LaneDuel.Proofs.Loose.Targets

namespace LaneDuel.Loose.Act.Does

set_option autoImplicit false

variable {ρ : Type} {r : LaneDuel.Run ρ} (tracing : Bool) (b : Binding)

/-! ## Stats -/

section Stats

variable (o : Origin) (amount : Int)

theorem addAtk : Does (Act.addAtk o amount) r (.ofChecked ((r.cards o).addAtk amount))
    (r.put o ((r.cards o).addAtk amount)) :=
  (look o).bind ((ofExcept (add_int _ _)).bind ((put o ((r.cards o).addAtk amount)).bind (pure _)))

/-- The upper limit is written after the hit points. -/
theorem addHp : Does (Act.addHp o amount) r (.ofChecked ((r.cards o).addHp amount))
    (r.put o ((r.cards o).addHp amount)) := by
  refine (look o).bind ((ofExcept (add_int _ _)).bind ?_)
  refine (put o { r.cards o with hp := (r.cards o).hp + amount }).bind ?_
  refine (ofExcept (larger_int _ _)).bind ((put o ((r.cards o).addHp amount)).bind ?_)
  rw [LaneDuel.Run.put_put]
  exact pure _

/-- Hit points and their upper limit are written one after the other. -/
theorem addBoth : Does (Act.addBoth o amount) r
    (.ofChecked { r.cards o with
      hp := (r.cards o).hp + amount, maxHp := (r.cards o).maxHp + amount })
    (r.put o { r.cards o with
      hp := (r.cards o).hp + amount, maxHp := (r.cards o).maxHp + amount }) := by
  refine (look o).bind ((ofExcept (add_int _ _)).bind ?_)
  refine (put o { r.cards o with hp := (r.cards o).hp + amount }).bind ?_
  refine (ofExcept (add_int _ _)).bind ((put o { r.cards o with
    hp := (r.cards o).hp + amount, maxHp := (r.cards o).maxHp + amount }).bind ?_)
  rw [LaneDuel.Run.put_put]
  exact pure _

end Stats

section Amounts

variable (amount base bonus : Int) (f : TargetFilter)

theorem modifyAtk (condition : Option Condition) :
    Does (Act.modifyAtk amount f condition (.ofBinding tracing b)) r ()
      (Effect.modifyAtk amount f condition b r) := by
  refine reach tracing b f fun r o => ?_
  refine (look o).bind ((ofExcept (admits_ofChecked _ condition)).bind ?_)
  cases admitted : LaneDuel.admits condition (r.cards o) with
  | true =>
      rw [LaneDuel.Run.edit_eq (if_pos admitted)]
      exact (addAtk o amount).bind ((notice tracing b _).bind (pure _))
  | false =>
      rw [LaneDuel.Run.edit_kept (if_neg (Bool.eq_false_iff.mp admitted))]
      exact (trace tracing b _).bind (pure _)

theorem modifyHp (condition : Option Condition) :
    Does (Act.modifyHp amount f condition (.ofBinding tracing b)) r ()
      (Effect.modifyHp amount f condition b r) := by
  refine reach tracing b f fun r o => ?_
  refine (look o).bind ((ofExcept (admits_ofChecked _ condition)).bind ?_)
  cases admitted : LaneDuel.admits condition (r.cards o) with
  | true =>
      rw [LaneDuel.Run.edit_eq (if_pos admitted)]
      exact (addHp o amount).bind ((notice tracing b _).bind (pure _))
  | false =>
      rw [LaneDuel.Run.edit_kept (if_neg (Bool.eq_false_iff.mp admitted)), LaneDuel.Run.tell_nil]
      exact pure _

/-- A change by a base amount and a bonus: none where they cancel out, else the card is
changed and told of in one of two ways. -/
theorem changeBy {r : LaneDuel.Run ρ} {o : Origin} {add : Act ρ Card} {d : LaneDuel.Card}
    (adds : Does add r (.ofChecked d) (r.put o d)) (total extra : Int) (alone aided : Card → Notice)
    {change : LaneDuel.Card → LaneDuel.Card × List Event}
    (changes : change (r.cards o) =
      if total = 0 then (r.cards o, [])
      else if extra = 0 then (d, [.notice (alone (.ofChecked d))])
      else (d, [.notice (aided (.ofChecked d))])) :
    Does (do
      if total ≠ 0 then
        let c ← add
        Act.notice (.ofBinding tracing b) (if extra = 0 then alone c else aided c)
        return ForInStep.yield PUnit.unit
      else return ForInStep.yield PUnit.unit) r (.yield ⟨⟩) (r.edit change o) := by
  by_cases nothing : total = 0
  · rw [if_pos nothing] at changes
    rw [if_neg (not_not_intro nothing), LaneDuel.Run.edit_kept changes, LaneDuel.Run.tell_nil]
    exact pure _
  · rw [if_neg nothing] at changes
    rw [if_pos nothing]
    refine adds.bind ((notice tracing b _).bind ?_)
    by_cases unaided : extra = 0
    · rw [if_pos unaided] at changes
      rw [LaneDuel.Run.edit_eq changes, if_pos unaided]
      exact pure _
    · rw [if_neg unaided] at changes
      rw [LaneDuel.Run.edit_eq changes, if_neg unaided]
      exact pure _

theorem conditionalModifyAtk (condition : Condition) :
    Does (Act.conditionalModifyAtk base bonus condition f (.ofBinding tracing b)) r ()
      (Effect.conditionalModifyAtk base bonus condition f b r) := by
  refine reach tracing b f fun r o => ?_
  refine (look o).bind ((ofExcept (meets_ofChecked _ condition)).bind ?_)
  let extra := Effect.bonusFor bonus condition (r.cards o)
  exact changeBy tracing b (addAtk o (base + extra)) (base + extra) extra
    (fun c => .atkChanged c.name.plain (base + extra) (.ofJson c.atk))
    (fun c => .atkChangedBonus c.name.plain (base + extra) base extra (.ofJson c.atk)) rfl

theorem conditionalModifyHp (condition : Condition) :
    Does (Act.conditionalModifyHp base bonus condition f (.ofBinding tracing b)) r ()
      (Effect.conditionalModifyHp base bonus condition f b r) := by
  refine reach tracing b f fun r o => ?_
  refine (look o).bind ((ofExcept (meets_ofChecked _ condition)).bind ?_)
  let extra := Effect.bonusFor bonus condition (r.cards o)
  exact changeBy tracing b (addHp o (base + extra)) (base + extra) extra
    (fun c => .hpChanged c.name.plain (base + extra) (.ofJson c.hp) (.ofJson c.maxHp))
    (fun c => .hpChangedBonus c.name.plain (base + extra) base extra (.ofJson c.hp)
      (.ofJson c.maxHp)) rfl

end Amounts

/-! ## The hell lord -/

theorem buffMonster (amount : Int) (r : LaneDuel.Run ρ) (o : Origin) :
    Does (do
      if ← Act.ofExcept ((← Act.look o).hasAnyRace [Effect.monsterRace]) then
        let _ ← Act.addAtk o amount
        let c ← Act.addBoth o amount
        Act.notice (.ofBinding tracing b)
          (.hellLordBuff c.name.plain amount (.ofJson c.atk) (.ofJson c.hp))
        return ForInStep.yield PUnit.unit
      else return ForInStep.yield PUnit.unit) r (.yield ⟨⟩)
      (r.edit (Effect.buffMonster amount) o) := by
  refine (look o).bind ((ofExcept (hasAnyRace_ofChecked _ _)).bind ?_)
  cases monster : (r.cards o).hasRace [Effect.monsterRace] with
  | true =>
      have both := addBoth (r := r.put o ((r.cards o).addAtk amount)) o amount
      rw [LaneDuel.Run.put_put, LaneDuel.Run.put_cards_self] at both
      rw [LaneDuel.Run.edit_eq (if_pos monster)]
      exact (addAtk o amount).bind (both.bind ((notice tracing b _).bind (pure _)))
  | false =>
      rw [LaneDuel.Run.edit_kept (if_neg (Bool.eq_false_iff.mp monster)), LaneDuel.Run.tell_nil]
      exact pure _

theorem debuffMonster (r : LaneDuel.Run ρ) (o : Origin) :
    Does (do
      let c ← Act.look o
      if (← Act.ofExcept (c.hasAnyRace [Effect.monsterRace])) && !c.isRarity Effect.legendary then
        let weakened ← Act.ofExcept do
          larger (.int 0) (← sub c.atk (.int Effect.hellLordLoss))
        Act.put o { c with atk := weakened }
        let c ← Act.addBoth o (-Effect.hellLordLoss)
        Act.notice (.ofBinding tracing b)
          (.hellLordDebuff c.name.plain Effect.hellLordLoss (.ofJson c.atk) (.ofJson c.hp))
        return ForInStep.yield PUnit.unit
      else return ForInStep.yield PUnit.unit) r (.yield ⟨⟩) (r.edit Effect.debuffMonster o) := by
  have common : (!(Card.ofChecked (r.cards o)).isRarity Effect.legendary)
      = ((r.cards o).rarity != Effect.legendary) := congrArg Bool.not (isRarity_ofChecked _ _)
  refine (look o).bind ((ofExcept (hasAnyRace_ofChecked _ _)).bind ?_)
  rw [common]
  cases falls : (r.cards o).hasRace [Effect.monsterRace]
      && (r.cards o).rarity != Effect.legendary with
  | true =>
      let c := { r.cards o with atk := max 0 ((r.cards o).atk - Effect.hellLordLoss) }
      have both := addBoth (r := r.put o c) o (-Effect.hellLordLoss)
      rw [LaneDuel.Run.put_put, LaneDuel.Run.put_cards_self] at both
      have weakened : (do larger (.int 0) (← sub (.int (r.cards o).atk) (.int Effect.hellLordLoss)))
          = Except.ok (.int c.atk) := larger_int _ _
      rw [LaneDuel.Run.edit_eq (if_pos falls)]
      refine (ofExcept weakened).bind ((put o c).bind (both.bind ?_))
      exact (notice tracing b _).bind (pure _)
  | false =>
      rw [LaneDuel.Run.edit_kept (if_neg (Bool.eq_false_iff.mp falls)), LaneDuel.Run.tell_nil]
      exact pure _

theorem hellLord : Does (Act.hellLord (.ofBinding tracing b)) r () (Effect.hellLord b r) := by
  have demons : ((r.field b.player).any fun o => (r.cards o).hasRace [Effect.demonRace])
      = ((r.field b.player).map r.cards).any (·.hasRace [Effect.demonRace]) := by
    rw [List.any_map]
    rfl
  refine (field b.player).bind ((anyCard (fun c => c.hasAnyRace [Effect.demonRace])
    (fun c => hasAnyRace_ofChecked c _) _).bind ?_)
  rw [demons]
  refine (visit _ (buffMonster tracing b _)).bind ((field b.opponent).bind ?_)
  exact (visit _ (debuffMonster tracing b)).bind (pure ())

/-! ## Cascades -/

theorem byHealth (os : List Origin) :
    Does (Act.byHealth os) r (Effect.byHealth r.cards os) r := by
  let keyed := fun o => (Number.int (r.cards o).hp, o)
  have sorted : ((os.map keyed).mergeSort fun a b => !a.1.less b.1).map (·.2)
      = Effect.byHealth r.cards os := by
    have higher : ∀ a ∈ os, ∀ o ∈ os, decide ((r.cards o).hp ≤ (r.cards a).hp)
        = !(keyed a).1.less (keyed o).1 := by
      intro a _ o _
      rw [Number.less_int, ← decide_not]
      exact decide_eq_decide.mpr Int.not_lt.symm
    rw [← List.map_mergeSort higher, List.map_map]
    exact List.map_id _
  rw [← sorted]
  exact (mapM (g := keyed) fun o _ => (look o).bind ((ofExcept rfl).bind (pure _))).bind (pure _)

theorem hit (damage : Int) (r : LaneDuel.Run ρ) (o : Origin) :
    Does (do
      let c ← Act.look o
      let c := { c with hp := ← Act.ofExcept (sub c.hp (.int damage)) }
      Act.put o c
      Act.notice (.ofBinding tracing b)
        (.cascadeHit c.name.plain (.ofJson (.int damage)) (.ofJson c.hp))
      if ← Act.ofExcept (atMost c.hp (.int 0)) then
        Act.notice (.ofBinding tracing b) (.cardDefeated c.name.plain)
        return ForInStep.yield PUnit.unit
      else return ForInStep.yield PUnit.unit) r (.yield ⟨⟩) (r.edit (Effect.hit damage) o) := by
  refine (look o).bind ((ofExcept (sub_int _ _)).bind ?_)
  refine (put o ((r.cards o).loseHp damage)).bind ((notice tracing b _).bind ?_)
  refine (ofExcept (atMost_int ((r.cards o).loseHp damage).hp 0)).bind ?_
  rw [LaneDuel.Run.edit, Effect.hit, ← List.singleton_append, ← LaneDuel.Run.tell_tell]
  by_cases falls : ((r.cards o).loseHp damage).hp ≤ 0
  · rw [if_pos falls, decide_eq_true falls]
    exact (notice tracing b _).bind (pure _)
  · rw [if_neg falls, decide_eq_false falls, LaneDuel.Run.tell_nil]
    exact pure _

theorem cascade (base : Int) : Does (Act.cascade (.int base) (.ofBinding tracing b)) r ()
    (Effect.cascade base b r) := by
  have damage : ∀ rank : Nat, (do larger (.int 1) (← sub (.int base) (.nat rank)))
      = Except.ok (.int (Effect.cascadeAt base rank)) := fun rank => larger_int _ _
  refine (field b.opponent).bind ((byHealth _).bind ?_)
  refine bind (a := ⟨⟩) ?_ (pure ())
  rw [Effect.cascade]
  refine each _ (fun r p _ => ?_) r
  obtain ⟨o, rank⟩ := p
  exact (ofExcept (damage rank)).bind (hit tracing b _ r o)

/-! ## Frost and immunity -/

section Status

variable (f : TargetFilter)

theorem freeze (turns : Nat) : Does (Act.freeze turns f (.ofBinding tracing b)) r ()
    (Effect.freeze turns f b r) :=
  reach tracing b f fun r o => (look o).bind
    ((put o { r.cards o with frozen := turns }).bind ((notice tracing b _).bind (pure _)))

theorem removeDebuffs : Does (Act.removeDebuffs f (.ofBinding tracing b)) r ()
    (Effect.removeDebuffs f b r) := by
  refine reach tracing b f fun r o => ?_
  refine (look o).bind ((ofExcept (isFrozen_ofChecked _)).bind ?_)
  cases frozen : (r.cards o).isFrozen with
  | true =>
      rw [LaneDuel.Run.edit_eq (if_pos frozen)]
      exact (put o { r.cards o with frozen := 0 }).bind ((notice tracing b _).bind (pure _))
  | false =>
      rw [LaneDuel.Run.edit_kept (if_neg (Bool.eq_false_iff.mp frozen)), LaneDuel.Run.tell_nil]
      exact pure _

theorem addImmunity : Does (Act.addImmunity f (.ofBinding tracing b)) r ()
    (Effect.addImmunity f b r) :=
  reach tracing b f fun r o => (look o).bind
    ((put o { r.cards o with immune := true }).bind ((notice tracing b _).bind (pure _)))

end Status

theorem firstAttack (turns : Int) : Does (Act.firstAttack (.int turns) (.ofBinding tracing b)) r ()
    (Effect.firstAttack turns b r) := by
  obtain ⟨side, own, target⟩ := b
  have truth : (Card.ofChecked (r.cards own)).firstActionUsed.truthy
      = (r.cards own).firstActionUsed := rfl
  let used := r.put own { r.cards own with firstActionUsed := true }
  refine (actor tracing _).bind ((look own).bind ?_)
  rw [Effect.firstAttack, truth]
  cases (r.cards own).firstActionUsed with
  | true => exact trace tracing _ _
  | false =>
      refine (put own { r.cards own with firstActionUsed := true }).bind ?_
      cases target with
      | none => exact notice tracing _ _
      | some o =>
          exact (look o).bind ((put o { used.cards o with frozen := turns }).bind
            (notice tracing _ _))

end LaneDuel.Loose.Act.Does
