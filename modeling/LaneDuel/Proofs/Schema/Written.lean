/-
# LaneDuel.Proofs.Schema.Written -- entries survive being written

Every record of an entry is lawful, so an accepted entry is read again from its own document.
All that may change are the calls that were not checked: their members come back as they were
written, that is without nulls and with null in the place of every number that is not finite
(`Call.settled`).

* `CardEffect.settles_codec`: an entry comes back with its calls settled.
* `settled_eq_trimmed`: over finite numbers only the nulls are missing; `trimmed_eq_self`: over
  members that are not null nothing is.
* `write_settled`: what comes back is written as before where no member of a call is a number
  that is not finite.
-/
import LaneDuel.Proofs.Schema.Codec

namespace LaneDuel

set_option autoImplicit false

open Schema Record

/-! ## Finite numbers -/

namespace Json

mutual

/-- Every number in the document is finite. -/
def isFinite : Json → Bool
  | .num n => n.quotient?.isSome
  | .arr items => itemsFinite items
  | .obj ms => membersFinite ms
  | _ => true

def itemsFinite : List Json → Bool
  | [] => true
  | v :: vs => v.isFinite && itemsFinite vs

def membersFinite : List (String × Json) → Bool
  | [] => true
  | (_, v) :: ms => v.isFinite && membersFinite ms

end

mutual

theorem onlyFinite_eq_self : ∀ v : Json, v.isFinite = true → v.onlyFinite = v
  | .num _, finite => if_pos finite
  | .arr items, finite => congrArg Json.arr (itemsOnlyFinite_eq_self items finite)
  | .obj ms, finite => congrArg Json.obj (membersOnlyFinite_eq_self ms finite)
  | .null, _ | .bool _, _ | .str _, _ => rfl

theorem itemsOnlyFinite_eq_self :
    ∀ vs : List Json, itemsFinite vs = true → itemsOnlyFinite vs = vs
  | [], _ => rfl
  | v :: vs, finite => by
      obtain ⟨first, rest⟩ := Bool.and_eq_true_iff.mp finite
      rw [itemsOnlyFinite, onlyFinite_eq_self v first, itemsOnlyFinite_eq_self vs rest]

theorem membersOnlyFinite_eq_self :
    ∀ ms : List (String × Json), membersFinite ms = true → membersOnlyFinite ms = ms
  | [], _ => rfl
  | (k, v) :: ms, finite => by
      obtain ⟨first, rest⟩ := Bool.and_eq_true_iff.mp finite
      rw [membersOnlyFinite, onlyFinite_eq_self v first, membersOnlyFinite_eq_self ms rest]

end

mutual

theorem isFinite_onlyFinite : ∀ v : Json, v.onlyFinite.isFinite = true
  | .num n => by
      rw [onlyFinite]
      split
      · assumption
      · rfl
  | .arr items => itemsFinite_itemsOnlyFinite items
  | .obj ms => membersFinite_membersOnlyFinite ms
  | .null | .bool _ | .str _ => rfl

theorem itemsFinite_itemsOnlyFinite : ∀ vs : List Json, itemsFinite (itemsOnlyFinite vs) = true
  | [] => rfl
  | v :: vs =>
      Bool.and_eq_true_iff.mpr ⟨isFinite_onlyFinite v, itemsFinite_itemsOnlyFinite vs⟩

theorem membersFinite_membersOnlyFinite :
    ∀ ms : List (String × Json), membersFinite (membersOnlyFinite ms) = true
  | [] => rfl
  | (_, v) :: ms =>
      Bool.and_eq_true_iff.mpr ⟨isFinite_onlyFinite v, membersFinite_membersOnlyFinite ms⟩

end

mutual

theorem nestsWithin_onlyFinite :
    ∀ (v : Json) (levels : Nat), v.onlyFinite.nestsWithin levels = v.nestsWithin levels
  | .num n, levels => by
      rw [onlyFinite]
      split <;> cases levels <;> rfl
  | .arr _, 0 | .obj _, 0 => rfl
  | .arr items, levels + 1 => itemsNestWithin_itemsOnlyFinite items levels
  | .obj ms, levels + 1 => membersNestWithin_membersOnlyFinite ms levels
  | .null, _ | .bool _, _ | .str _, _ => rfl

theorem itemsNestWithin_itemsOnlyFinite : ∀ (vs : List Json) (levels : Nat),
    itemsNestWithin (itemsOnlyFinite vs) levels = itemsNestWithin vs levels
  | [], _ => rfl
  | v :: vs, levels => by
      rw [itemsOnlyFinite, itemsNestWithin, itemsNestWithin, nestsWithin_onlyFinite v,
        itemsNestWithin_itemsOnlyFinite vs]

theorem membersNestWithin_membersOnlyFinite : ∀ (ms : List (String × Json)) (levels : Nat),
    membersNestWithin (membersOnlyFinite ms) levels = membersNestWithin ms levels
  | [], _ => rfl
  | (k, v) :: ms, levels => by
      rw [membersOnlyFinite, membersNestWithin, membersNestWithin, nestsWithin_onlyFinite v,
        membersNestWithin_membersOnlyFinite ms]

end

theorem membersOnlyFinite_eq_map (ms : List (String × Json)) :
    membersOnlyFinite ms = ms.map fun p => (p.1, p.2.onlyFinite) := by
  induction ms with
  | nil => rfl
  | cons p ms ih => rw [membersOnlyFinite, ih, List.map_cons]

theorem membersFinite_eq_all (ms : List (String × Json)) :
    membersFinite ms = ms.all fun p => p.2.isFinite := by
  induction ms with
  | nil => rfl
  | cons p ms ih => rw [membersFinite, ih, List.all_cons]

theorem isNull_onlyFinite {v : Json} (some : v.isNull = false)
    (finite : ∀ n, v = .num n → n.quotient?.isSome = true) : v.onlyFinite.isNull = false := by
  cases v with
  | num n =>
      rw [onlyFinite, if_pos (finite n rfl)]
      rfl
  | null => exact some
  | bool _ | str _ | arr _ | obj _ => rfl

end Json

/-! ## Filters, conditions and bonuses -/

theorem Condition.lawful_record : Condition.record.Lawful id :=
  ((lawful_optional Codec.settles_names Codec.solid_names _).both
    ((lawful_optional Codec.settles_names Codec.solid_names _).both
      (lawful_optional (Codec.settles_word _) (Codec.solid_word _) _)
      (by decide)) (by decide)).iso (fun _ => rfl) (fun _ => rfl)

theorem CoinCondition.lawful_record : CoinCondition.record.Lawful id :=
  (Condition.lawful_record.both (lawful_required Codec.settles_nat _) (by decide)).iso
    (fun _ => rfl) (fun _ => rfl)

theorem FieldRaceCondition.lawful_record : FieldRaceCondition.record.Lawful id :=
  ((lawful_constant _ _).both
    ((lawful_required Codec.settles_names _).both
      (lawful_defaulted (Codec.settles_word _) _ (Codec.read_write_word _ _))
      (by decide)) (by decide)).iso (fun _ => rfl) (fun _ => rfl)

theorem KillCondition.lawful_record : KillCondition.record.Lawful id :=
  (lawful_required Codec.settles_int _).iso (fun _ => rfl) (fun _ => rfl)

theorem TargetFilter.lawful_record : TargetFilter.record.Lawful id :=
  ((lawful_optional (Codec.settles_word _) (Codec.solid_word _) _).both
    ((lawful_optional (Codec.settles_word _) (Codec.solid_word _) _).both
      ((lawful_defaulted (Codec.settles_word _) _ (Codec.read_write_word _ _)).both
        Condition.lawful_record (by decide)) (by decide)) (by decide)).iso
    (fun _ => rfl) (fun _ => rfl)

theorem PlayerFilter.lawful_record : PlayerFilter.record.Lawful id :=
  (lawful_defaulted (Codec.settles_word _) _ (Codec.read_write_word _ _)).iso
    (fun _ => rfl) (fun _ => rfl)

theorem ClearFieldFilter.lawful_record : ClearFieldFilter.record.Lawful id :=
  ((lawful_defaulted (Codec.settles_word _) _ (Codec.read_write_word _ _)).both
    (lawful_optional Codec.settles_names Codec.solid_names _) (by decide)).iso
    (fun _ => rfl) (fun _ => rfl)

theorem StatBonus.lawful_record : StatBonus.record.Lawful id :=
  ((lawful_defaulted Codec.settles_int _ rfl).both (lawful_defaulted Codec.settles_int _ rfl)
    (by decide)).iso (fun _ => rfl) (fun _ => rfl)

theorem CountRaceAura.lawful_record : CountRaceAura.record.Lawful id :=
  ((lawful_constant _ _).both
    ((lawful_required Codec.settles_names _).both
      ((lawful_required (Codec.settles_atLeast 1) _).both
        (lawful_required StatBonus.lawful_record.codec _)
        (by decide)) (by decide)) (by decide)).iso (fun _ => rfl) (fun _ => rfl)

/-! ## Atoms -/

namespace Atom

theorem lawful_changeRecord : changeRecord.Lawful id :=
  (lawful_required Codec.settles_int _).both
    ((lawful_required TargetFilter.lawful_record.codec _).both
      (lawful_optional Condition.lawful_record.codec (solid_codec _) _) (by decide)) (by decide)

theorem lawful_conditionalRecord : conditionalRecord.Lawful id :=
  (lawful_required Codec.settles_int _).both
    ((lawful_required Codec.settles_int _).both
      ((lawful_required Condition.lawful_record.codec _).both
        (lawful_required TargetFilter.lawful_record.codec _) (by decide)) (by decide)) (by decide)

theorem lawful_healthRecord (absent : Party) : (healthRecord absent).Lawful id :=
  (lawful_required Codec.settles_int _).both
    (lawful_defaulted PlayerFilter.lawful_record.codec _ (by cases absent <;> rfl))
    (by cases absent <;> decide)

theorem lawful_filterRecord : filterRecord.Lawful id :=
  lawful_required TargetFilter.lawful_record.codec _

theorem lawful_drawRecord : drawRecord.Lawful id :=
  (lawful_required Codec.settles_nat _).both
    ((lawful_defaulted Codec.settles_nat _ rfl).both
      (lawful_optional FieldRaceCondition.lawful_record.codec (solid_codec _) _)
      (by decide)) (by decide)

end Atom

theorem AtomKind.lawful_record (k : AtomKind) : k.record.Lawful id := by
  cases k with
  | modifyAtk | modifyHp => exact Atom.lawful_changeRecord
  | conditionalModifyAtk | conditionalModifyHp => exact Atom.lawful_conditionalRecord
  | playerHeal | playerDamage => exact Atom.lawful_healthRecord _
  | killCard | removeDebuffs | addImmunity => exact Atom.lawful_filterRecord
  | clearField =>
      exact lawful_optional ClearFieldFilter.lawful_record.codec (solid_codec _) _
  | freeze =>
      exact (lawful_required Codec.settles_nat _).both Atom.lawful_filterRecord (by decide)
  | gainCoins =>
      exact (lawful_required Codec.settles_nat _).both
        (lawful_optional CoinCondition.lawful_record.codec (solid_codec _) _) (by decide)
  | conditionalKillPlayer => exact lawful_required KillCondition.lawful_record.codec _
  | cascadeDamage | drawFromDiscard | freezeOnFirstAttack | swapRandomHands =>
      exact lawful_required Codec.settles_nat _
  | drawCards => exact Atom.lawful_drawRecord
  | discardAndRedraw | hellLordBonus | swapBattlefields | skipTurn => exact lawful_nothing
  | uiModeMessage => exact lawful_required Codec.settles_text _

/-! ## Calls -/

namespace Call

theorem lawful_knownRecord (k : AtomKind) : (knownRecord k).Lawful id :=
  ((lawful_constant _ _).both k.lawful_record (by cases k <;> decide)).iso
    (fun _ => rfl) (fun _ => rfl)

/-- What is read of the writing of a call: members that are null are gone, and numbers that
are not finite are null. -/
def settled : Call → Call
  | known a => known a
  | unknown name ms => unknown name (Json.membersOnlyFinite (told ms))

theorem write_known_of (k : AtomKind) (p : k.Parameters) :
    write (known (.of k p)) = (knownRecord k).codec.write p := by
  cases k <;> rfl

/-- No member but the name is called as the name is. -/
theorem readUnknown_nameless {v : Json} {name : String} {ms : List (String × Json)}
    (h : readUnknown v = .ok (unknown name ms)) : ∀ p ∈ ms, p.1 ≠ "atom" := by
  cases v with
  | obj members =>
      simp only [readUnknown] at h
      split at h
      · cases h
      · cases h
        intro p mem
        simpa using (List.mem_filter.mp mem).2
      · cases h
  | null | bool _ | num _ | str _ | arr _ => cases h

theorem read_write_unknown {name : String} {ms : List (String × Json)}
    (wordless : (Vocabulary.read? name : Option AtomKind) = none)
    (nameless : ∀ p ∈ ms, p.1 ≠ "atom") :
    read (write (unknown name ms)) = .ok (settled (unknown name ms)) := by
  have kept : ∀ keep : String × Json → Bool, (∀ p, keep p = (p.1 != "atom")) →
      (Json.membersOnlyFinite (told ms)).filter keep = Json.membersOnlyFinite (told ms) := by
    intro keep keeps
    refine List.filter_eq_self.mpr fun p mem => ?_
    rw [Json.membersOnlyFinite_eq_map] at mem
    obtain ⟨q, there, rfl⟩ := List.mem_map.mp mem
    rw [keeps]
    exact bne_iff_ne.mpr (nameless q (List.mem_of_mem_filter there))
  have named : (write (unknown name ms)).get? "atom" = some (.str name) := rfl
  have again : readUnknown (write (unknown name ms)) = .ok (settled (unknown name ms)) := by
    simp only [write, readUnknown, Json.find?, List.lookup_cons_self, settled]
    rw [List.filter_cons_of_neg (by simp), kept _ fun p => rfl]
  simp only [read, named, wordless, again, Verdict.under]

theorem settles_codec : codec.Settles settled := by
  intro v c readCall
  simp only [codec, read] at readCall
  split at readCall
  · cases readCall
  · cases readCall
  · rename_i s named
    split at readCall
    · rename_i k _
      obtain ⟨p, readAs, rfl⟩ := Verdict.map_eq_ok readCall
      have again := (lawful_knownRecord k).codec v p (Verdict.under_eq_ok readAs)
      have word : (write (known (.of k p))).get? "atom" = some (.str k.word) := by
        cases k <;> rfl
      have reads : Vocabulary.read? k.word = some k := Vocabulary.read?_word k
      simp only [codec, read, word, reads]
      rw [write_known_of, again]
      rfl
    · rename_i wordless
      obtain ⟨name, ms, rfl, named'⟩ := readUnknown_eq_ok (Verdict.under_eq_ok readCall)
      rw [named] at named'
      cases named'
      exact read_write_unknown wordless (readUnknown_nameless (Verdict.under_eq_ok readCall))
  · rename_i nameless
    obtain ⟨name, ms, rfl, named⟩ := readUnknown_eq_ok (Verdict.under_eq_ok readCall)
    exact absurd named (nameless name)

/-! ### What the writing leaves out -/

/-- The call without the members that are null. -/
def trimmed : Call → Call
  | known a => known a
  | unknown name ms => unknown name (told ms)

/-- No number that an unchecked call is told, at any depth, is infinite or none. -/
def IsFinite : Call → Prop
  | known _ => True
  | unknown _ ms => Json.membersFinite ms = true

/-- No member of an unchecked call is by itself a number that is infinite or none. -/
def IsSteady : Call → Prop
  | known _ => True
  | unknown _ ms => ∀ p ∈ ms, ∀ n, p.2 = .num n → n.quotient?.isSome = true

/-- No member of an unchecked call is null. -/
def IsFull : Call → Prop
  | known _ => True
  | unknown _ ms => ∀ p ∈ ms, p.2.isNull = false

variable {c : Call}

theorem settled_eq_trimmed (finite : c.IsFinite) : c.settled = c.trimmed := by
  cases c with
  | known a => rfl
  | unknown name ms =>
      have all : Json.membersFinite (told ms) = true := by
        rw [IsFinite, Json.membersFinite_eq_all, List.all_eq_true] at finite
        rw [Json.membersFinite_eq_all, List.all_eq_true]
        exact fun p mem => finite p (List.mem_of_mem_filter mem)
      rw [settled, trimmed, Json.membersOnlyFinite_eq_self _ all]

theorem trimmed_eq_self (full : c.IsFull) : c.trimmed = c := by
  cases c with
  | known a => rfl
  | unknown name ms =>
      have all : told ms = ms := List.filter_eq_self.mpr fun p mem => by simp [full p mem]
      rw [trimmed, all]

theorem told_settled {ms : List (String × Json)}
    (steady : ∀ p ∈ ms, ∀ n, p.2 = .num n → n.quotient?.isSome = true) :
    told (Json.membersOnlyFinite (told ms)) = Json.membersOnlyFinite (told ms) := by
  refine List.filter_eq_self.mpr fun p mem => ?_
  rw [Json.membersOnlyFinite_eq_map] at mem
  obtain ⟨q, there, rfl⟩ := List.mem_map.mp mem
  obtain ⟨member, some⟩ := List.mem_filter.mp there
  have some : q.2.isNull = false := by simpa using some
  simp only [Json.isNull_onlyFinite some (steady q member), Bool.not_false]

/-- A steady call has the same writing after it was written and read. -/
theorem write_settled (steady : c.IsSteady) : c.settled.write = c.write := by
  cases c with
  | known a => rfl
  | unknown name ms =>
      rw [settled, write, told_settled steady,
        Json.membersOnlyFinite_eq_self _ (Json.membersFinite_membersOnlyFinite _), write]

theorem isWritable_settled (steady : c.IsSteady) : c.settled.isWritable = c.isWritable := by
  cases c with
  | known a => rfl
  | unknown name ms =>
      rw [settled, isWritable, told_settled steady, Json.membersNestWithin_membersOnlyFinite,
        isWritable]

end Call

/-! ## Entries -/

namespace CardEffect

theorem lawful_headRecord : headRecord.Lawful id :=
  (lawful_required Codec.settles_nonEmptyText _).both
    ((lawful_required (Codec.settles_word _) _).both
      ((lawful_defaulted (Codec.settles_word _) _ (Codec.read_write_word _ _)).both
        ((lawful_defaulted Codec.settles_bool _ rfl).both
          (lawful_optional TargetFilter.lawful_record.codec (solid_codec _) _)
          (by decide)) (by decide)) (by decide)) (by decide)

/-- What is read of the writing of an entry. -/
def settled (e : CardEffect) : CardEffect := { e with effects := e.effects.map Call.settled }

theorem lawful_record : record.Lawful settled :=
  (lawful_headRecord.both
    ((lawful_defaulted Codec.settles_bool _ rfl).both
      ((lawful_optional (Codec.settles_word _) (Codec.solid_word _) _).both
        ((lawful_defaulted Codec.settles_text _ rfl).both
          ((lawful_optional CountRaceAura.lawful_record.codec (solid_codec _) _).both
            (lawful_defaulted Call.settles_codec.list _ rfl)
            (by decide)) (by decide)) (by decide)) (by decide)) (by decide)).iso
    (fun _ => rfl) (fun _ => rfl)

theorem settles_codec : codec.Settles settled := lawful_record.codec

variable {e : CardEffect}

theorem write_settled (steady : ∀ call ∈ e.effects, call.IsSteady) :
    codec.write e.settled = codec.write e := by
  have calls : (Codec.list Call.codec).write e.settled.effects
      = (Codec.list Call.codec).write e.effects := by
    refine congrArg Json.arr ?_
    rw [settled, List.map_map]
    exact List.map_congr_left fun call mem => Call.write_settled (steady call mem)
  simp only [codec, Record.codec, record, Record.iso, Record.both, bodyRecord, defaulted, calls]
  rfl

/-- An entry of steady calls has the same writing after it was written and read. -/
theorem toJson_settled (steady : ∀ call ∈ e.effects, call.IsSteady) :
    e.settled.toJson = e.toJson := by
  have writable : e.settled.effects.all Call.isWritable = e.effects.all Call.isWritable := by
    rw [settled, List.all_map, Bool.eq_iff_iff, List.all_eq_true, List.all_eq_true]
    refine forall₂_congr fun call mem => ?_
    rw [Function.comp_apply, Call.isWritable_settled (steady call mem)]
  rw [toJson, toJson, writable, write_settled steady]

/-- The entry with its calls trimmed. -/
def trimmed (e : CardEffect) : CardEffect := { e with effects := e.effects.map Call.trimmed }

theorem settled_eq_trimmed (finite : ∀ call ∈ e.effects, call.IsFinite) :
    e.settled = e.trimmed := by
  have calls : e.effects.map Call.settled = e.effects.map Call.trimmed :=
    List.map_congr_left fun call mem => Call.settled_eq_trimmed (finite call mem)
  rw [settled, trimmed, calls]

theorem trimmed_eq_self (full : ∀ call ∈ e.effects, call.IsFull) : e.trimmed = e := by
  have calls : e.effects.map Call.trimmed = e.effects :=
    (List.map_congr_left fun call mem => Call.trimmed_eq_self (full call mem)).trans
      (List.map_id e.effects)
  rw [trimmed, calls]

end CardEffect

end LaneDuel
