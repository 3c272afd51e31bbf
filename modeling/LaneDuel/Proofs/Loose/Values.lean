/-
# LaneDuel.Proofs.Loose.Values -- reckoning with typed values

On integers and texts the loose operations never fail and are the plain ones, and
what a checked card tells of itself as a loose card is what it tells as a checked
one.  These laws are all that the loose effects need to know of values.
-/
import LaneDuel.Loose.Perform
import LaneDuel.Proofs.Loose.Typed

namespace LaneDuel

set_option autoImplicit false

/-! ## Numbers -/

namespace Number

theorem compare?_int (a b : Int) : compare? (.int a) (.int b) = some (compare a b) := by
  simp only [compare?, quotient?, Int.natCast_one, Int.mul_one]

theorem less_int (a b : Int) : less (.int a) (.int b) = decide (a < b) := by
  have compared : (some (compare a b) == some .lt) = true ↔ a < b := by
    rw [beq_iff_eq, Option.some.injEq, Std.compare_eq_lt]
  rw [less, compare?_int, Bool.eq_iff_iff, compared, decide_eq_true_iff]

theorem equal_int (a b : Int) : equal (.int a) (.int b) = decide (a = b) := by
  have compared : (some (compare a b) == some .eq) = true ↔ a = b := by
    rw [beq_iff_eq, Option.some.injEq, Std.compare_eq_eq_iff_eq]
  rw [equal, compare?_int, Bool.eq_iff_iff, compared, decide_eq_true_iff]

theorem atMost_int (a b : Int) : atMost (.int a) (.int b) = decide (a ≤ b) := by
  rw [atMost, less_int, equal_int, Bool.eq_iff_iff, Bool.or_eq_true]
  simp only [decide_eq_true_iff]
  omega

end Number

namespace Loose

theorem add_int (a b : Int) : add (.int a) (.int b) = .ok (.int (a + b)) := rfl

theorem increase_int (a b : Int) : increase (.int a) (.int b) = .ok (.int (a + b)) := rfl

theorem sub_int (a b : Int) : sub (.int a) (.int b) = .ok (.int (a - b)) := rfl

theorem less_int (a b : Int) : less (.int a) (.int b) = .ok (decide (a < b)) := by
  rw [← Number.less_int]
  rfl

theorem atMost_int (a b : Int) : atMost (.int a) (.int b) = .ok (decide (a ≤ b)) := by
  rw [← Number.atMost_int]
  rfl

theorem larger_int (a b : Int) : larger (.int a) (.int b) = .ok (.int (max a b)) := by
  rw [larger, less_int, Except.ok_bind]
  by_cases below : a < b
  · rw [Int.max_eq_right (Int.le_of_lt below), decide_eq_true below]
    rfl
  · rw [Int.max_eq_left (Int.not_lt.mp below), decide_eq_false below]
    rfl

theorem smaller_int (a b : Int) : smaller (.int a) (.int b) = .ok (.int (min a b)) := by
  rw [smaller, less_int, Except.ok_bind]
  by_cases below : b < a
  · rw [Int.min_eq_right (Int.le_of_lt below), decide_eq_true below]
    rfl
  · rw [Int.min_eq_left (Int.not_lt.mp below), decide_eq_false below]
    rfl

/-! ## Sets of texts -/

theorem isAmong_str (set : List String) (s : String) :
    isAmong (set.map .str) (.str s) = .ok (set.contains s) := by
  rw [isAmong, if_pos (isKey_str s), List.any_map, List.contains_eq_any_beq]
  simp only [Function.comp_def, same_str]

/-! ## What a card tells of itself -/

section Cards

variable (c : LaneDuel.Card)

theorem hasAnyRace_ofChecked (races : List String) :
    (Card.ofChecked c).hasAnyRace races = .ok (c.hasRace races) := by
  have primary : isAmong (races.map .str) (Card.ofChecked c).primaryRace
      = .ok (races.contains c.primaryRace) := isAmong_str races c.primaryRace
  have secondary : isAmong (races.map .str) (Card.ofChecked c).secondaryRace
      = .ok (races.contains c.secondaryRace) := isAmong_str races c.secondaryRace
  rw [Card.hasAnyRace, Card.hasRace, primary, secondary, LaneDuel.Card.hasRace, Except.ok_bind]
  cases races.contains c.primaryRace <;> rfl

theorem isRarity_ofChecked (rarity : String) :
    (Card.ofChecked c).isRarity rarity = (c.rarity == rarity) := same_str _ _

theorem anyRarity_ofChecked (rarities : List String) :
    rarities.any (Card.ofChecked c).isRarity = rarities.contains c.rarity := by
  rw [List.contains_eq_any_beq]
  rfl

theorem isKind_ofChecked (k : Kind) : (Card.ofChecked c).kind.isKind k = (c.kind == k) := by
  have words : (Card.ofChecked c).kind.isKind k
      = (Vocabulary.word c.kind == Vocabulary.word k) := same_str _ _
  rw [words]
  cases c.kind <;> cases k <;> rfl

theorem isMiracle_ofChecked : (Card.ofChecked c).isMiracle = c.isMiracle := isKind_ofChecked c _

theorem isFrozen_ofChecked : (Card.ofChecked c).isFrozen = .ok c.isFrozen := less_int _ _

/-- A test that ends a question when it fails is a conjunction. -/
theorem ite_not_ok (test rest : Bool) :
    (if (!test) = true then Except.ok false else .ok rest : Except Failure Bool)
      = .ok (test && rest) := by
  cases test <;> rfl

theorem meets_ofChecked (condition : Condition) :
    meets condition (.ofChecked c) = .ok (condition.admits c) := by
  have yes : (pure true : Except Failure Bool) = .ok true := rfl
  have no : (pure false : Except Failure Bool) = .ok false := rfl
  simp only [meets, Condition.admits, hasAnyRace_ofChecked, anyRarity_ofChecked, isKind_ofChecked,
    Except.ok_bind, yes, no]
  cases asked condition.race <;> cases asked condition.rarity <;> cases condition.kind <;>
    simp only [ite_not_ok, Bool.and_true, Bool.true_and, Bool.and_assoc]

theorem admits_ofChecked (condition : Option Condition) :
    admits condition (.ofChecked c) = .ok (LaneDuel.admits condition c) := by
  cases condition with
  | none => rfl
  | some condition => exact meets_ofChecked c condition

end Cards

end Loose

end LaneDuel
