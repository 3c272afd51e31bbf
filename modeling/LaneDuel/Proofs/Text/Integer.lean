/-
# LaneDuel.Proofs.Text.Integer -- written integers are read

A key names an integer of at most 4300 digits, in the digits of any script
(`readInt?_lt`).  Each such integer that is positive has a plain writing, in ASCII digits
and without a sign, which reads back as the integer (`readInt?_toString`).  The integers
that can be written are those below the same limit (`writable_iff`).
-/
import Mathlib.Data.Nat.Digits.Defs
import LaneDuel.Text.Integer

namespace LaneDuel.Text

set_option autoImplicit false

/-! ## Digits of any script -/

theorem decimalDigit?_lt {c : Char} {d : Nat} (h : decimalDigit? c = some d) : d < 10 := by
  obtain ⟨first, found, rfl⟩ := Option.map_eq_some_iff.mp h
  have within := List.find?_some found
  simp only [decide_eq_true_eq] at within
  omega

theorem digits_of_digitRun? {digit? : Char → Option Nat} {cs : List Char} {ds : List Nat}
    (h : digitRun? digit? cs = some ds) : ∀ d ∈ ds, ∃ c, digit? c = some d := by
  fun_induction digitRun? digit? cs generalizing ds with
  | case1 => cases h
  | case2 c =>
      obtain ⟨d, read, rfl⟩ := Option.map_eq_some_iff.mp h
      exact fun d' mem => ⟨c, List.mem_singleton.mp mem ▸ read⟩
  | case3 c rest ih =>
      obtain ⟨d, read, h⟩ := Option.bind_eq_some_iff.mp h
      obtain ⟨others, readOthers, h⟩ := Option.bind_eq_some_iff.mp h
      cases h
      exact List.forall_mem_cons.mpr ⟨⟨c, read⟩, ih readOthers⟩
  | case4 c rest _ _ ih =>
      obtain ⟨d, read, h⟩ := Option.bind_eq_some_iff.mp h
      obtain ⟨others, readOthers, h⟩ := Option.bind_eq_some_iff.mp h
      cases h
      exact List.forall_mem_cons.mpr ⟨⟨c, read⟩, ih readOthers⟩

theorem foldl_digits_lt {ds : List Nat} (digits : ∀ d ∈ ds, d < 10) (n : Nat) :
    ds.foldl (fun n d => 10 * n + d) n < (n + 1) * 10 ^ ds.length := by
  induction ds generalizing n with
  | nil => simp
  | cons d ds ih =>
      have small : d < 10 := digits d List.mem_cons_self
      calc
        (d :: ds).foldl (fun n d => 10 * n + d) n
            < (10 * n + d + 1) * 10 ^ ds.length :=
              ih (fun d mem => digits d (List.mem_cons_of_mem _ mem)) _
        _ ≤ ((n + 1) * 10) * 10 ^ ds.length := Nat.mul_le_mul_right _ (by omega)
        _ = (n + 1) * 10 ^ (d :: ds).length := by rw [List.length_cons, pow_succ']; ring

/-- What a text names has at most as many digits as a written integer may have. -/
theorem readInt?_lt {s : String} {n : Int} (h : readInt? s = some n) : n < 10 ^ digitLimit := by
  simp only [readInt?] at h
  split at h
  · rename_i ds run
    split at h
    · rename_i fits
      have digits : ∀ d ∈ ds, d < 10 := by
        intro d mem
        obtain ⟨c, read⟩ := digits_of_digitRun? run d mem
        exact decimalDigit?_lt read
      have bound : ofDigits ds < 10 ^ digitLimit := by
        have below := foldl_digits_lt digits 0
        rw [zero_add, one_mul] at below
        exact below.trans_le (Nat.pow_le_pow_right (by decide) fits)
      have bound : (ofDigits ds : Int) < 10 ^ digitLimit := by exact_mod_cast bound
      cases h
      rw [signed]
      split
      · omega
      · exact bound
    · cases h
  · cases h

/-! ## Few enough digits -/

theorem fitsDigits_iff {k n : Nat} : fitsDigits k n = true ↔ n < 10 ^ k := by
  induction k generalizing n with
  | zero => rw [fitsDigits, beq_iff_eq, pow_zero, Nat.lt_one_iff]
  | succ k ih =>
      rw [fitsDigits, Bool.or_eq_true, beq_iff_eq, ih, Nat.div_lt_iff_lt_mul (by decide), pow_succ,
        or_iff_right_iff_imp]
      rintro rfl
      positivity

theorem writable_iff {n : Int} : writable n = true ↔ n.natAbs < 10 ^ digitLimit := fitsDigits_iff

/-- What is positive and below the limit can be written. -/
theorem writable_of_lt {n : Int} (positive : 0 < n) (below : n < 10 ^ digitLimit) :
    writable n = true := by
  have size : (n.natAbs : Int) < (10 ^ digitLimit : Nat) := by
    rw [Int.natAbs_of_nonneg positive.le]
    exact_mod_cast below
  exact writable_iff.mpr (Int.ofNat_lt.mp size)

/-! ## The plain writing -/

theorem toNat_of_isDigit {c : Char} (h : c.isDigit = true) : 48 ≤ c.toNat ∧ c.toNat < 58 := by
  simp only [Char.isDigit, Bool.and_eq_true, decide_eq_true_eq, ge_iff_le,
    UInt32.le_iff_toNat_le] at h
  obtain ⟨low, high⟩ := h
  change 48 ≤ c.toNat at low
  change c.toNat ≤ 57 at high
  exact ⟨low, by omega⟩

theorem decimalDigit?_of_isDigit {c : Char} (h : c.isDigit = true) :
    decimalDigit? c = some (c.toNat - 48) := by
  have within := toNat_of_isDigit h
  rw [decimalDigit?, zeroDigits, List.find?_cons_of_pos (by simpa using within)]
  rfl

theorem isBlank_of_isDigit {c : Char} (h : c.isDigit = true) : isBlank c = false := by
  have within := toNat_of_isDigit h
  simp only [isBlank, Bool.or_eq_false_iff, Bool.and_eq_false_iff, decide_eq_false_iff_not,
    beq_eq_false_iff_ne]
  omega

theorem ne_of_isDigit {c d : Char} (h : c.isDigit = true) (other : d.isDigit = false) : c ≠ d := by
  rintro rfl
  rw [h] at other
  cases other

theorem digitRun?_of_isDigit {cs : List Char} (some : cs ≠ [])
    (digits : ∀ c ∈ cs, c.isDigit = true) :
    digitRun? decimalDigit? cs = .some (cs.map fun c => c.toNat - 48) := by
  fun_induction digitRun? decimalDigit? cs with
  | case1 => exact absurd rfl some
  | case2 c => rw [decimalDigit?_of_isDigit (digits c List.mem_cons_self)]; rfl
  | case3 c rest _ =>
      have underscore := digits '_' (List.mem_cons_of_mem c List.mem_cons_self)
      exact absurd underscore (by decide)
  | case4 c rest more _ ih =>
      rw [decimalDigit?_of_isDigit (digits c List.mem_cons_self),
        ih more fun c mem => digits c (List.mem_cons_of_mem _ mem)]
      rfl

theorem trimBy_eq_self {p : Char → Bool} {cs : List Char} (none : ∀ c ∈ cs, p c = false) :
    trimBy p cs = cs := by
  have kept : ∀ l : List Char, (∀ c ∈ l, p c = false) → l.dropWhile p = l := by
    intro l none
    cases l with
    | nil => rfl
    | cons c l => exact List.dropWhile_cons_of_neg (by simp [none c List.mem_cons_self])
  rw [trimBy, kept cs none, kept cs.reverse fun c mem => none c (List.mem_reverse.mp mem),
    List.reverse_reverse]

theorem splitSign_of_isDigit {cs : List Char} (digits : ∀ c ∈ cs, c.isDigit = true) :
    splitSign cs = (false, cs) := by
  fun_cases splitSign cs with
  | case1 rest => exact absurd (digits '-' List.mem_cons_self) (by decide)
  | case2 rest => exact absurd (digits '+' List.mem_cons_self) (by decide)
  | case3 => rfl

theorem toList_toString_natCast (n : Nat) : (toString (n : Int)).toList = Nat.toDigits 10 n := by
  show (Int.repr (Int.ofNat n)).toList = _
  simp only [Int.repr, Nat.repr, String.toList_ofList]

theorem isDigit_of_mem_toString {n : Nat} : ∀ c ∈ (toString (n : Int)).toList, c.isDigit = true := by
  rw [toList_toString_natCast]
  exact fun c mem => Nat.isDigit_of_mem_toDigits (by decide) (by decide) mem

/-- The plain writing of a number that is not too long is read as the number. -/
theorem readInt?_toString {n : Nat} (fits : n < 10 ^ digitLimit) :
    readInt? (toString (n : Int)) = some (n : Int) := by
  have digits := isDigit_of_mem_toString (n := n)
  have plain : trim (toString (n : Int)) = Nat.toDigits 10 n := by
    rw [trim, trimBy_eq_self fun c mem => isBlank_of_isDigit (digits c mem),
      toList_toString_natCast]
  rw [toList_toString_natCast] at digits
  have few : (Nat.toDigits 10 n).length ≤ digitLimit :=
    (Nat.length_toDigits_le_iff (by decide) (by decide)).mpr fits
  have value : ofDigits ((Nat.toDigits 10 n).map fun c => c.toNat - 48) = n := by
    rw [ofDigits, List.foldl_map]
    exact Nat.ofDigitChars_toDigits (by decide) (by decide)
  simp only [readInt?, plain, splitSign_of_isDigit digits,
    digitRun?_of_isDigit Nat.toDigits_ne_nil digits, List.length_map, few, if_true, value]
  rfl

end LaneDuel.Text
