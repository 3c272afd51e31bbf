/-
# LaneDuel.Proofs.Shuffle -- every order of a list, and each as likely

A shuffle asks its source one question for each position from the last down to the
second: which of the positions up to this one goes there.  Its outcome depends on the
vector of choices only.

* `Choices n js`: a vector of choices for the bounds from `n` down to 1, each within
  its bound.  `exchanges js` are the pairs of positions it exchanges.
* `rearrange_cons`: the first choice settles the last position for good, and the others
  rearrange what is left.  Of distinct elements each order is therefore come to by one
  vector exactly (`existsUnique_choices`).
* `fairChoices n`: independent choices, each number up to its bound as likely as any
  other.  Under them each of the `n!` orders has the same chance (`rearrange_apply`).

With bounds that are one too small the outcome would still be a rearrangement, but orders
that leave an element in its place would never come.  That is excluded by the existence of
the vector, and a bias within the exact bounds by its uniqueness.
-/
import Mathlib.Probability.Distributions.Uniform
import LaneDuel.Proofs.Random

namespace LaneDuel

set_option autoImplicit false

universe u

open scoped ENNReal Nat

variable {α : Type u}

/-! ## Choices -/

/-- The choices for the bounds from `n` down to 1, each from 0 to its bound. -/
inductive Choices : Nat → List Nat → Prop
  | nil : Choices 0 []
  | cons {n j : Nat} {js : List Nat} (inside : j ≤ n + 1) (rest : Choices n js) :
      Choices (n + 1) (j :: js)

/-- The pairs of positions that a vector of choices exchanges, in order. -/
def exchanges : List Nat → List (Nat × Nat)
  | [] => []
  | j :: js => (js.length + 1, j) :: exchanges js

theorem rearrange_eq_foldl (js : List Nat) (xs : List α) :
    rearrange js xs = (exchanges js).foldl (fun ys e => swapAt ys e.1 e.2) xs := by
  induction js generalizing xs with
  | nil => rfl
  | cons j js ih => exact ih (swapAt xs (js.length + 1) j)

namespace Choices

variable {n : Nat} {js : List Nat}

theorem length_eq (choices : Choices n js) : js.length = n := by
  induction choices with
  | nil => rfl
  | cons inside rest ih => rw [List.length_cons, ih]

/-- Every exchange is of a position above the first with one that is not above it. -/
theorem exchanges_inside (choices : Choices n js) :
    ∀ e ∈ exchanges js, e.2 ≤ e.1 ∧ 0 < e.1 ∧ e.1 ≤ n := by
  induction choices with
  | nil => exact fun e listed => absurd listed List.not_mem_nil
  | @cons n j js inside rest ih =>
      intro e listed
      obtain rfl | later := List.mem_cons.mp listed
      · rw [rest.length_eq]
        exact ⟨inside, Nat.succ_pos n, Nat.le_refl _⟩
      · obtain ⟨below, positive, within⟩ := ih e later
        exact ⟨below, positive, Nat.le_succ_of_le within⟩

end Choices

/-! ## Exchanging two positions -/

/-- Inside a list both positions are exchanged. -/
theorem swapAt_eq_set {xs : List α} {i j : Nat} (hi : i < xs.length) (hj : j < xs.length) :
    swapAt xs i j = (xs.set i xs[j]).set j xs[i] := by
  rw [swapAt, List.getElem?_eq_getElem hi, List.getElem?_eq_getElem hj]

theorem length_swapAt (xs : List α) (i j : Nat) : (swapAt xs i j).length = xs.length :=
  (swapAt_perm xs i j).length_eq

theorem swapAt_append {xs : List α} {i j : Nat} (hi : i < xs.length) (hj : j < xs.length)
    (ys : List α) : swapAt (xs ++ ys) i j = swapAt xs i j ++ ys := by
  have grown : xs.length ≤ (xs ++ ys).length := by
    rw [List.length_append]
    exact Nat.le_add_right _ _
  rw [swapAt_eq_set hi hj, swapAt_eq_set (hi.trans_le grown) (hj.trans_le grown),
    List.getElem_append_left hi, List.getElem_append_left hj, List.set_append_left _ _ hi,
    List.set_append_left _ _ (by rwa [List.length_set])]

/-- What is left to rearrange once the last position holds what was at position `j`. -/
def leftover (xs : List α) (j : Nat) : List α := (swapAt xs (xs.length - 1) j).dropLast

theorem length_leftover (xs : List α) (j : Nat) : (leftover xs j).length = xs.length - 1 := by
  rw [leftover, List.length_dropLast, length_swapAt]

/-- Exchanging with the last position brings the chosen element there. -/
theorem swapAt_last {xs : List α} {j : Nat} (inside : j < xs.length) :
    swapAt xs (xs.length - 1) j = leftover xs j ++ [xs[j]] := by
  have last : xs.length - 1 < xs.length := by omega
  have filled : swapAt xs (xs.length - 1) j ≠ [] := by
    rw [← List.length_pos_iff, length_swapAt]
    omega
  have chosen : (swapAt xs (xs.length - 1) j).getLast filled = xs[j] := by
    rw [List.getLast_eq_getElem]
    simp only [swapAt_eq_set last inside, List.length_set, List.getElem_set]
    split
    · rename_i already
      simp only [already]
    · rfl
  rw [leftover, ← chosen, List.dropLast_concat_getLast]

/-- The chosen element and what is left are all there was. -/
theorem leftover_perm {xs : List α} {j : Nat} (inside : j < xs.length) :
    (leftover xs j ++ [xs[j]]).Perm xs := by
  rw [← swapAt_last inside]
  exact swapAt_perm xs _ j

/-! ## One vector for each order -/

/-- Choices for the front of a list leave what follows alone. -/
theorem Choices.rearrange_append {n : Nat} {js : List Nat} (choices : Choices n js) {xs : List α}
    (enough : n < xs.length) (ys : List α) : rearrange js (xs ++ ys) = rearrange js xs ++ ys := by
  induction choices generalizing xs with
  | nil => rfl
  | @cons n j js inside rest ih =>
      have exchanged := length_swapAt xs (n + 1) j
      rw [rearrange, rearrange, rest.length_eq, swapAt_append enough (by omega), ih (by omega)]

/-- The first choice settles the last position, the others rearrange what is left. -/
theorem Choices.rearrange_cons {n j : Nat} {js : List Nat} (rest : Choices n js) {xs : List α}
    (length : xs.length = n + 2) (inside : j < xs.length) :
    rearrange (j :: js) xs = rearrange js (leftover xs j) ++ [xs[j]] := by
  have left := length_leftover xs j
  have last : js.length + 1 = xs.length - 1 := by
    rw [rest.length_eq]
    omega
  rw [rearrange, last, swapAt_last inside, rest.rearrange_append (by omega)]

/-- **Each order of distinct elements is come to by one vector of choices.** -/
theorem existsUnique_choices {n : Nat} {xs ys : List α} (length : xs.length - 1 = n)
    (distinct : xs.Nodup) (order : ys.Perm xs) : ∃! js, Choices n js ∧ rearrange js xs = ys := by
  induction n generalizing xs ys with
  | zero =>
      -- at most one element, so there is one order, and nothing to choose
      have same : xs = ys := by
        match xs, length with
        | [], _ => exact (List.perm_nil.mp order).symm
        | [x], _ => exact (List.perm_singleton.mp order).symm
      refine ⟨[], ⟨.nil, same⟩, ?_⟩
      rintro js ⟨choices, -⟩
      cases choices
      rfl
  | succ n ih =>
      have filled : xs.length = n + 2 := by omega
      obtain ⟨front, last, rfl⟩ : ∃ front last, ys = front ++ [last] :=
        ⟨_, _, (List.dropLast_append_getLast (by
          rw [← List.length_pos_iff, order.length_eq]
          omega)).symm⟩
      -- the last element of the order tells the first choice
      obtain ⟨j, inside, rfl⟩ := List.getElem_of_mem (order.subset List.mem_concat_self)
      have onto : front.Perm (leftover xs j) :=
        (List.perm_append_right_iff _).mp (order.trans (leftover_perm inside).symm)
      have apart : (leftover xs j).Nodup :=
        ((leftover_perm inside).nodup_iff.mpr distinct).sublist (List.sublist_append_left _ _)
      obtain ⟨js, ⟨rest, outcome⟩, only⟩ := ih (by rw [length_leftover]; omega) apart onto
      refine ⟨j :: js, ⟨.cons (by omega) rest, ?_⟩, ?_⟩
      · rw [rest.rearrange_cons filled inside, outcome]
      · rintro _ ⟨choices, outcome'⟩
        cases choices with
        | @cons _ j' js' inside' rest' =>
            rw [rest'.rearrange_cons filled (by omega)] at outcome'
            obtain ⟨fronts, lasts⟩ := List.append_inj' outcome' rfl
            have same : j' = j := distinct.getElem_inj_iff.mp (List.singleton_inj.mp lasts)
            subst same
            rw [only js' ⟨rest', fronts⟩]

/-! ## What a source answers -/

section Source

variable {ρ : Type} [RandomSource ρ]

/-- A source that answers within the bounds draws a vector of choices. -/
theorem choices_drawChoices
    (inRange : ∀ (r : ρ) (bound : Nat), (RandomSource.below r bound).1 ≤ bound) (n : Nat) (r : ρ) :
    Choices n (drawChoices n r).1 := by
  induction n generalizing r with
  | zero => exact .nil
  | succ n ih => exact .cons (inRange r (n + 1)) (ih _)

theorem shuffle_fst (xs : List α) (r : ρ) :
    (shuffle xs r).1 = rearrange (drawChoices (xs.length - 1) r).1 xs := rfl

end Source

/-- A source whose answers are written down beforehand; then it answers zero. -/
structure Script where
  answers : List Nat
deriving DecidableEq, Repr

instance : RandomSource Script where
  below s _ := (s.answers.headD 0, ⟨s.answers.tail⟩)
  sample s _ k := (List.range k, s)
  refusesNegative := true

/-- A script of so many answers is what is drawn from it. -/
theorem drawChoices_script {n : Nat} {js : List Nat} (length : js.length = n) :
    (drawChoices n (Script.mk js)).1 = js := by
  induction n generalizing js with
  | zero => exact (List.length_eq_zero_iff.mp length).symm
  | succ n ih =>
      cases js with
      | nil => cases length
      | cons j js => exact congrArg (j :: ·) (ih (Nat.succ.inj length))

/-! ## Chance -/

/-- Independent choices for the bounds from `n` down to 1, each number up to the bound
as likely as any other. -/
noncomputable def fairChoices : Nat → PMF (List Nat)
  | 0 => PMF.pure []
  | n + 1 =>
    (PMF.uniformOfFinset (Finset.range (n + 2)) Finset.nonempty_range_add_one).bind
      fun j => (fairChoices n).map (j :: ·)

/-- A source in a random state is unbiased when what it draws for the bounds from `n` down
to 1 are independent fair choices. -/
def Unbiased {ρ : Type} [RandomSource ρ] (start : PMF ρ) (n : Nat) : Prop :=
  start.map (fun r => (drawChoices n r).1) = fairChoices n

theorem choices_of_mem_support {n : Nat} {js : List Nat} (possible : js ∈ (fairChoices n).support) :
    Choices n js := by
  induction n generalizing js with
  | zero =>
      rw [fairChoices, PMF.support_pure, Set.mem_singleton_iff] at possible
      exact possible ▸ .nil
  | succ n ih =>
      rw [fairChoices, PMF.mem_support_bind_iff] at possible
      obtain ⟨j, chosen, possible⟩ := possible
      obtain ⟨rest, remains, rfl⟩ := (PMF.mem_support_map_iff _ _ _).mp possible
      rw [PMF.mem_support_uniformOfFinset_iff, Finset.mem_range] at chosen
      exact .cons (by omega) (ih remains)

/-- What a function takes to a value from one possible argument only is as likely as it. -/
theorem map_apply_of_unique {β γ : Type*} (p : PMF β) (f : β → γ) {b : β}
    (only : ∀ b' ∈ p.support, f b' = f b → b' = b) : p.map f (f b) = p b := by
  rw [PMF.map_apply, tsum_eq_single b, if_pos rfl]
  intro b' other
  split
  · rename_i same
    exact (p.apply_eq_zero_iff b').mpr fun possible => other (only b' possible same.symm)
  · rfl

/-- Only what a function does to possible arguments matters. -/
theorem map_congr_of_support {β γ : Type*} (p : PMF β) {f g : β → γ}
    (same : ∀ b ∈ p.support, f b = g b) : p.map f = p.map g := by
  refine PMF.ext fun c => ?_
  rw [PMF.map_apply, PMF.map_apply]
  refine tsum_congr fun b => ?_
  by_cases possible : b ∈ p.support
  · rw [same b possible]
  · rw [(p.apply_eq_zero_iff b).mpr possible, ite_self, ite_self]

/-- Every vector of choices is as likely as any other. -/
theorem fairChoices_apply {n : Nat} {js : List Nat} (choices : Choices n js) :
    fairChoices n js = ((n + 1)! : ℝ≥0∞)⁻¹ := by
  induction choices with
  | nil => simp [fairChoices]
  | @cons n j js inside rest ih =>
      have first : PMF.uniformOfFinset (Finset.range (n + 2)) Finset.nonempty_range_add_one j
          = ((n + 2 : Nat) : ℝ≥0∞)⁻¹ := by
        rw [PMF.uniformOfFinset_apply_of_mem _ (Finset.mem_range.mpr (by omega)),
          Finset.card_range]
      have others : ((fairChoices n).map (j :: ·)) (j :: js) = fairChoices n js :=
        map_apply_of_unique _ (j :: ·) fun _ _ same => List.tail_eq_of_cons_eq same
      have apart : ∀ j', j' ≠ j → ((fairChoices n).map (j' :: ·)) (j :: js) = 0 := by
        intro j' other
        rw [PMF.apply_eq_zero_iff, PMF.mem_support_map_iff]
        rintro ⟨_, -, same⟩
        exact other (List.head_eq_of_cons_eq same)
      have inverse : ((n + 2)! : ℝ≥0∞)⁻¹ = ((n + 2 : Nat) : ℝ≥0∞)⁻¹ * ((n + 1)! : ℝ≥0∞)⁻¹ := by
        rw [Nat.factorial_succ, Nat.cast_mul]
        exact ENNReal.mul_inv (.inl (Nat.cast_ne_zero.mpr (Nat.succ_ne_zero _)))
          (.inl (ENNReal.natCast_ne_top _))
      rw [fairChoices, PMF.bind_apply, tsum_eq_single j, first, others, ih, ← inverse]
      intro j' other
      rw [apart j' other, mul_zero]

/-- **Fair choices bring every order of distinct elements with the same chance.** -/
theorem rearrange_apply {xs ys : List α} (distinct : xs.Nodup) (order : ys.Perm xs) :
    ((fairChoices (xs.length - 1)).map (rearrange · xs)) ys = (xs.length ! : ℝ≥0∞)⁻¹ := by
  obtain ⟨js, ⟨choices, rfl⟩, only⟩ := existsUnique_choices rfl distinct order
  have counted : (xs.length - 1 + 1)! = xs.length ! := by
    cases xs <;> rfl
  rw [map_apply_of_unique, fairChoices_apply choices, counted]
  intro js' possible same
  exact only js' ⟨choices_of_mem_support possible, same⟩

/-- Scripts of fair choices are an unbiased source. -/
theorem unbiased_script (n : Nat) : Unbiased ((fairChoices n).map Script.mk) n := by
  rw [Unbiased, PMF.map_comp]
  refine (map_congr_of_support _ fun js possible => ?_).trans (PMF.map_id _)
  exact drawChoices_script (choices_of_mem_support possible).length_eq

theorem shuffle_apply {ρ : Type} [RandomSource ρ] {start : PMF ρ} {xs ys : List α}
    (fair : Unbiased start (xs.length - 1)) (distinct : xs.Nodup) (order : ys.Perm xs) :
    (start.map fun r => (shuffle xs r).1) ys = (xs.length ! : ℝ≥0∞)⁻¹ := by
  have drawn : (fun r : ρ => (shuffle xs r).1)
      = (rearrange · xs) ∘ fun r => (drawChoices (xs.length - 1) r).1 := rfl
  rw [drawn, ← PMF.map_comp, fair, rearrange_apply distinct order]

/-! ## Fairness -/

/-- **A shuffle is fair.**  Of distinct elements every order comes from one vector of choices
exactly.  Whatever a source answers within the bounds, the shuffle is a course of exchanges
inside the list that the answers alone decide, and it loses nothing and doubles nothing.  From
an unbiased source every order of distinct elements has the same chance. -/
theorem shuffle_fair (xs : List α) :
    (xs.Nodup → ∀ ys, ys.Perm xs →
        ∃! js, Choices (xs.length - 1) js ∧ (shuffle xs (Script.mk js)).1 = ys) ∧
      (∀ {ρ : Type} [RandomSource ρ],
        (∀ (r : ρ) (bound : Nat), (RandomSource.below r bound).1 ≤ bound) → ∀ r : ρ,
          let js := (drawChoices (xs.length - 1) r).1
          Choices (xs.length - 1) js ∧
            (∀ e ∈ exchanges js, e.2 ≤ e.1 ∧ e.1 < xs.length) ∧
            (shuffle xs r).1 = (exchanges js).foldl (fun ys e => swapAt ys e.1 e.2) xs ∧
            (shuffle xs r).1 = (shuffle xs (Script.mk js)).1 ∧
            (shuffle xs r).1.Perm xs) ∧
      (xs.Nodup → ∀ {ρ : Type} [RandomSource ρ] (start : PMF ρ),
        Unbiased start (xs.length - 1) → ∀ ys, ys.Perm xs →
          (start.map fun r => (shuffle xs r).1) ys = (xs.length ! : ℝ≥0∞)⁻¹) := by
  have scripted : ∀ js, Choices (xs.length - 1) js →
      (shuffle xs (Script.mk js)).1 = rearrange js xs := by
    intro js choices
    rw [shuffle_fst, drawChoices_script choices.length_eq]
  refine ⟨fun distinct ys order => ?_, fun inRange r => ?_,
    fun distinct _ _ start fair ys order => shuffle_apply fair distinct order⟩
  · obtain ⟨js, ⟨choices, outcome⟩, only⟩ := existsUnique_choices rfl distinct order
    refine ⟨js, ⟨choices, (scripted js choices).trans outcome⟩, ?_⟩
    rintro js' ⟨choices', outcome'⟩
    exact only js' ⟨choices', (scripted js' choices').symm.trans outcome'⟩
  · have choices := choices_drawChoices inRange (xs.length - 1) r
    refine ⟨choices, fun e listed => ?_, rearrange_eq_foldl _ xs, (scripted _ choices).symm,
      shuffle_perm xs r⟩
    obtain ⟨below, positive, within⟩ := choices.exchanges_inside e listed
    exact ⟨below, by omega⟩

namespace Example

/-- Three cards by their names. -/
def squad : List String := ["knight", "ogre", "omen"]

theorem squad_shuffled_fairly :
    squad.Nodup ∧ ["omen", "knight", "ogre"].Perm squad ∧
      (∃! js, Choices 2 js ∧ (shuffle squad (Script.mk js)).1 = ["omen", "knight", "ogre"]) ∧
      (∀ (r : Lcg) (bound : Nat), (RandomSource.below r bound).1 ≤ bound) ∧
      Choices 2 (drawChoices 2 (Lcg.ofSeed 7)).1 ∧
      (shuffle squad (Lcg.ofSeed 7)).1.Perm squad ∧
      Unbiased ((fairChoices 2).map Script.mk) 2 ∧
      (((fairChoices 2).map Script.mk).map fun r => (shuffle squad r).1)
          ["omen", "knight", "ogre"] = ((3)! : ℝ≥0∞)⁻¹ := by
  have distinct : squad.Nodup := by decide
  have order : ["omen", "knight", "ogre"].Perm squad := by decide
  obtain ⟨once, kept, likely⟩ := shuffle_fair squad
  obtain ⟨choices, -, -, -, perm⟩ := kept Lcg.below_le (Lcg.ofSeed 7)
  have fair := unbiased_script 2
  exact ⟨distinct, order, once distinct _ order, Lcg.below_le, choices, perm, fair,
    likely distinct _ fair _ order⟩

end Example

end LaneDuel
