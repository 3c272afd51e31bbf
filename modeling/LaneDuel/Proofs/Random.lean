/-
# LaneDuel.Proofs.Random -- what shuffles and choices keep

Whatever a source answers, a shuffle loses and doubles nothing
(`shuffle_perm`), and both a shuffle and a choice look at positions only: they
commute with renaming the elements (`shuffle_map`, `pick_map`).  Of a lawful
source a choice takes as many elements as are asked for, each position at most once
(`length_pick`, `pick_subperm`), so it names no element twice (`pick_nodup`).

`Lcg` is lawful, so what is proved of every lawful source holds of it.
-/
import Mathlib.Data.List.Nodup
import Mathlib.Data.List.Perm.Basic
import LaneDuel.Random

namespace LaneDuel

set_option autoImplicit false

universe u v

variable {ρ : Type} [RandomSource ρ] {α : Type u} {β : Type v}

/-! ## Shuffling -/

theorem swapAt_perm (xs : List α) (i j : Nat) : (swapAt xs i j).Perm xs := by
  unfold swapAt
  split
  · rename_i a b atI atJ
    obtain ⟨iLt, rfl⟩ := List.getElem?_eq_some_iff.mp atI
    obtain ⟨jLt, rfl⟩ := List.getElem?_eq_some_iff.mp atJ
    exact List.set_set_perm iLt jLt
  · exact List.Perm.refl xs

theorem rearrange_perm (choices : List Nat) (xs : List α) : (rearrange choices xs).Perm xs := by
  induction choices generalizing xs with
  | nil => exact List.Perm.refl xs
  | cons j js ih => exact (ih (swapAt xs (js.length + 1) j)).trans (swapAt_perm xs _ j)

theorem shuffle_perm (xs : List α) (r : ρ) : (shuffle xs r).1.Perm xs :=
  rearrange_perm _ xs

theorem swapAt_map (f : α → β) (xs : List α) (i j : Nat) :
    swapAt (xs.map f) i j = (swapAt xs i j).map f := by
  simp only [swapAt, List.getElem?_map]
  cases xs[i]? <;> cases xs[j]? <;> simp [List.map_set]

theorem rearrange_map (f : α → β) (choices : List Nat) (xs : List α) :
    rearrange choices (xs.map f) = (rearrange choices xs).map f := by
  induction choices generalizing xs with
  | nil => rfl
  | cons j js ih => rw [rearrange, swapAt_map, ih, rearrange]

theorem shuffle_map (f : α → β) (xs : List α) (r : ρ) :
    shuffle (xs.map f) r = ((shuffle xs r).1.map f, (shuffle xs r).2) := by
  simp only [shuffle, List.length_map, rearrange_map]

/-! ## Choosing -/

theorem pick_map (f : α → β) (xs : List α) (k : Nat) (r : ρ) :
    pick (xs.map f) k r = ((pick xs k r).1.map f, (pick xs k r).2) := by
  simp only [pick, List.length_map, List.getElem?_map, List.map_filterMap]

theorem mem_of_mem_pick {xs : List α} {k : Nat} {r : ρ} {a : α} (h : a ∈ (pick xs k r).1) :
    a ∈ xs := by
  obtain ⟨i, -, found⟩ := List.mem_filterMap.mp h
  exact List.mem_of_getElem? found

/-- Choosing every position in order chooses the list. -/
theorem filterMap_range (xs : List α) : (List.range xs.length).filterMap (xs[·]?) = xs := by
  induction xs with
  | nil => rfl
  | cons x xs ih =>
      rw [List.length_cons, List.range_succ_eq_map, List.filterMap_cons, List.getElem?_cons_zero,
        List.filterMap_map]
      exact congrArg (x :: ·) ih

section Lawful

variable [LawfulRandomSource ρ] {xs : List α} {k : Nat}

/-- A choice takes each position of a list at most once. -/
theorem pick_subperm (enough : k ≤ xs.length) (r : ρ) : (pick xs k r).1.Subperm xs := by
  have positions : (RandomSource.sample r xs.length k).1 ⊆ List.range xs.length := by
    intro i chosen
    exact List.mem_range.mpr (LawfulRandomSource.sample_lt r xs.length k enough i chosen)
  obtain ⟨l, same, sub⟩ :=
    List.subperm_of_subset (LawfulRandomSource.sample_nodup r xs.length k enough) positions
  have taken := sub.filterMap (xs[·]?)
  rw [filterMap_range] at taken
  exact ⟨_, same.filterMap _, taken⟩

theorem length_pick (enough : k ≤ xs.length) (r : ρ) : (pick xs k r).1.length = k := by
  have found : ∀ i ∈ (RandomSource.sample r xs.length k).1, (xs[i]?).isSome = true := by
    intro i chosen
    have inside := LawfulRandomSource.sample_lt r xs.length k enough i chosen
    rw [List.getElem?_eq_getElem inside, Option.isSome_some]
  have all := List.filterMap_length_eq_length.mpr found
  exact all.trans (LawfulRandomSource.sample_length r xs.length k enough)

theorem pick_nodup (distinct : xs.Nodup) (enough : k ≤ xs.length) (r : ρ) :
    (pick xs k r).1.Nodup := by
  obtain ⟨l, same, sub⟩ := pick_subperm enough r
  exact same.nodup_iff.mp (sub.nodup distinct)

end Lawful

/-! ## The reproducible source -/

namespace Lcg

theorem below_le (g : Lcg) (bound : Nat) : (g.below bound).1 ≤ bound :=
  Nat.lt_succ_iff.mp (Nat.mod_lt _ (Nat.succ_pos bound))

/-- Taking positions out of a pool one at a time takes each at most once, and as
many as were asked for. -/
theorem sampleFrom_subperm {k : Nat} {pool : List Nat} (enough : k ≤ pool.length) (g : Lcg) :
    (sampleFrom k pool g).1.Subperm pool ∧ (sampleFrom k pool g).1.length = k := by
  induction k generalizing pool g with
  | zero => exact ⟨List.nil_subperm, rfl⟩
  | succ k ih =>
      have inside : (g.below (pool.length - 1)).1 < pool.length := by
        have := below_le g (pool.length - 1)
        omega
      have left : k ≤ (pool.eraseIdx (g.below (pool.length - 1)).1).length := by
        rw [List.length_eraseIdx_of_lt inside]
        omega
      obtain ⟨rest, count⟩ := ih left (g.below (pool.length - 1)).2
      simp only [sampleFrom, List.getElem?_eq_getElem inside, Option.toList_some,
        List.singleton_append, List.length_cons, count, and_true]
      exact ((List.subperm_cons _).mpr rest).trans
        (List.getElem_cons_eraseIdx_perm inside).subperm

theorem enough_range {n k : Nat} (enough : k ≤ n) : k ≤ (List.range n).length := by
  rw [List.length_range]
  exact enough

instance : LawfulRandomSource Lcg where
  below_le := below_le
  sample_length r n k enough :=
    (sampleFrom_subperm (enough_range enough) r).2
  sample_lt r n k enough i chosen := by
    have taken := (sampleFrom_subperm (enough_range enough) r).1
    exact List.mem_range.mp (taken.subset chosen)
  sample_nodup r n k enough := by
    obtain ⟨l, same, sub⟩ :=
      (sampleFrom_subperm (enough_range enough) r).1
    exact same.nodup_iff.mp (sub.nodup List.nodup_range)

end Lcg

end LaneDuel
