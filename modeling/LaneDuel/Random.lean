/-
# LaneDuel.Random -- chance as an injected source

The rules ask a random source for two things: a number up to a bound, and a
choice of positions in a list.  `LawfulRandomSource` says what every source
promises: answers stay in range and a choice names distinct positions.  Asked for
fewer than no positions, a source refuses or chooses none, as it says of itself.

* `shuffle` first draws its whole vector of choices (`drawChoices`), then
  exchanges positions by it (`rearrange`), so the outcome is a function of the
  list and the vector alone.
* `Lcg` is a small linear congruential source that a seed reproduces.
-/

namespace LaneDuel

set_option autoImplicit false

universe u

/-- A source of chance with state `ρ`. -/
class RandomSource (ρ : Type) where
  /-- A number from 0 to the bound, both included. -/
  below : ρ → Nat → Nat × ρ
  /-- So many positions of a list of the given length, in the order chosen. -/
  sample : ρ → Nat → Nat → List Nat × ρ
  /-- Whether a choice of fewer than no positions is refused; otherwise none is chosen. -/
  refusesNegative : Bool

/-- What every source promises. -/
class LawfulRandomSource (ρ : Type) [RandomSource ρ] : Prop where
  below_le : ∀ (r : ρ) (bound : Nat), (RandomSource.below r bound).1 ≤ bound
  sample_length : ∀ (r : ρ) (n k : Nat), k ≤ n → (RandomSource.sample r n k).1.length = k
  sample_lt : ∀ (r : ρ) (n k : Nat), k ≤ n → ∀ i ∈ (RandomSource.sample r n k).1, i < n
  sample_nodup : ∀ (r : ρ) (n k : Nat), k ≤ n → (RandomSource.sample r n k).1.Nodup

variable {ρ : Type} [RandomSource ρ] {α : Type u}

/-! ## Shuffling -/

/-- Exchange two positions; positions outside the list change nothing. -/
def swapAt (xs : List α) (i j : Nat) : List α :=
  match xs[i]?, xs[j]? with
  | some a, some b => (xs.set i b).set j a
  | _, _ => xs

/-- Choices for the bounds from `n` down to 1. -/
def drawChoices : Nat → ρ → List Nat × ρ
  | 0, r => ([], r)
  | n + 1, r =>
    let (j, r) := RandomSource.below r (n + 1)
    let (js, r) := drawChoices n r
    (j :: js, r)

/-- Exchange the last position with the first choice, the one before it with the
second, and so on down to position 1. -/
def rearrange : List Nat → List α → List α
  | [], xs => xs
  | j :: js, xs => rearrange js (swapAt xs (js.length + 1) j)

def shuffle (xs : List α) (r : ρ) : List α × ρ :=
  let (choices, r) := drawChoices (xs.length - 1) r
  (rearrange choices xs, r)

/-- So many elements at positions the source chooses. -/
def pick (xs : List α) (k : Nat) (r : ρ) : List α × ρ :=
  let (positions, r) := RandomSource.sample r xs.length k
  (positions.filterMap (xs[·]?), r)

/-! ## A reproducible source -/

/-- The state of the source, below `Lcg.modulus`. -/
structure Lcg where
  state : Nat
deriving DecidableEq, Repr

namespace Lcg

def modulus : Nat := 2147483648

def ofSeed (seed : Int) : Lcg := ⟨(seed % modulus).toNat⟩

def next (g : Lcg) : Lcg := ⟨(g.state * 1103515245 + 12345) % modulus⟩

def below (g : Lcg) (bound : Nat) : Nat × Lcg :=
  (g.next.state / 65536 % (bound + 1), g.next)

/-- Take `k` positions out of a pool, one at a time. -/
def sampleFrom : Nat → List Nat → Lcg → List Nat × Lcg
  | 0, _, g => ([], g)
  | k + 1, pool, g =>
    let (j, g) := g.below (pool.length - 1)
    let (rest, g) := sampleFrom k (pool.eraseIdx j) g
    (pool[j]?.toList ++ rest, g)

instance : RandomSource Lcg where
  below := Lcg.below
  sample g n k := sampleFrom k (List.range n) g
  refusesNegative := false

end Lcg

end LaneDuel
