/-
# LaneDuel.Proofs.Engine.InStep -- corresponding runs stay in step through a chain

Call by call from `Atom.perform_matches`.  The two runs may count their calls from
different places as long as nobody hears of the counts.  Where the sides are crossed
the ids must stay distinct, and that takes a lawful source.
-/
import LaneDuel.Proofs.Effect.InStep
import LaneDuel.Proofs.Engine.Chain

namespace LaneDuel

set_option autoImplicit false

theorem Library.eq_known_of_atom? {library : Library} {call : Call} {a : Atom}
    (h : library.atom? call = some a) : call = .known a := by
  cases call with
  | known a' =>
      rw [atom?] at h
      split at h
      · rw [Option.some.inj h]
      · cases h
  | unknown name ms => cases h

namespace Engine

variable {ρ : Type} [RandomSource ρ]

/-- **Corresponding runs stay in step through any calls**, but for those that go through
both sides red first, where the sides are crossed. -/
theorem runCalls_matches {φ : Correspondence} (library : Library) (cardId : Int) {b : Binding}
    (binds : φ.Binds b) (calls : List Call)
    (fair : φ.crossed = true → ∀ a, Call.known a ∈ calls → ¬ a.RedFirst)
    (lawful : φ.crossed = true → LawfulRandomSource ρ) (index index' : Nat)
    (counts : index' = index ∨ ∀ i name, φ.heard (.trace (.step cardId i name)) = false)
    {l r : Run ρ} (h : φ.Matches l r) (distinct : φ.crossed = true → l.Distinct) :
    φ.Matches (runCalls library cardId b index calls l)
      (runCalls library cardId (φ.binding b) index' calls r) := by
  induction calls generalizing index index' l r with
  | nil => exact h
  | cons call calls ih =>
      have later : φ.crossed = true → ∀ a, Call.known a ∈ calls → ¬ a.RedFirst :=
        fun crossed a member => fair crossed a (List.mem_cons_of_mem call member)
      have counts' : index' + 1 = index + 1 ∨
          ∀ i name, φ.heard (.trace (.step cardId i name)) = false :=
        counts.imp_left (congrArg (· + 1))
      rw [runCalls, runCalls]
      cases known : library.atom? call with
      | none => exact ih later _ _ counts' (h.tell fun _ => rfl) distinct
      | some a =>
          have counted : φ.Matches (l.tell [.trace (.step cardId index call.name)])
              (r.tell [.trace (.step cardId index' call.name)]) := by
            apply h.tell_heard
            rcases counts with same | unheard
            · rw [same]
            · simp [unheard]
          have first : Call.known a ∈ call :: calls :=
            Library.eq_known_of_atom? known ▸ List.mem_cons_self
          have done := Atom.perform_matches counted binds distinct
            fun crossed => fair crossed a first
          refine ih later _ _ counts' done fun crossed => ?_
          have := lawful crossed
          have told := l.tell_conserves [.trace (.step cardId index call.name)]
          have distinct' := told.distinct (distinct crossed)
          exact (Atom.perform_conserves distinct' b a).distinct distinct'

end Engine

end LaneDuel
