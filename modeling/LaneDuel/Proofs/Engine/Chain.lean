/-
# LaneDuel.Proofs.Engine.Chain -- the run behind a play

`Engine.chain` is the working run after some calls of a chain: what `resolve`
settles when all calls of an entry have run, and what the next call sees before.

* `chain_append`, `chain_snoc`: a chain goes on where its first calls left it.
* `bindTarget_eq`, `bindActor_eq`: both bindings are searches of the run's
  beginning, so a bound card is a name that lies on the table.
* `chain_distinct`: ids that were distinct stay so.
-/
import LaneDuel.Proofs.Engine.Conservation

namespace LaneDuel.Engine

set_option autoImplicit false

variable {ρ : Type}

/-! ## Binding -/

theorem bindTarget_eq (s : State) (inv : Invocation) (t : Card) (source : ρ) :
    bindTarget s t = (begin s inv source).findById t.instanceId [.battlefield] :=
  (Run.findById_enter s _ _ source _ _).symm

theorem bindActor_eq (s : State) (inv : Invocation) (card : Card) (source : ρ) :
    bindActor s card = ((begin s inv source).findById card.instanceId actorZones).getD .actor := by
  rw [begin, Run.findById_enter, bindActor]
  cases State.locate s card.instanceId actorZones <;> rfl

/-- A bound target is the name of a card with its id on the table. -/
theorem mem_cards_of_bindTarget {s : State} {t : Card} {o : Origin}
    (found : bindTarget s t = some o) (inv : Invocation) (source : ρ) :
    ((begin s inv source).cards o).instanceId = t.instanceId ∧
      o ∈ (begin s inv source).table.cards := by
  rw [bindTarget_eq s inv t source] at found
  exact Run.findById_eq_some found

/-! ## Chains -/

variable [RandomSource ρ]

/-- The run of some calls on a state, not yet settled. -/
def chain (library : Library) (cardId : Int) (inv : Invocation) (s : State) (source : ρ)
    (calls : List Call) : Run ρ :=
  runCalls library cardId (bind s inv) 0 calls (begin s inv source)

theorem runCalls_append (library : Library) (cardId : Int) (b : Binding) (index : Nat)
    (calls calls' : List Call) (r : Run ρ) :
    runCalls library cardId b index (calls ++ calls') r
      = runCalls library cardId b (index + calls.length) calls'
          (runCalls library cardId b index calls r) := by
  induction calls generalizing index r with
  | nil => rfl
  | cons call calls ih =>
      have shift : index + (call :: calls).length = index + 1 + calls.length := by
        rw [List.length_cons]
        omega
      rw [List.cons_append, runCalls, runCalls, shift]
      split
      · exact ih _ _
      · exact ih _ _

theorem chain_append (library : Library) (cardId : Int) (inv : Invocation) (s : State)
    (source : ρ) (calls calls' : List Call) :
    chain library cardId inv s source (calls ++ calls')
      = runCalls library cardId (bind s inv) calls.length calls'
          (chain library cardId inv s source calls) := by
  rw [chain, runCalls_append, Nat.zero_add, chain]

/-- One more call of a known atom tells of the step and carries the atom out. -/
theorem chain_snoc (library : Library) (cardId : Int) (inv : Invocation) (s : State) (source : ρ)
    (calls : List Call) {a : Atom} (known : library.has a.kind = true) :
    ∃ name, chain library cardId inv s source (calls ++ [.known a])
      = a.perform (bind s inv) ((chain library cardId inv s source calls).tell
          [.trace (.step cardId calls.length name)]) := by
  have found : library.atom? (.known a) = some a := by
    rw [Library.atom?, if_pos known]
  refine ⟨(Call.known a).name, ?_⟩
  rw [chain_append, runCalls, found]
  rfl

/-- A play that is not stopped early settles the chain of its entry. -/
theorem resolve_eq_finish {e : Engine} {cardId : Int} {entry : CardEffect} {inv : Invocation}
    {s : State} (found : e.catalog.get? cardId = some entry) (kept : targetLost s inv = false)
    (aimed : (entry.needsTarget && inv.target.isNone) = false) (plain : entry.uiMode = none)
    (source : ρ) :
    e.resolve cardId inv s source
      = finish (chain e.library cardId inv s source entry.effects) := by
  unfold resolve
  simp only [found, kept, aimed, plain, Bool.false_eq_true, if_false]
  rfl

section Lawful

variable [LawfulRandomSource ρ]

theorem chain_conserves (library : Library) (cardId : Int) (inv : Invocation) {s : State}
    (distinct : s.instanceIds.Nodup) (source : ρ) (calls : List Call) :
    (begin s inv source).Conserves (chain library cardId inv s source calls) :=
  runCalls_conserves library cardId _ 0 calls (Run.distinct_enter distinct _ _ _)

theorem chain_distinct (library : Library) (cardId : Int) (inv : Invocation) {s : State}
    (distinct : s.instanceIds.Nodup) (source : ρ) (calls : List Call) :
    (chain library cardId inv s source calls).Distinct :=
  (chain_conserves library cardId inv distinct source calls).distinct
    (Run.distinct_enter distinct _ _ _)

end Lawful

end LaneDuel.Engine
