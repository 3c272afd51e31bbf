/-
# LaneDuel.Proofs.Loose.Diagnostics -- watching does not disturb a play

A play may be watched with or without traces, in any words, and with or without a listener.
Whether traces are recorded is asked in one place of a run, and there only where no card acts
(`Act.perform_tracing`), so it has no part in what is done, drawn or told
(`Engine.resolve_tracing`).  Words come in when the journal is written, and writing it event by
event records what a filter over the whole log does (`Journal.Live.write_eq`).

`Engine.watch_alike` puts both together: two watches of one play see the same end, the same
spoken entries up to their words, and every listener hears what was recorded.

Left out is that a trace fails to be put into words, which it does only where traces are
recorded: where it shows an integer of too many digits as the number of the card or within a
name that is no text.  The number of a card that was read is never too long
(`Catalog.Sound.writable`), and names of typed cards are texts.
-/
import LaneDuel.Proofs.Loose.Course

namespace LaneDuel

set_option autoImplicit false

namespace Loose

variable {ρ : Type} [RandomSource ρ]

/-! ## Recording traces -/

section Scene

variable (side : Side) (o : Origin) (target : Option Origin) (tracing tracing' : Bool)

/-- With an acting card a trace is told either way, and recording it is left to the journal. -/
theorem Act.perform_tracing (a : Atom) :
    (Act.perform ⟨side, some o, target, tracing⟩ a : Act ρ Unit)
      = Act.perform ⟨side, some o, target, tracing'⟩ a := by
  cases a <;> rfl

theorem Executor.perform_tracing (x : Executor) :
    (x.perform ⟨side, some o, target, tracing⟩ : Act ρ Unit)
      = x.perform ⟨side, some o, target, tracing'⟩ := by
  cases x with
  | checked a => exact Act.perform_tracing side o target tracing tracing' a
  | unchecked u =>
      cases u with
      | plain a => exact Act.perform_tracing side o target tracing tracing' a
      | _ => rfl

namespace Engine

theorem runCalls_tracing (library : Library) (cardId : Json) (index : Nat) (calls : List Call) :
    (runCalls library cardId ⟨side, some o, target, tracing⟩ index calls : Act ρ Unit)
      = runCalls library cardId ⟨side, some o, target, tracing'⟩ index calls := by
  induction calls generalizing index with
  | nil => rfl
  | cons call calls ih =>
      rw [runCalls, runCalls, ih]
      cases library.build call with
      | error fault => rfl
      | ok x =>
          simp only [Executor.perform_tracing side o target tracing tracing' x]
          rfl

theorem resolveEntry_tracing (e : Engine) (cardId : Json) (entry : CardEffect) (s : State)
    (r : Run ρ) (aimed : Bool) :
    e.resolveEntry cardId entry s ⟨⟨side, some o, target, tracing⟩, r, aimed⟩
      = e.resolveEntry cardId entry s ⟨⟨side, some o, target, tracing'⟩, r, aimed⟩ := by
  simp only [resolveEntry, play,
    runCalls_tracing side o target tracing tracing' e.library cardId 0 entry.effects]

end Engine

end Scene

namespace Engine

/-- Where something was prepared, a card acts. -/
theorem resolveLoose_tracing (e : Engine) (tracing tracing' : Bool) (cardId : Json)
    (entry : CardEffect) (inv : Invocation) (s : State) (b : Board) (source : ρ) :
    e.resolveLoose tracing cardId entry inv s b source
      = e.resolveLoose tracing' cardId entry inv s b source := by
  rw [resolveLoose, resolveLoose]
  cases acting : inv.card with
  | none => simp only [prepare, acting]
  | some c =>
      rw [prepare_of_card acting, prepare_of_card acting]
      simp only
      cases (if (locateIn b c.instanceId LaneDuel.Engine.actorZones).isSome = true then .ok c
        else c.copy : Except Failure Card) with
      | error f => rfl
      | ok own =>
          cases (Vocabulary.ofJson "Side" inv.player : Except Failure Side) with
          | error f => rfl
          | ok side => exact resolveEntry_tracing side _ _ tracing tracing' e cardId entry s _ _

/-- Recording traces has no part in a play. -/
theorem resolve_tracing (e : Engine) (tracing tracing' : Bool) (cardId : Json) (inv : Invocation)
    (s : State) (source : ρ) :
    e.resolve tracing cardId inv s source = e.resolve tracing' cardId inv s source := by
  rw [resolve, resolve]
  cases e.catalog.find cardId with
  | error f => rfl
  | ok found =>
      cases found with
      | none => rfl
      | some entry =>
          cases s.board with
          | error f => rfl
          | ok b => simp only [resolveLoose_tracing e tracing tracing']

end Engine

/-! ## Watching -/

/-- Two watched plays came to the same end, and what they tell has the same levels and keys;
in the same words it is the same. -/
structure Watched.Alike (w w' : Watch) (t t' : Watched) : Prop where
  state : t.state = t'.state
  status : t.status = t'.status
  outline : t.spoken.map (fun e => (e.level, e.key)) = t'.spoken.map fun e => (e.level, e.key)
  words : w.book = w'.book → t.spoken = t'.spoken

namespace Watch

theorem put_alike (w w' : Watch) (r : Resolution State) : (w.put r).Alike w w' (w'.put r) where
  state := rfl
  status := rfl
  outline := by
    rw [put_spoken, put_spoken]
    exact Journal.outline_entries w.book w'.book false r.events
  words same := by rw [put_spoken, put_spoken, same]

end Watch

namespace Engine

/-- **Diagnostics.**  Whether traces are recorded, in which words a play is told and whether
somebody listens has no part in it: both watches leave the source alike and see the same end
or the same failure, and every listener hears what was recorded. -/
theorem watch_alike (e : Engine) (w w' : Watch) (cardId : Json) (inv : Invocation) (s : State)
    (source : ρ) :
    let o := e.watch w cardId inv s source
    let o' := e.watch w' cardId inv s source
    o.2 = o'.2 ∧
      match o.1, o'.1 with
      | .ok t, .ok t' => t.Alike w w' t' ∧ t.Heard w ∧ t'.Heard w'
      | .error f, .error f' => f = f'
      | _, _ => False := by
  simp only [watch, resolve_tracing e w'.tracing w.tracing, true_and]
  cases (e.resolve w.tracing cardId inv s source).result with
  | error f => exact rfl
  | ok r => exact ⟨w.put_alike w' r, w.put_heard r, w'.put_heard r⟩

end Engine

end Loose

end LaneDuel
