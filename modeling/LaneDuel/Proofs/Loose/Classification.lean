/-
# LaneDuel.Proofs.Loose.Classification -- how a play of typed data ends

Whatever library of names an engine has and whether traces are recorded, a play of
typed data ends in one of five ways, told apart in this order (`resolve_classified`):
no entry, a target that is lost, a target that is missing, an entry with a mode of
its own, or a chain that has run.  The first four are *stops*: the state that was
given comes back as it was, nothing has been drawn from the source, and the journal
holds the entries of the stop's notices and no others.  A listener, where there is one,
has heard their messages and nothing else.
-/
import LaneDuel.Proofs.Engine.Stops
import LaneDuel.Proofs.Loose.Typed
import LaneDuel.Proofs.Loose.Watch

namespace LaneDuel

set_option autoImplicit false

namespace Loose

variable {ρ : Type}

/-- A play that ran nothing.  The given state comes back in every field, the source has
not advanced, and the journal holds some notices' entries only.  Whoever watches sees
these entries and no others, and hears their messages if listening. -/
structure Outcome.Stopped (o : Outcome ρ) (given : State) (source : ρ) (tracing : Bool)
    (status : Status) (notices : List Notice) : Prop where
  result : o.result = .ok ⟨given, status, notices.map .notice⟩
  source : o.source = source
  entries : ∀ book, Journal.entries book tracing (notices.map .notice)
    = notices.map fun n => ⟨n.level, n.key, n.text book⟩
  watched : ∀ w : Watch, w.tracing = tracing →
    o.result.map w.put
      = .ok ⟨given, status, notices.map fun n => ⟨n.level, n.key, n.text w.book⟩,
          if w.listening then some (notices.map (·.text w.book)) else none⟩

/-- A checked play counts where all that it tells can be put into words. -/
theorem Checked.resolve?_getD [RandomSource ρ] (c : Checked) (given : State) (source : ρ)
    (loose : Outcome ρ) :
    (c.resolve? given source).getD loose
      = if (c.engine.resolve c.cardId c.invocation c.state source).resolution.events.all
          Event.writable then c.resolve given source else loose := by
  rw [resolve?, apply_ite (Option.getD · loose), Option.getD_some, Option.getD_none]

namespace Engine

open LaneDuel.Engine (stop? targetLost OffField)

theorem stopped_leave (given : State) (source : ρ) (tracing : Bool) (status : Status)
    (notices : List Notice) :
    (leave given source status (notices.map .notice)).Stopped given source tracing status
      notices where
  result := rfl
  source := rfl
  entries book := Journal.entries_notices book tracing notices
  watched w _ := congrArg Except.ok (w.put_notices given status notices)

variable [RandomSource ρ]

/-- A play of typed data is checked as a whole where the library is a checked one. -/
theorem check?_ofChecked (e : Engine) (cardId : Int) (inv : LaneDuel.Invocation)
    (s : LaneDuel.State) :
    e.check? (.int cardId) (.ofChecked inv) (.ofChecked s)
      = e.library.check?.map fun l => ⟨⟨e.catalog, l⟩, cardId, inv, s⟩ := by
  simp only [check?, Invocation.check?_ofChecked, Board.check?_ofChecked, Json.int]
  cases e.library.check? <;> rfl

theorem targetLost_eq (s : LaneDuel.State) (inv : LaneDuel.Invocation) :
    (inv.target.isSome && (LaneDuel.Engine.bind s inv).target.isNone) = targetLost s inv := by
  rw [targetLost, LaneDuel.Engine.bind]
  cases inv.target <;> rfl

/-- The loose course of a play of typed data, after its entry was found. -/
theorem resolveLoose_ofChecked (e : Engine) (tracing : Bool) (cardId : Int) (entry : CardEffect)
    (inv : LaneDuel.Invocation) (given : State) (s : LaneDuel.State) (source : ρ) :
    e.resolveLoose tracing (.int cardId) entry (.ofChecked inv) given (.ofChecked s) source
      = if targetLost s inv then
          leave given source .aborted [.notice .targetLost]
        else if entry.needsTarget && inv.target.isNone then
          leave given source .aborted [.notice (.targetRequired entry.name)]
        else
          match entry.uiMode with
          | some mode => leave given source .uiMode [.notice (.uiMode entry.name mode)]
          | none => e.play (.int cardId) entry.effects
              ⟨.ofBinding tracing (LaneDuel.Engine.bind s inv),
                .enter (.ofChecked s) (.ofChecked inv.card) (.ofChecked (inv.target.getD inv.card))
                  source, inv.target.isSome⟩ := by
  have missing : (!inv.target.isSome) = inv.target.isNone := by cases inv.target <;> rfl
  simp only [resolveLoose, prepare_ofChecked, resolveEntry, ← targetLost_eq, ← missing]
  rfl

/-- A play of typed data stops where the checked play does, in the same way. -/
theorem resolve_of_stop? {e : Engine} {cardId : Int} {inv : LaneDuel.Invocation}
    {s : LaneDuel.State} {stop : Status × List Notice}
    (h : stop? e.catalog cardId inv s = some stop) (tracing : Bool) (source : ρ) :
    e.resolve tracing (.int cardId) (.ofChecked inv) (.ofChecked s) source
      = leave (.ofChecked s) source stop.1 (stop.2.map .notice) := by
  simp only [resolve, find_int, State.board_ofChecked, check?_ofChecked]
  rcases LaneDuel.Engine.stop?_eq_some_iff.mp h with ⟨found, rfl⟩ | ⟨entry, found, reason⟩
  · rw [found]
    rfl
  · have loose : e.resolveLoose tracing (.int cardId) entry (.ofChecked inv) (.ofChecked s)
        (.ofChecked s) source = leave (.ofChecked s) source stop.1 (stop.2.map .notice) := by
      rw [resolveLoose_ofChecked]
      rcases reason with ⟨lost, rfl⟩ | ⟨kept, ⟨missing, rfl⟩ | ⟨aimed, mode, own, rfl⟩⟩
      · rw [if_pos lost]
        rfl
      · simp [kept, missing]
      · simp [kept, aimed, own]
    rw [found]
    cases e.library.check? with
    | none => exact loose
    | some l =>
        have stopped : (LaneDuel.Engine.mk e.catalog l).resolve cardId inv s source
            = LaneDuel.Engine.leave s source stop.1 (stop.2.map .notice) :=
          LaneDuel.Engine.resolve_of_stop? h source
        have checked : (Checked.mk ⟨e.catalog, l⟩ cardId inv s).resolve (.ofChecked s) source
            = leave (.ofChecked s) source stop.1 (stop.2.map .notice) := by
          simp only [Checked.resolve, stopped, LaneDuel.Engine.leave,
            LaneDuel.Engine.not_applied_of_stop? h, if_false]
          rfl
        simp only [Option.map_some, Option.bind_some, Checked.resolve?_getD, checked, loose,
          ite_self]

/-- What nothing stops runs its chain: at once on the checked state where the library is
a checked one and all that is told can be put into words, call by call on the loose board
otherwise. -/
theorem resolve_of_go {e : Engine} {cardId : Int} {inv : LaneDuel.Invocation}
    {s : LaneDuel.State} (h : stop? e.catalog cardId inv s = none) (tracing : Bool) (source : ρ) :
    ∃ entry, e.catalog.get? cardId = some entry ∧
      let loose := e.play (.int cardId) entry.effects
        ⟨.ofBinding tracing (LaneDuel.Engine.bind s inv),
          .enter (.ofChecked s) (.ofChecked inv.card) (.ofChecked (inv.target.getD inv.card)) source,
          inv.target.isSome⟩
      e.resolve tracing (.int cardId) (.ofChecked inv) (.ofChecked s) source =
        match e.library.check? with
        | some l =>
          let run := LaneDuel.Engine.chain l cardId inv s source entry.effects
          if run.log.all Event.writable then
            ⟨.ok ⟨.ofChecked (LaneDuel.Engine.settle run.snapshot), .applied, run.log⟩, run.source⟩
          else loose
        | none => loose := by
  obtain ⟨entry, found, kept, aimed, plain⟩ := LaneDuel.Engine.stop?_eq_none_iff.mp h
  refine ⟨entry, found, ?_⟩
  intro loose
  have course : e.resolveLoose tracing (.int cardId) entry (.ofChecked inv) (.ofChecked s)
      (.ofChecked s) source = loose := by
    simp [resolveLoose_ofChecked, kept, aimed, plain, loose]
  simp only [resolve, find_int, State.board_ofChecked, check?_ofChecked, found]
  cases e.library.check? with
  | none => exact course
  | some l =>
      have finished : (LaneDuel.Engine.mk e.catalog l).resolve cardId inv s source
          = LaneDuel.Engine.finish (LaneDuel.Engine.chain l cardId inv s source entry.effects) :=
        LaneDuel.Engine.resolve_eq_finish found kept aimed plain source
      simp only [Option.map_some, Option.bind_some, Checked.resolve?_getD, Checked.resolve,
        finished, course]
      rfl

theorem applied_of_play {e : Engine} {cardId : Json} {effects : List Call} {p : Prepared ρ}
    {r : Resolution State} (ended : (e.play cardId effects p).result = .ok r) :
    r.status = .applied := by
  unfold play at ended
  simp only at ended
  split at ended
  rename_i result run _
  cases result with
  | error f => cases ended
  | ok a =>
      cases ended
      rfl

/-- A chain that comes to an end leaves an applied play. -/
theorem applied_of_go {e : Engine} {cardId : Int} {inv : LaneDuel.Invocation}
    {s : LaneDuel.State} (h : stop? e.catalog cardId inv s = none) (tracing : Bool) (source : ρ)
    {r : Resolution State}
    (ended : (e.resolve tracing (.int cardId) (.ofChecked inv) (.ofChecked s) source).result
      = .ok r) : r.status = .applied := by
  obtain ⟨entry, -, played⟩ := resolve_of_go h tracing source
  rw [played] at ended
  cases library : e.library.check? with
  | some l =>
      rw [library] at ended
      simp only at ended
      split at ended
      · cases ended
        rfl
      · exact applied_of_play ended
  | none =>
      rw [library] at ended
      exact applied_of_play ended

/-- A play of typed data ends in a stop exactly where there is one. -/
theorem stopped_iff (e : Engine) (tracing : Bool) (cardId : Int) (inv : LaneDuel.Invocation)
    (s : LaneDuel.State) (source : ρ) {status : Status} (notices : List Notice)
    (early : status ≠ .applied) :
    (e.resolve tracing (.int cardId) (.ofChecked inv) (.ofChecked s) source).Stopped
        (.ofChecked s) source tracing status notices ↔
      stop? e.catalog cardId inv s = some (status, notices) := by
  constructor
  · intro stopped
    cases stop : stop? e.catalog cardId inv s with
    | none => exact absurd (applied_of_go stop tracing source stopped.result) early
    | some stop' =>
        have result := stopped.result
        rw [resolve_of_stop? stop] at result
        injection result with same
        injection same with _ statuses events
        have notices' : stop'.2 = notices :=
          List.map_injective_iff.mpr (fun _ _ h => Event.notice.inj h) events
        rw [← statuses, ← notices']
  · intro stop
    rw [resolve_of_stop? stop]
    exact stopped_leave _ source tracing status notices

/-- **How a play of typed data ends.**  Each stop is met exactly on its condition, where
those before it are not; what none of them stops is applied if it returns. -/
theorem resolve_classified (e : Engine) (tracing : Bool) (cardId : Int)
    (inv : LaneDuel.Invocation) (s : LaneDuel.State) (source : ρ) :
    let o := e.resolve tracing (.int cardId) (.ofChecked inv) (.ofChecked s) source
    let stops := o.Stopped (.ofChecked s) source tracing
    (stops .noEffect [] ↔ e.catalog.get? cardId = none) ∧
    ∀ entry, e.catalog.get? cardId = some entry →
      (stops .aborted [.targetLost] ↔ ∃ t, inv.target = some t ∧ OffField s t) ∧
      ((¬ ∃ t, inv.target = some t ∧ OffField s t) →
        (stops .aborted [.targetRequired entry.name] ↔
          entry.needsTarget = true ∧ inv.target = none) ∧
        (¬ (entry.needsTarget = true ∧ inv.target = none) →
          (∀ mode, stops .uiMode [.uiMode entry.name mode] ↔ entry.uiMode = some mode) ∧
          (entry.uiMode = none → ∀ r, o.result = .ok r → r.status = .applied))) := by
  intro o stops
  have stops_iff : ∀ {status} notices, status ≠ .applied →
      (stops status notices ↔ stop? e.catalog cardId inv s = some (status, notices)) :=
    fun notices early => stopped_iff e tracing cardId inv s source notices early
  refine ⟨?_, fun entry found => ?_⟩
  · rw [stops_iff [] (by decide), LaneDuel.Engine.stop?_eq_some_iff]
    simp
  · have missing : (entry.needsTarget = true ∧ inv.target = none) ↔
        (entry.needsTarget && inv.target.isNone) = true := by simp
    have value := LaneDuel.Engine.stop?_of_found found inv s
    rw [← LaneDuel.Engine.targetLost_iff, missing, stops_iff _ (by decide), value]
    cases lost : targetLost s inv with
    | true => simp
    | false =>
        rw [stops_iff _ (by decide), value, lost]
        cases aimless : entry.needsTarget && inv.target.isNone with
        | true => simp
        | false =>
            refine ⟨?_, fun _ => ⟨?_, fun _ => ⟨fun mode => ?_, fun plain r => ?_⟩⟩⟩
            · cases entry.uiMode <;> simp
            · cases entry.uiMode <;> simp
            · rw [stops_iff _ (by decide), value, lost, aimless]
              cases entry.uiMode <;> simp
            · apply applied_of_go
              rw [value, lost, aimless, plain]
              rfl

end Engine

end Loose

namespace Example

/-- Red plays a card that needs no target on a card in blue's hand, while blue is in
debt: the debt stays, and the journal tells of the lost target alone. -/
theorem goblin_lost :
    let debt : State := { duel with blue := { duel.blue with health := -3, coins := -1 } }
    let inv : Invocation := ⟨.red, card "omen" .miracle, some (card "goblin" .battlefield)⟩
    Loose.Outcome.Stopped
      ((Loose.Engine.ofChecked (engine [.known .skipTurn])).resolve true (.int 1)
        (.ofChecked inv) (.ofChecked debt) (Lcg.ofSeed 7))
      (.ofChecked debt) (Lcg.ofSeed 7) true .aborted [.targetLost] := by
  intro debt inv
  obtain ⟨-, entries⟩ := Loose.Engine.resolve_classified
    (Loose.Engine.ofChecked (engine [.known .skipTurn])) true 1 inv debt (Lcg.ofSeed 7)
  obtain ⟨lost, -⟩ := entries (entry [.known .skipTurn]) rfl
  exact lost.mpr (Engine.targetLost_iff.mp (by decide))

end Example

end LaneDuel
