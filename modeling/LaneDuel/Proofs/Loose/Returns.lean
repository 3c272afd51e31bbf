/-
# LaneDuel.Proofs.Loose.Returns -- plays that return, whatever the names mean

A play on typed data runs call by call: what its library cannot build is reported and
passed over, what it can build is carried out.  `Engine.callSteps` is this chain on the
checked run.  Building is all that is guarded, so two things can end a chain in its midst.

* Where a further name means a kind, an unchecked call by this name may be told what the
  effect cannot use, which is found out only while it runs (`Example.strike_fails`).
* A notice may show a number of more digits than can be written.

Where whatever can be built has an effect on typed data, the second is all that is left:
a play returns exactly where every notice of its chain can be put into words
(`Engine.resolve_returns`).  Every call then leaves its mark in the log
(`Engine.mark_mem_callSteps`), and the state is typed again.
-/
import LaneDuel.Proofs.Catalog.Documents
import LaneDuel.Proofs.Loose.Classification
import LaneDuel.Proofs.Loose.Names

namespace LaneDuel

set_option autoImplicit false

namespace Loose

variable {ρ : Type}

namespace Engine

/-! ## Settling -/

theorem does_settlePlayer (s : Side) (r : LaneDuel.Run ρ) :
    Act.Does (settlePlayer s) r () (r.modifyPlayer s LaneDuel.Engine.settlePlayer) := by
  have twice : r.modifyPlayer s LaneDuel.Engine.settlePlayer
      = (r.modifyPlayer s fun p => { p with health := max 0 p.health }).modifyPlayer s
          fun p => { p with coins := max 0 p.coins } := by
    cases s <;> rfl
  rw [twice]
  refine (Act.Does.player s).bind ((Act.Does.ofExcept (larger_int 0 _)).bind ?_)
  refine (Act.Does.modifyPlayer s (g := fun p => { p with health := max 0 p.health }) rfl).bind ?_
  refine (Act.Does.player s).bind ((Act.Does.ofExcept (larger_int 0 _)).bind ?_)
  exact Act.Does.modifyPlayer s rfl

variable [RandomSource ρ]

/-! ## A chain of calls on a checked run -/

/-- One call: reported where it cannot be built, carried out where it has an effect. -/
def callStep (library : Library) (cardId : Int) (b : Binding) (index : Nat) (call : Call)
    (r : LaneDuel.Run ρ) : LaneDuel.Run ρ :=
  match library.build call with
  | .error _ => r.notice (.unknownAtom call.name)
  | .ok x =>
    match x.effect? ρ with
    | some f => f b (r.trace (.step cardId index call.name))
    | none => r.trace (.step cardId index call.name)

def callSteps (library : Library) (cardId : Int) (b : Binding) :
    Nat → List Call → LaneDuel.Run ρ → LaneDuel.Run ρ
  | _, [], r => r
  | index, call :: calls, r =>
    callSteps library cardId b (index + 1) calls (callStep library cardId b index call r)

variable (library : Library) (cardId : Int) (b : Binding)

/-- What a call leaves in the log: a report, or the trace of its step. -/
def mark (index : Nat) (call : Call) : Event :=
  match library.build call with
  | .error _ => .notice (.unknownAtom call.name)
  | .ok _ => .trace (.step cardId index call.name)

theorem callStep_log (index : Nat) (call : Call) (r : LaneDuel.Run ρ) :
    r.log ++ [mark library cardId index call]
      <+: (callStep library cardId b index call r).log := by
  unfold mark callStep
  split
  · exact List.prefix_rfl
  · split
    · rename_i sound
      exact Executor.effect?_log sound b (r.trace (.step cardId index call.name))
    · exact List.prefix_rfl

theorem log_prefix_callSteps (index : Nat) (calls : List Call) (r : LaneDuel.Run ρ) :
    r.log <+: (callSteps library cardId b index calls r).log := by
  induction calls generalizing index r with
  | nil => exact List.prefix_rfl
  | cons call calls ih =>
      have marked := callStep_log library cardId b index call r
      exact ((List.prefix_append r.log _).trans marked).trans (ih (index + 1) _)

/-- Every call leaves its mark. -/
theorem mark_mem_callSteps {index i : Nat} {calls : List Call} {call : Call}
    (listed : calls[i]? = some call) (r : LaneDuel.Run ρ) :
    mark library cardId (index + i) call ∈ (callSteps library cardId b index calls r).log := by
  induction calls generalizing index i r with
  | nil => cases listed
  | cons first calls ih =>
      cases i with
      | zero =>
          cases listed
          have marked := callStep_log library cardId b index call r
          have kept := log_prefix_callSteps library cardId b (index + 1) calls
            (callStep library cardId b index call r)
          exact (marked.trans kept).subset (List.mem_append_right _ (List.mem_singleton_self _))
      | succ i =>
          have later : mark library cardId (index + 1 + i) call ∈ _ :=
            ih listed (callStep library cardId b index first r)
          rwa [Nat.add_right_comm] at later

/-- A checked chain is a chain of the calls that its library builds. -/
theorem runCalls_eq_callSteps (l : LaneDuel.Library) {calls : List Call}
    (apart : ∀ call ∈ calls, call.Apart) (index : Nat) (r : LaneDuel.Run ρ) :
    LaneDuel.Engine.runCalls l cardId b index calls r
      = callSteps (.ofChecked l) cardId b index calls r := by
  induction calls generalizing index r with
  | nil => rfl
  | cons call calls ih =>
      have built := Library.build_ofChecked l (apart call List.mem_cons_self)
      rw [callSteps, ← ih fun x mem => apart x (List.mem_cons_of_mem call mem)]
      rw [LaneDuel.Engine.runCalls, callStep, built]
      cases l.atom? call <;> rfl

theorem does_runCalls (tracing : Bool) {calls : List Call} (carries : library.Carries ρ calls)
    (index : Nat) (r : LaneDuel.Run ρ) :
    Act.Does (runCalls library (.int cardId) (.ofBinding tracing b) index calls) r ()
      (callSteps library cardId b index calls r) := by
  induction calls generalizing index r with
  | nil => exact .pure ()
  | cons call calls ih =>
      have rest := ih (fun x mem => carries x (List.mem_cons_of_mem call mem)) (index + 1)
      rw [runCalls, callSteps, callStep]
      cases built : library.build call with
      | error fault => exact (Act.Does.notice tracing b _).bind (rest _)
      | ok x =>
          obtain ⟨f, sound⟩ := Option.isSome_iff_exists.mp
            (carries call List.mem_cons_self x built)
          simp only [sound]
          refine (Act.Does.trace tracing b _).bind ?_
          exact (Act.Does.carryOut tracing b sound).bind (rest _)

/-! ## Plays -/

/-- A chain that has just begun comes to an end where all that it tells can be put into
words, and fails where not. -/
theorem play_ofChecked (e : Engine) (tracing : Bool) {calls : List Call}
    (carries : e.library.Carries ρ calls) {r : LaneDuel.Run ρ} (begun : r.log = [])
    (aimed : Bool) :
    let run := callSteps e.library cardId b 0 calls r
    let o := e.play (.int cardId) calls ⟨.ofBinding tracing b, .ofChecked r, aimed⟩
    if run.log.all Event.writable then
      o = ⟨.ok ⟨.ofChecked (LaneDuel.Engine.settle run.snapshot), .applied, run.log⟩, run.source⟩
    else o.result = .error .tooLongToWrite := by
  intro run o
  let settled := (run.modifyPlayer .red LaneDuel.Engine.settlePlayer).modifyPlayer .blue
    LaneDuel.Engine.settlePlayer
  have chain : Act.Does (do
        runCalls e.library (.int cardId) (.ofBinding tracing b) 0 calls
        Side.both.forM settlePlayer) r () settled :=
    (does_runCalls e.library cardId b tracing carries 0 r).bind
      ((does_settlePlayer .red run).bind ((does_settlePlayer .blue _).bind (.pure ())))
  have log : settled.log = run.log := rfl
  have snapshot : settled.snapshot = LaneDuel.Engine.settle run.snapshot := rfl
  have ran := chain.afresh begun
  rw [log] at ran
  split at ran
  · rename_i sayable
    rw [if_pos sayable, ← snapshot, State.ofChecked, ← Run.snapshot_ofChecked]
    simp only [o, play, ran]
    rfl
  · rename_i unsayable
    rw [if_neg unsayable]
    exact congrArg (Except.map _) ran

theorem play_result_ofChecked (e : Engine) (tracing : Bool) {calls : List Call}
    (carries : e.library.Carries ρ calls) {r : LaneDuel.Run ρ} (begun : r.log = [])
    (aimed : Bool) :
    let run := callSteps e.library cardId b 0 calls r
    (e.play (.int cardId) calls ⟨.ofBinding tracing b, .ofChecked r, aimed⟩).result
      = if run.log.all Event.writable then
          .ok ⟨.ofChecked (LaneDuel.Engine.settle run.snapshot), .applied, run.log⟩
        else .error .tooLongToWrite := by
  intro run
  have played := play_ofChecked cardId b e tracing carries begun aimed
  simp only at played
  split
  · rename_i sayable
    rw [if_pos sayable] at played
    rw [played]
  · rename_i unsayable
    rwa [if_neg unsayable] at played

/-- What nothing stops returns the settled chain if it can be put into words, whatever
library it was played with. -/
theorem resolve_result_of_go {ms : List (String × Json)} {e : Engine}
    (loaded : LaneDuel.Catalog.ofMembers ms = .ok e.catalog) {cardId : Int}
    (carries : ∀ entry, e.catalog.get? cardId = some entry → e.library.Carries ρ entry.effects)
    {inv : LaneDuel.Invocation} {s : LaneDuel.State}
    (h : LaneDuel.Engine.stop? e.catalog cardId inv s = none) (tracing : Bool) (source : ρ) :
    ∃ entry, e.catalog.get? cardId = some entry ∧
      let run := callSteps e.library cardId (LaneDuel.Engine.bind s inv) 0 entry.effects
        (LaneDuel.Engine.begin s inv source)
      (e.resolve tracing (.int cardId) (.ofChecked inv) (.ofChecked s) source).result
        = if run.log.all Event.writable then
            .ok ⟨.ofChecked (LaneDuel.Engine.settle run.snapshot), .applied, run.log⟩
          else .error .tooLongToWrite := by
  obtain ⟨entry, found, played⟩ := resolve_of_go h tracing source
  refine ⟨entry, found, ?_⟩
  intro run
  have loose := play_result_ofChecked cardId (LaneDuel.Engine.bind s inv) e tracing
    (carries entry found) (r := LaneDuel.Engine.begin s inv source) rfl inv.target.isSome
  rw [played, Run.enter_ofChecked]
  cases checked : e.library.check? with
  | none => exact loose
  | some l =>
      have apart := LaneDuel.Catalog.yields_of_ofMembers CardEffect.yields_apart loaded found
      have same : LaneDuel.Engine.chain l cardId inv s source entry.effects = run := by
        rw [LaneDuel.Engine.chain, runCalls_eq_callSteps cardId _ l apart,
          ← Library.eq_of_check? checked]
      simp only [same]
      split
      · rfl
      · exact loose.trans (if_neg ‹_›)

open LaneDuel.Engine (stop? begin bind settle) in
/-- **Plays return.**  With a catalog that was read and a derived library, where unchecked
calls tell effects what they need, a play of typed data leaves typed data, unless a notice
of its chain shows a number of too many digits: then it fails.  The card's own number, which
traces show, is never too long.  What cannot be built is an error in the journal; the calls
after it are reached. -/
theorem resolve_returns {ms : List (String × Json)} {e : Engine}
    (loaded : LaneDuel.Catalog.ofMembers ms = .ok e.catalog) (derived : e.library.Derived)
    {cardId : Int}
    (fits : ∀ entry, e.catalog.get? cardId = some entry → e.library.Fits ρ entry.effects)
    (tracing : Bool) (inv : LaneDuel.Invocation) (s : LaneDuel.State) (source : ρ) :
    let o := e.resolve tracing (.int cardId) (.ofChecked inv) (.ofChecked s) source
    match stop? e.catalog cardId inv s with
    | some stop => o.result = .ok ⟨.ofChecked s, stop.1, stop.2.map .notice⟩
    | none =>
      ∃ entry, e.catalog.get? cardId = some entry ∧ Text.writable cardId = true ∧
        let run := callSteps e.library cardId (bind s inv) 0 entry.effects (begin s inv source)
        (o.result = if run.log.all Event.writable then
            .ok ⟨.ofChecked (settle run.snapshot), .applied, run.log⟩
          else .error .tooLongToWrite) ∧
        ∀ i call, entry.effects[i]? = some call →
          match e.library.build call with
          | .error _ =>
            ∀ book, ⟨.error, "engine.unknown_atom", (Notice.unknownAtom call.name).text book⟩
              ∈ Journal.entries book tracing run.log
          | .ok _ => .trace (.step cardId i call.name) ∈ run.log := by
  intro o
  cases stop : stop? e.catalog cardId inv s with
  | some stop =>
      have stopped : o = _ := resolve_of_stop? stop tracing source
      rw [stopped]
      rfl
  | none =>
      obtain ⟨entry, found, returned⟩ := resolve_result_of_go loaded
        (fun entry found => derived.carries (fits entry found)) stop tracing source
      have writable := (LaneDuel.Catalog.sound_of_ofMembers loaded).writable found
      refine ⟨entry, found, writable, returned, fun i call listed => ?_⟩
      have marked : mark e.library cardId (0 + i) call ∈ _ :=
        mark_mem_callSteps e.library cardId (bind s inv) listed (begin s inv source)
      rw [Nat.zero_add, mark] at marked
      cases built : e.library.build call with
      | error fault =>
          rw [built] at marked
          exact fun book => Journal.mem_entries_of_notice marked book tracing
      | ok x =>
          rw [built] at marked
          exact marked

end Engine

end Loose

namespace Example

/-- Three calls as they are written: by a kind's word and by two further names. -/
def volley : Json :=
  .obj [("name", .str "omen"), ("type", .str "miracle"), ("effects", .arr [
    .obj [("atom", .str "skipTurn")], .obj [("atom", .str "conjure")],
    .obj [("atom", .str "volley"), ("base_damage", .int 2)]])]

/-- An engine for the three calls whose library has one name more and one less than the
standard one. -/
def renamed : Loose.Engine where
  catalog := ⟨[(1, entry
    [.known .skipTurn, .unknown "conjure" [], .unknown "volley" [("base_damage", .int 2)]])]⟩
  library := (Loose.Library.standard.register "volley" (some .cascadeDamage)).unregister "skipTurn"

theorem renamed_fits (entry : CardEffect) (found : renamed.catalog.get? 1 = some entry) :
    renamed.library.Fits Lcg entry.effects := by
  intro name ms called k means u told
  cases found
  have which : name = "conjure" ∧ ms = [] ∨ name = "volley" ∧ ms = [("base_damage", .int 2)] := by
    simpa [Example.entry] using called
  obtain ⟨rfl, rfl⟩ | ⟨rfl, rfl⟩ := which
  · cases means
  · cases means
    cases told
    rfl

/-- The calls by a lost and by a strange name are reported, and the volley after them is
carried out. -/
theorem volley_returns :
    let inv : Invocation := ⟨.red, card "omen" .miracle, none⟩
    let o := renamed.resolve false (.int 1) (.ofChecked inv) (.ofChecked duel) (Lcg.ofSeed 7)
    let report := fun book name => (⟨.error, "engine.unknown_atom",
      (Notice.unknownAtom name).text book⟩ : Journal.Entry)
    Catalog.ofMembers [("1", volley)] = .ok renamed.catalog ∧ renamed.library.Derived ∧
      (∀ entry, renamed.catalog.get? 1 = some entry → renamed.library.Fits Lcg entry.effects) ∧
      ∃ t events, o.result = .ok ⟨.ofChecked t, .applied, events⟩ ∧
        (∀ book, report book "skipTurn" ∈ Journal.entries book false events) ∧
        (∀ book, report book "conjure" ∈ Journal.entries book false events) ∧
        .trace (.step (.count 1) 2 "volley") ∈ events := by
  intro inv o report
  have loaded : Catalog.ofMembers [("1", volley)] = .ok renamed.catalog := rfl
  have derived : renamed.library.Derived := by
    refine .unregister (.register .standard fun k word => ?_) "skipTurn"
    cases k <;> simp [AtomKind.word] at word
  obtain ⟨entry, found, -, returned, marks⟩ :=
    Loose.Engine.resolve_returns loaded derived renamed_fits false inv duel (Lcg.ofSeed 7)
  cases found
  have sayable := returned.trans (if_pos (by decide +kernel))
  exact ⟨loaded, derived, renamed_fits, _, _, sayable, marks 0 _ rfl, marks 1 _ rfl,
    marks 2 _ rfl⟩

/-- A health of more digits than can be written ends the play that tells of it. -/
example :
    let rich : State := { duel with red := { duel.red with health := 10 ^ Text.digitLimit } }
    let e : Loose.Engine := .ofChecked (engine [.known (.playerHeal 1 ⟨.own⟩)])
    let inv : Invocation := ⟨.red, card "omen" .miracle, none⟩
    (e.resolve false (.int 1) (.ofChecked inv) (.ofChecked rich) (Lcg.ofSeed 7)).result.isOk
      = false := by
  decide +kernel

/-- Another name for a kind that looks into its filter: the filter of an unchecked call is
no model, and the play fails in the midst of its chain. -/
theorem strike_fails :
    let filter : Json := .obj [("player", .str "opponent")]
    let striker : CardEffect := { entry [.unknown "strike" [("filter", filter)]] with
      name := "striker", kind := .battlefield }
    let e : Loose.Engine :=
      ⟨⟨[(1, striker)]⟩, Loose.Library.standard.register "strike" (some .killCard)⟩
    let raw : Json := .obj [("name", .str "striker"), ("type", .str "battlefield"),
      ("effects", .arr [.obj [("atom", .str "strike"), ("filter", filter)]])]
    let inv : Invocation := ⟨.red, card "squire" .battlefield, none⟩
    Catalog.ofMembers [("1", raw)] = .ok e.catalog ∧ e.library.Derived ∧
      (e.resolve false (.int 1) (.ofChecked inv) (.ofChecked duel) (Lcg.ofSeed 7)).result
        = .error .noFields := by
  refine ⟨rfl, .register .standard fun k word => ?_, rfl⟩
  cases k <;> simp [AtomKind.word] at word

end Example

end LaneDuel
