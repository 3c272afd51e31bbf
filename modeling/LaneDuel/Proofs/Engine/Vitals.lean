/-
# LaneDuel.Proofs.Engine.Vitals -- health is a fold of three kinds of calls

Heals, damage and the execution of the opponent are the only calls that touch the health
of a player, and the last of them the only one that ends the duel.  What a chain does to
both is therefore a fold over its calls (`Vitals.run`) in which no other call matters
(`Vitals.run_filter`): not what it moves, not what it changes, not where it stands.

Within the fold nothing is cut off at zero, so an execution sees debts and a heal after
lethal damage counts in full; `settle` cuts off once, at the end (`health_folds`).
-/
import LaneDuel.Proofs.Effect.Accounts
import LaneDuel.Proofs.Engine.Stops

namespace LaneDuel

set_option autoImplicit false

/-! ## The fold -/

/-- Whether a call touches the health of a player. -/
def Call.isVital : Call → Bool
  | .known (.playerHeal ..) | .known (.playerDamage ..) | .known (.conditionalKillPlayer ..) => true
  | _ => false

/-- The health of both sides, not cut off at zero, and whether the opponent of the acting
side has fallen to an execution. -/
structure Vitals where
  health : Side → Int
  felled : Bool

namespace Vitals

/-- The vitals before any call. -/
def ofState (s : State) : Vitals := ⟨fun side => (s.player side).health, false⟩

def addHealth (v : Vitals) (s : Side) (amount : Int) : Vitals :=
  { v with health := fun s' => if s' = s then v.health s' + amount else v.health s' }

/-- The opponent of a side falls. -/
def fell (v : Vitals) (s : Side) : Vitals :=
  ⟨fun s' => if s' = s.opponent then 0 else v.health s', true⟩

/-- One call of a side. -/
def step (acting : Side) (v : Vitals) : Call → Vitals
  | .known (.playerHeal amount f) => v.addHealth (f.player.side acting) amount
  | .known (.playerDamage amount f) => v.addHealth (f.player.side acting) (-amount)
  | .known (.conditionalKillPlayer c) =>
    if v.health acting.opponent ≤ c.threshold then v.fell acting else v
  | _ => v

/-- Some calls of a side, one after another. -/
def run (acting : Side) (calls : List Call) (v : Vitals) : Vitals := calls.foldl (step acting) v

theorem step_of_not_vital (acting : Side) (v : Vitals) {call : Call}
    (other : call.isVital = false) : v.step acting call = v := by
  cases call with
  | unknown name ms => rfl
  | known a => cases a <;> first | rfl | cases other

/-- Only the vital calls count. -/
theorem run_filter (acting : Side) (calls : List Call) (v : Vitals) :
    run acting (calls.filter Call.isVital) v = run acting calls v := by
  induction calls generalizing v with
  | nil => rfl
  | cons call calls ih =>
      cases vital : call.isVital with
      | true =>
          rw [List.filter_cons_of_pos vital]
          exact ih _
      | false =>
          have still : run acting (call :: calls) v = run acting calls v :=
            congrArg (run acting calls) (step_of_not_vital acting v vital)
          rw [List.filter_cons_of_neg (by simp [vital]), still]
          exact ih v

theorem run_append (acting : Side) (calls calls' : List Call) (v : Vitals) :
    run acting (calls ++ calls') v = run acting calls' (run acting calls v) :=
  List.foldl_append

end Vitals

/-! ## What accounts show -/

/-- Accounts show vitals: the health is that of the fold, and the acting side has won at
once if its opponent has fallen; otherwise the victory is what it was. -/
structure Accounts.Shows (acting : Side) (victory : Option Side) (v : Vitals)
    (a : Accounts Int Signals) : Prop where
  health : a.health = v.health
  victory : a.signals.immediateVictory = if v.felled then some acting else victory

namespace Accounts.Shows

variable {acting : Side} {victory : Option Side} {v : Vitals} {a a' : Accounts Int Signals}

/-- Accounts show the vitals that others show, if health and victory are the same. -/
theorem of_eq (shown : a.Shows acting victory v) (health : a'.health = a.health)
    (won : a'.signals.immediateVictory = a.signals.immediateVictory) :
    a'.Shows acting victory v :=
  ⟨health.trans shown.health, won.trans shown.victory⟩

theorem addHealth (shown : a.Shows acting victory v) (s : Side) (amount : Int) :
    (a.addHealth s amount).Shows acting victory (v.addHealth s amount) := by
  refine ⟨?_, shown.victory⟩
  simp only [Accounts.addHealth, Vitals.addHealth, shown.health]

theorem fell (shown : a.Shows acting victory v) :
    (a.fell acting).Shows acting victory (v.fell acting) := by
  refine ⟨?_, rfl⟩
  simp only [Accounts.fell, Vitals.fell, shown.health]

end Accounts.Shows

/-- **One atom does to health and victory what one step of the fold does.** -/
theorem Atom.perform_shows {ρ : Type} [RandomSource ρ] {b : Binding} {victory : Option Side}
    {v : Vitals} {r : Run ρ} (shown : r.table.accounts.Shows b.player victory v) (a : Atom) :
    (a.perform b r).table.accounts.Shows b.player victory (v.step b.player (.known a)) := by
  by_cases other : a.accounted = false
  · have still : v.step b.player (.known a) = v :=
      Vitals.step_of_not_vital b.player v (by cases a <;> first | rfl | cases other)
    rw [perform_accounts b r other, still]
    exact shown
  · cases a with
    | playerHeal amount f =>
        rw [perform, Effect.heal_accounts]
        exact shown.addHealth _ _
    | playerDamage amount f =>
        rw [perform, Effect.damage_accounts]
        exact shown.addHealth _ _
    | gainCoins amount c =>
        obtain ⟨due, paid⟩ := Effect.gainCoins_accounts amount c b r
        rw [perform, paid]
        exact shown.of_eq rfl rfl
    | conditionalKillPlayer c =>
        rw [perform, Effect.execute_accounts, Vitals.step, shown.health]
        split
        · exact shown.fell
        · exact shown
    | skipTurn =>
        rw [perform, Effect.skipTurn_accounts]
        exact shown.of_eq rfl rfl
    | _ => exact absurd rfl other

namespace Engine

variable {ρ : Type} [RandomSource ρ]

theorem standard_atom? (a : Atom) : Library.standard.atom? (.known a) = some a := by
  have known : Library.standard.has a.kind = true := by
    cases a <;> rfl
  rw [Library.atom?, if_pos known]

/-- A chain of the standard library does to health and victory what the fold does. -/
theorem runCalls_shows (cardId : Int) {b : Binding} {victory : Option Side} (index : Nat)
    (calls : List Call) {v : Vitals} {r : Run ρ}
    (shown : r.table.accounts.Shows b.player victory v) :
    (runCalls .standard cardId b index calls r).table.accounts.Shows b.player victory
      (v.run b.player calls) := by
  induction calls generalizing index v r with
  | nil => exact shown
  | cons call calls ih =>
      rw [runCalls]
      cases call with
      | unknown name ms => exact ih (index + 1) shown
      | known a =>
          rw [standard_atom?]
          exact ih (index + 1) (Atom.perform_shows (r := r.tell _) shown a)

theorem settle_health (s : State) (side : Side) :
    ((settle s).player side).health = max 0 (s.player side).health := by
  cases side <;> rfl

/-- A play ends with the health of the fold, cut off at zero, and with its victory. -/
theorem resolve_vitals {e : Engine} (standard : e.library = .standard) {cardId : Int}
    {entry : CardEffect} (found : e.catalog.get? cardId = some entry) {inv : Invocation}
    {s : State} {source : ρ}
    (applied : (e.resolve cardId inv s source).resolution.status = .applied) :
    let t := (e.resolve cardId inv s source).resolution.state
    let v := Vitals.run inv.player entry.effects (.ofState s)
    (∀ side, (t.player side).health = max 0 (v.health side)) ∧
      t.signals.immediateVictory
        = if v.felled then some inv.player else s.signals.immediateVictory := by
  obtain ⟨entry', found', ended⟩ := resolve_of_applied applied
  obtain rfl : entry' = entry := Option.some.inj (found'.symm.trans found)
  have entered : (begin s inv source).table.accounts = Table.accounts s := by
    rw [← Table.accounts_map (begin s inv source).cards]
    exact congrArg Table.accounts (Run.snapshot_enter s _ _ source)
  have begun : (begin s inv source).table.accounts.Shows (bind s inv).player
      s.signals.immediateVictory (.ofState s) := by
    rw [entered]
    exact ⟨rfl, rfl⟩
  have shown := runCalls_shows cardId 0 entry'.effects begun
  rw [ended, standard]
  refine ⟨fun side => ?_, shown.victory⟩
  rw [finish, settle_health]
  have health : ((chain .standard cardId inv s source entry'.effects).snapshot.player side).health
      = (Vitals.run inv.player entry'.effects (.ofState s)).health side := by
    rw [Run.snapshot, Table.player_map]
    exact congrFun shown.health side
  rw [← health]

/-- **Health is the clamped fold of the vital calls.**  After an applied play each side has
the health of the fold, cut off at zero only there, and the acting side has won at once if
its opponent fell in it, while the victory is what it was otherwise.  So a play on the same
state by the same side whose entry has the same vital calls, in the same order among
whatever others, ends with the same health and victory; and a heal after which no vital
call follows counts in full, also after lethal damage. -/
theorem health_folds {e : Engine} (standard : e.library = .standard) {cardId : Int}
    {entry : CardEffect} (found : e.catalog.get? cardId = some entry) (inv : Invocation)
    (s : State) (source : ρ)
    (applied : (e.resolve cardId inv s source).resolution.status = .applied) :
    let t := (e.resolve cardId inv s source).resolution.state
    let v := Vitals.run inv.player entry.effects (.ofState s)
    (∀ side, (t.player side).health = max 0 (v.health side)) ∧
      (t.signals.immediateVictory
        = if v.felled then some inv.player else s.signals.immediateVictory) ∧
      (∀ (e' : Engine) (cardId' : Int) (entry' : CardEffect) (inv' : Invocation) (source' : ρ),
        e'.library = .standard → e'.catalog.get? cardId' = some entry' →
        inv'.player = inv.player →
        entry'.effects.filter Call.isVital = entry.effects.filter Call.isVital →
        (e'.resolve cardId' inv' s source').resolution.status = .applied →
        let t' := (e'.resolve cardId' inv' s source').resolution.state
        (∀ side, (t'.player side).health = (t.player side).health) ∧
          t'.signals.immediateVictory = t.signals.immediateVictory) ∧
      ∀ (before after : List Call) (amount : Int) (f : PlayerFilter),
        entry.effects = before ++ .known (.playerHeal amount f) :: after →
        (∀ call ∈ after, call.isVital = false) →
        let side := f.player.side inv.player
        (t.player side).health
          = max 0 ((Vitals.run inv.player before (.ofState s)).health side + amount) := by
  intro t v
  obtain ⟨health, victory⟩ := resolve_vitals standard found applied
  refine ⟨health, victory, ?_, ?_⟩
  · intro e' cardId' entry' inv' source' standard' found' acting same applied'
    obtain ⟨health', victory'⟩ := resolve_vitals standard' found' applied'
    have one : Vitals.run inv'.player entry'.effects (.ofState s) = v := by
      rw [acting, ← Vitals.run_filter, same, Vitals.run_filter]
    rw [one] at health' victory'
    refine ⟨fun side => ?_, ?_⟩
    · rw [health', health]
    · rw [victory', victory, acting]
  · intro before after amount f parted idle side
    have nothing : after.filter Call.isVital = [] :=
      List.filter_eq_nil_iff.mpr fun call later => by simp [idle call later]
    have healed : Vitals.run inv.player entry.effects (.ofState s)
        = (Vitals.run inv.player before (.ofState s)).addHealth side amount := by
      rw [parted, Vitals.run_append]
      change Vitals.run inv.player after (Vitals.step _ _ _) = _
      rw [← Vitals.run_filter, nothing]
      rfl
    rw [health, healed]
    exact congrArg (max 0) (if_pos rfl)

end Engine

namespace Example

open Engine

/-- Blue falls twelve below zero, red draws a card, and blue is healed by fourteen: two are
left.  Drawing makes no difference. -/
theorem wounds_fold :
    let omen : Invocation := ⟨.red, card "omen" .miracle, none⟩
    let wounds : List Call :=
      [.known (.playerDamage 42 ⟨.opponent⟩), .known (.drawCards 1 0 none)]
    let mend : Call := .known (.playerHeal 14 ⟨.opponent⟩)
    let play := (engine (wounds ++ [mend])).resolve 1 omen duel (Lcg.ofSeed 7)
    let undrawn := (engine [.known (.playerDamage 42 ⟨.opponent⟩), mend]).resolve 1 omen duel
      (Lcg.ofSeed 8)
    play.resolution.status = .applied ∧ undrawn.resolution.status = .applied ∧
      (play.resolution.state.player .blue).health
        = max 0 ((Vitals.run .red wounds (.ofState duel)).health .blue + 14) ∧
      (undrawn.resolution.state.player .blue).health
        = (play.resolution.state.player .blue).health := by
  intro omen wounds mend play undrawn
  have applied : play.resolution.status = .applied := by decide
  have applied' : undrawn.resolution.status = .applied := by decide
  have found : (engine (wounds ++ [mend])).catalog.get? 1 = some (entry (wounds ++ [mend])) := rfl
  obtain ⟨-, -, alike, heals⟩ := health_folds (e := engine (wounds ++ [mend])) rfl found omen duel
    (Lcg.ofSeed 7) applied
  obtain ⟨same, -⟩ := alike (engine [.known (.playerDamage 42 ⟨.opponent⟩), mend]) 1
    (entry [.known (.playerDamage 42 ⟨.opponent⟩), mend]) omen (Lcg.ofSeed 8) rfl rfl rfl
    rfl applied'
  exact ⟨applied, applied', heals wounds [] 14 ⟨.opponent⟩ rfl (by simp), same .blue⟩

end Example

end LaneDuel
