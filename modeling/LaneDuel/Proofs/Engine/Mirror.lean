/-
# LaneDuel.Proofs.Engine.Mirror -- neither colour is favoured

The game looks for cards red before blue, and goes through both sides in that
order.  A duel seen with its colours exchanged nevertheless comes to the same end
(`resolve_mirror`): with distinct instance ids a search finds the one card there
is, and apart from `Atom.RedFirst` no effect depends on the order of the sides.
-/
import LaneDuel.Proofs.Engine.InStep

namespace LaneDuel

set_option autoImplicit false

namespace Correspondence

/-- The colours are exchanged, and what is told is not compared. -/
def exchange : Correspondence where
  crossed := true
  name := Origin.mirror
  live _ := True
  heard _ := false
  before := []
  name_inj o o' _ _ same := by
    rw [← Origin.mirror_mirror o, same, Origin.mirror_mirror]
  quiet _ _ := rfl

end Correspondence

/-- The same play by the other side. -/
def Invocation.mirror (inv : Invocation) : Invocation :=
  { inv with player := inv.player.opponent }

/-- The second outcome is the first one mirrored, with the same luck left. -/
def Outcome.Mirrors {ρ : Type} (o o' : Outcome ρ) : Prop :=
  o'.resolution.status = o.resolution.status ∧ o'.source = o.source ∧
    o'.resolution.state = o.resolution.state.mirror

namespace Engine

open Correspondence (exchange)

variable {ρ : Type}

theorem begin_mirror (s : State) (inv : Invocation) (source : ρ) :
    exchange.Matches (begin s inv source) (begin s.mirror inv.mirror source) where
  table := Table.origins_mirror s
  live _ _ := trivial
  cards o _ := Table.cardOf_mirror s _ _ o
  source := rfl
  log := rfl

section Binding

variable {s : State} (distinct : s.instanceIds.Nodup) (inv : Invocation)

include distinct inv

theorem bindTarget_mirror (t : Card) :
    bindTarget s.mirror t = (bindTarget s t).map Origin.mirror := by
  have begun := begin_mirror s inv ()
  rw [bindTarget_eq s inv t (), bindTarget_eq s.mirror inv.mirror t ()]
  exact begun.findById (fun _ => Run.distinct_enter distinct _ _ _) _ _

theorem bind_mirror : bind s.mirror inv.mirror = exchange.binding (bind s inv) := by
  have begun := begin_mirror s inv ()
  have found := begun.findById (fun _ => Run.distinct_enter distinct _ _ _)
    inv.card.instanceId actorZones
  have actor : bindActor s.mirror inv.card = (bindActor s inv.card).mirror := by
    rw [bindActor_eq s inv inv.card (), bindActor_eq s.mirror inv.mirror inv.card (), found]
    cases (begin s inv ()).findById inv.card.instanceId actorZones <;> rfl
  have target : inv.target.bind (bindTarget s.mirror)
      = (inv.target.bind (bindTarget s)).map Origin.mirror := by
    cases inv.target with
    | none => rfl
    | some t => exact bindTarget_mirror distinct inv t
  simp only [bind, Invocation.mirror, actor, target]
  rfl

theorem targetLost_mirror : targetLost s.mirror inv.mirror = targetLost s inv := by
  cases given : inv.target with
  | none => simp [targetLost, Invocation.mirror, given]
  | some t =>
      simp only [targetLost, Invocation.mirror, given, bindTarget_mirror distinct inv t]
      cases bindTarget s t <;> rfl

end Binding

theorem settle_mirror (s : State) : settle s.mirror = (settle s).mirror := rfl

theorem leave_mirror (s : State) (source : ρ) (status : Status) (events : List Event) :
    Outcome.Mirrors (leave s source status events) (leave s.mirror source status events) :=
  ⟨rfl, rfl, rfl⟩

/-- Runs that correspond crosswise come to mirrored ends. -/
theorem finish_mirror {l r : Run ρ} (h : exchange.Matches l r) :
    Outcome.Mirrors (finish l) (finish r) := by
  have reached : r.snapshot = l.snapshot.mirror := h.snapshot
  refine ⟨rfl, h.source, ?_⟩
  rw [finish, finish, reached]
  exact settle_mirror l.snapshot

variable [RandomSource ρ] [LawfulRandomSource ρ]

/-- **Neither colour is favoured.**  The opposite side playing the same card on the
mirrored state comes to the mirrored end, with the same luck. -/
theorem resolve_mirror (e : Engine) (cardId : Int) (inv : Invocation) {s : State}
    (distinct : s.instanceIds.Nodup)
    (fair : ∀ entry, e.catalog.get? cardId = some entry →
      ∀ a, Call.known a ∈ entry.effects → ¬ a.RedFirst) (source : ρ) :
    Outcome.Mirrors (e.resolve cardId inv s source)
      (e.resolve cardId inv.mirror s.mirror source) := by
  have aimed : inv.mirror.target = inv.target := rfl
  unfold resolve
  rw [targetLost_mirror distinct inv, aimed]
  cases found : e.catalog.get? cardId with
  | none => exact leave_mirror s source _ _
  | some entry =>
      simp only
      by_cases lost : targetLost s inv = true
      · rw [if_pos lost, if_pos lost]
        exact leave_mirror s source _ _
      · rw [if_neg lost, if_neg lost]
        by_cases required : (entry.needsTarget && inv.target.isNone) = true
        · rw [if_pos required, if_pos required]
          exact leave_mirror s source _ _
        · rw [if_neg required, if_neg required]
          cases entry.uiMode with
          | some mode => exact leave_mirror s source _ _
          | none =>
              have binds : exchange.Binds (bind s inv) := ⟨trivial, fun _ _ => trivial⟩
              have ended := runCalls_matches e.library cardId binds entry.effects
                (fun _ => fair entry found) (fun _ => inferInstance) 0 0 (.inl rfl)
                (begin_mirror s inv source) fun _ => Run.distinct_enter distinct _ _ _
              rw [← bind_mirror distinct inv] at ended
              exact finish_mirror ended

end Engine

namespace Example

open Engine

/-- Hands and lanes are exchanged, and both sides' lanes emptied, each by a call of its own. -/
def turmoil : List Call :=
  [.known (.swapRandomHands 1), .known .swapBattlefields, .known (.killCard (onField .own)),
    .known .discardAndRedraw, .known (.clearField (some ⟨.opponent, none⟩))]

theorem turmoil_mirrored :
    let inv : Invocation := ⟨.red, card "squire" .battlefield, some (card "ogre" .battlefield)⟩
    duel.instanceIds.Nodup ∧ (∀ a, Call.known a ∈ turmoil → ¬ a.RedFirst) ∧
      Outcome.Mirrors ((engine turmoil).resolve 1 inv duel (Lcg.ofSeed 7))
        ((engine turmoil).resolve 1 inv.mirror duel.mirror (Lcg.ofSeed 7)) := by
  have distinct : duel.instanceIds.Nodup := by decide
  have fair : ∀ a, Call.known a ∈ turmoil → ¬ a.RedFirst := by
    intro a member
    simp only [turmoil, List.mem_cons, Call.known.injEq, List.not_mem_nil, or_false] at member
    rcases member with rfl | rfl | rfl | rfl | rfl <;>
      simp [Atom.RedFirst, TargetFilter.Spans, onField]
  have every : ∀ entry', (engine turmoil).catalog.get? 1 = some entry' →
      ∀ a, Call.known a ∈ entry'.effects → ¬ a.RedFirst := by
    intro entry' found
    have same : entry turmoil = entry' := Option.some.inj found
    rw [← same]
    exact fair
  have mirrored := resolve_mirror (engine turmoil) 1
    ⟨.red, card "squire" .battlefield, some (card "ogre" .battlefield)⟩ distinct every
    (Lcg.ofSeed 7)
  exact ⟨distinct, fair, mirrored⟩

end Example

end LaneDuel
