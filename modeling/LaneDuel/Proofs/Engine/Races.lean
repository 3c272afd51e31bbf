/-
# LaneDuel.Proofs.Engine.Races -- blank race slots in plays and questions

A blank race slot should never match.  It does, for every list of races that names the blank
label, and validation accepts such lists (`Example.blank_slot_matches`).

It does for no other list: where the lists of an entry name neither the blank label nor some
mark, all blank slots of a duel may be filled with the mark.  The card is played to the same
end, with the same words, and the same targets and the same bonus are valid for it
(`Engine.blank_slots_count`).
-/
import LaneDuel.Engine.Query
import LaneDuel.Proofs.Effect.Races
import LaneDuel.Proofs.Engine.InStep
import LaneDuel.Proofs.Engine.Limits
import LaneDuel.Proofs.Engine.Reach

namespace LaneDuel

set_option autoImplicit false

/-- The race labels that an entry names: those that its targets, its aura and its calls ask for. -/
def CardEffect.labels (e : CardEffect) : List String :=
  (e.targetFilter.map (·.labels)).getD [] ++ (e.aura.map (·.races)).getD []
    ++ e.effects.flatMap Call.labels

variable {mark : String}

theorem Table.cardOf_map {ν σ α β : Type} (f : α → β) (t : Table ν σ α) (actor target : α)
    (o : Origin) : (t.map f).cardOf (f actor) (f target) o = f (t.cardOf actor target o) := by
  cases o with
  | slot slot => rw [cardOf, cardOf, cardAt_map, Option.getD_map]
  | pile p i =>
      have piles : (t.map f).pile p = (t.pile p).map f := by cases p <;> rfl
      rw [cardOf, cardOf, piles, List.getElem?_map, Option.getD_map]
  | actor => rfl
  | target => rfl

/-- The state with the blank slots of all its cards filled. -/
def State.fill (mark : String) (s : State) : State := s.map (Card.fill mark)

theorem State.locate_fill (s : State) (id : String) (zones : List Zone) :
    (s.fill mark).locate id zones = s.locate id zones := by
  rw [State.locate, fill, Table.locate_map]
  rfl

/-- The same play, the blank slots of its cards filled. -/
def Invocation.fill (mark : String) (inv : Invocation) : Invocation :=
  { inv with card := inv.card.fill mark, target := inv.target.map (Card.fill mark) }

/-- The same end, the blank slots of the cards filled. -/
def Outcome.fill {ρ : Type} (mark : String) (o : Outcome ρ) : Outcome ρ :=
  { o with resolution := { o.resolution with state := o.resolution.state.fill mark } }

theorem Run.snapshot_fill {ρ : Type} (r : Run ρ) : (r.fill mark).snapshot = r.snapshot.fill mark := by
  rw [State.fill, snapshot, snapshot, Table.map_map]
  rfl

namespace Engine

variable {ρ : Type}

/-! ## Plays -/

theorem finish_fill (r : Run ρ) : finish (r.fill mark) = (finish r).fill mark := by
  rw [finish, Run.snapshot_fill]
  rfl

theorem begin_fill (s : State) (inv : Invocation) (source : ρ) :
    begin (s.fill mark) (inv.fill mark) source = (begin s inv source).fill mark := by
  have target : (inv.fill mark).target.getD (inv.fill mark).card
      = (inv.target.getD inv.card).fill mark := Option.getD_map _ _ _
  have cards := funext (Table.cardOf_map (Card.fill mark) s inv.card (inv.target.getD inv.card))
  rw [begin, target, Run.enter, State.fill, Table.origins_map]
  exact congrArg (fun cards => (⟨_, cards, source, []⟩ : Run ρ)) cards

theorem bindTarget_fill (s : State) (t : Card) :
    bindTarget (s.fill mark) (t.fill mark) = bindTarget s t := by
  rw [bindTarget, State.locate_fill]
  rfl

theorem bind_fill (s : State) (inv : Invocation) :
    bind (s.fill mark) (inv.fill mark) = bind s inv := by
  have actor : bindActor (s.fill mark) (inv.card.fill mark) = bindActor s inv.card := by
    rw [bindActor, State.locate_fill]
    rfl
  have target : (inv.target.map (Card.fill mark)).bind (bindTarget (s.fill mark))
      = inv.target.bind (bindTarget s) := by
    cases inv.target with
    | none => rfl
    | some t => exact bindTarget_fill s t
  simp only [bind, Invocation.fill, actor, target]

theorem targetLost_fill (s : State) (inv : Invocation) :
    targetLost (s.fill mark) (inv.fill mark) = targetLost s inv := by
  cases given : inv.target with
  | none => simp only [targetLost, Invocation.fill, given, Option.map_none]
  | some t => simp only [targetLost, Invocation.fill, given, Option.map_some, bindTarget_fill]

variable [RandomSource ρ]

theorem runCalls_fill (library : Library) (cardId : Int) (b : Binding) {calls : List Call}
    (overlooks : ∀ call ∈ calls, Overlooks mark call.labels) (index : Nat) (r : Run ρ) :
    runCalls library cardId b index calls (r.fill mark)
      = (runCalls library cardId b index calls r).fill mark := by
  induction calls generalizing index r with
  | nil => rfl
  | cons call calls ih =>
      rw [List.forall_mem_cons] at overlooks
      rw [runCalls, runCalls]
      cases known : library.atom? call with
      | none => exact ih overlooks.2 (index + 1) (r.notice (.unknownAtom call.name))
      | some a =>
          obtain rfl := Library.eq_known_of_atom? known
          simp only
          rw [← ih overlooks.2, ← Atom.perform_fill overlooks.1]
          rfl

theorem validIn_fill {f : TargetFilter} (overlooks : Overlooks mark f.labels) (id : String)
    (s : State) (acting : Option Side) :
    validIn f id (s.fill mark) acting = validIn f id s acting := by
  have fit : ∀ c, fits f (Card.fill mark c) = fits f c := by
    intro c
    rw [fits_eq_admits, fits_eq_admits]
    exact Condition.admits_fill overlooks c
  simp only [validIn, State.locate_fill]
  cases s.locate id [f.location.zone] with
  | none => rfl
  | some slot => simp only [State.fill, Table.cardAt_map, Option.any_map, fit]

section Answers

variable {e : Engine} {cardId : Int}
  (overlooks : ∀ entry, e.catalog.get? cardId = some entry → Overlooks mark entry.labels)

include overlooks

/-- **Plays.**  A card whose entry overlooks blank slots is played to the same end. -/
theorem resolve_fill (inv : Invocation) (s : State) (source : ρ) :
    e.resolve cardId (inv.fill mark) (s.fill mark) source
      = (e.resolve cardId inv s source).fill mark := by
  have given : (inv.fill mark).target.isNone = inv.target.isNone := Option.isNone_map
  cases found : e.catalog.get? cardId with
  | none =>
      simp only [resolve, found]
      rfl
  | some entry =>
      have calls := (overlooks_append.mp (overlooks entry found)).2
      have run : finish (runCalls e.library cardId (bind s inv) 0 entry.effects
            (begin (s.fill mark) (inv.fill mark) source))
          = (finish (runCalls e.library cardId (bind s inv) 0 entry.effects
            (begin s inv source))).fill mark := by
        rw [begin_fill, runCalls_fill _ _ _ (List.forall_mem_flatMap.mp calls), finish_fill]
      simp only [resolve, found, targetLost_fill, given, bind_fill, run]
      split_ifs
      · rfl
      · rfl
      · cases entry.uiMode <;> rfl

/-- **Targets.**  Which targets are valid for the card stays as it is. -/
theorem isValidTarget_fill (target : Card) (s : State) (acting : Option Side) :
    e.isValidTarget cardId (target.fill mark) (s.fill mark) acting
      = e.isValidTarget cardId target s acting := by
  rw [isValidTarget, isValidTarget]
  cases asked : e.consulted cardId with
  | none => rfl
  | some f =>
      obtain ⟨entry, found, consults⟩ := Option.bind_eq_some_iff.mp asked
      have filtered : entry.targetFilter = some f := by
        rw [consultedBy] at consults
        split at consults
        · exact consults
        · cases consults
      have names := (overlooks_append.mp (overlooks_append.mp (overlooks entry found)).1).1
      rw [filtered] at names
      exact validIn_fill names target.instanceId s acting

/-- **Auras.**  The bonus of the card stays as it is. -/
theorem passiveBonus_fill (s : State) :
    e.passiveBonus cardId (s.fill mark) = e.passiveBonus cardId s := by
  rw [passiveBonus, passiveBonus]
  cases shines : (e.catalog.get? cardId).bind (·.aura) with
  | none => rfl
  | some aura =>
      obtain ⟨entry, found, has⟩ := Option.bind_eq_some_iff.mp shines
      have names := (overlooks_append.mp (overlooks_append.mp (overlooks entry found)).1).2
      rw [has] at names
      have same : (fun c : Card => c.hasRace aura.races) ∘ Card.fill mark
          = fun c => c.hasRace aura.races := funext (Card.hasRace_fill names)
      simp only [State.fill, Table.fieldCards_map, List.countP_map, same]

end Answers

/-- **Blank race slots.**  A card has a race of a list if one of its labels is in the list, and
also if the list names the blank label and the card has a blank slot.  Lists that name neither
the blank label nor a mark do not tell a blank slot from one with the mark: the same cards meet
a condition, are reached by a filter and are spared, an atom does the same to them, and every
play, every valid target and every bonus of a card whose entry has only such lists stays as
it is when the blank slots of all cards are filled with the mark. -/
theorem blank_slots_count (e : Engine) (mark : String) :
    (∀ (c : Card) (labels : List String), c.hasRace labels = true ↔
      (∃ label ∈ c.races, label ∈ labels) ∨
        "" ∈ labels ∧ (c.primaryRace = "" ∨ c.secondaryRace = "")) ∧
    (∀ (condition : Condition) (c : Card), Overlooks mark condition.labels →
      condition.admits (c.fill mark) = condition.admits c) ∧
    (∀ (f : TargetFilter) (r : Run ρ) (b : Binding), Overlooks mark f.labels →
      (r.fill mark).targets b f = r.targets b f) ∧
    (∀ (except : Option (List String)) (c : Card), Overlooks mark (except.getD []) →
      Effect.spared except (c.fill mark) = Effect.spared except c) ∧
    (∀ (a : Atom) (r : Run ρ) (b : Binding), Overlooks mark a.labels →
      a.perform b (r.fill mark) = (a.perform b r).fill mark) ∧
    ∀ cardId : Int,
      (∀ entry, e.catalog.get? cardId = some entry → Overlooks mark entry.labels) →
      (∀ (inv : Invocation) (s : State) (source : ρ),
        e.resolve cardId (inv.fill mark) (s.fill mark) source
          = (e.resolve cardId inv s source).fill mark) ∧
      (∀ (target : Card) (s : State) (acting : Option Side),
        e.isValidTarget cardId (target.fill mark) (s.fill mark) acting
          = e.isValidTarget cardId target s acting) ∧
      ∀ s : State, e.passiveBonus cardId (s.fill mark) = e.passiveBonus cardId s :=
  ⟨fun _ _ => Card.hasRace_iff, fun _ c overlooks => Condition.admits_fill overlooks c,
    fun _ r b overlooks => Run.targets_fill overlooks r b,
    fun _ c overlooks => Effect.spared_fill overlooks c,
    fun _ r b overlooks => Atom.perform_fill overlooks b r,
    fun _ overlooks => ⟨fun inv s source => resolve_fill overlooks inv s source,
      fun target s acting => isValidTarget_fill overlooks target s acting,
      fun s => passiveBonus_fill overlooks s⟩⟩

end Engine

namespace Example

open Engine

/-- Filling the blank slots of the lair makes no second monster. -/
theorem lair_filled :
    let omen : Invocation := ⟨.red, card "omen" .miracle, none⟩
    let monsters : TargetFilter := { onField .both with race := some ["怪物"] }
    let e := engine [.known (.modifyAtk 5 monsters none)]
    (∀ entry, e.catalog.get? 1 = some entry → Overlooks "beast" entry.labels) ∧
      e.resolve 1 (omen.fill "beast") (lair.fill "beast") (Lcg.ofSeed 7)
        = (e.resolve 1 omen lair (Lcg.ofSeed 7)).fill "beast" ∧
      ((lair.fill "beast").fieldCards Side.both).countP (·.hasRace ["怪物"]) = 1 := by
  intro omen monsters e
  have overlooks : ∀ entry, e.catalog.get? 1 = some entry → Overlooks "beast" entry.labels := by
    rintro entry found
    cases found
    decide
  obtain ⟨-, -, -, -, -, answers⟩ := @blank_slots_count Lcg _ e "beast"
  exact ⟨overlooks, (answers 1 overlooks).1 omen lair (Lcg.ofSeed 7), by decide⟩

/-- The squire has no race, a condition may ask for the blank one, and the squire meets it. -/
theorem blank_slot_matches :
    let squire := card "squire" .battlefield
    Condition.record.codec.read (.obj [("race", .arr [.str ""])]) = .ok ⟨some [""], none, none⟩ ∧
      squire.races = [] ∧ squire.hasRace [""] = true ∧
      Condition.admits ⟨some [""], none, none⟩ squire = true :=
  ⟨rfl, rfl, rfl, rfl⟩

end Example

end LaneDuel
