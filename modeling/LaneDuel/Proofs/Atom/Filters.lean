/-
# LaneDuel.Proofs.Atom.Filters -- filters and conditions mean the same

A filter without a mode narrows a list of cards three times over, by race, by rarity and
by kind; a condition asks one card for all three at once.  Both come to the same: what the
filter reaches are the taken places of its zone, in the order of every search, less those
of other sides and those whose cards its condition refuses (`Run.targets_eq_filter`).  So a
filter that asks for more reaches a part of the cards, in their order
(`Run.targets_sublist`).

An amount may therefore be narrowed by either of the two (`Atom.filter_is_condition`).  With
the condition every card of the scope is visited, and what was changed before it might
decide whether a card is changed; it does not, for a condition only looks at what lasts of a
card.  The two ways differ in what they trace and in nothing that players read.
-/
import LaneDuel.Proofs.Effect.Target
import LaneDuel.Proofs.Engine.Composition
import LaneDuel.Proofs.Engine.Limits

namespace LaneDuel

set_option autoImplicit false

/-! ## What a card is asked for -/

namespace Condition

theorem admits_iff {c : Condition} {card : Card} :
    c.admits card = true ↔
      (∀ races, asked c.race = some races → card.hasRace races = true) ∧
      (∀ rarities, asked c.rarity = some rarities → card.rarity ∈ rarities) ∧
      ∀ kind, c.kind = some kind → card.kind = kind := by
  rw [admits, Bool.and_eq_true, Bool.and_eq_true, and_assoc]
  refine and_congr ?_ (and_congr ?_ ?_)
  · cases asked c.race <;> simp
  · cases asked c.rarity <;> simp
  · cases c.kind <;> simp

/-- A condition looks at nothing that an effect can change. -/
theorem admits_lasting (c : Condition) {card card' : Card} (same : card'.lasting = card.lasting) :
    c.admits card' = c.admits card := by
  change c.admits card'.lasting = c.admits card.lasting
  rw [same]

end Condition

/-- Of two lists of names that may be asked for, the first asks for more: wherever the second
asks for anything, it asks for some of those names. -/
def Narrows (narrow wide : Option (List String)) : Prop :=
  ∀ ns, asked wide = some ns → ∃ ms, asked narrow = some ms ∧ ms ⊆ ns

theorem Card.hasRace_mono {c : Card} {ms ns : List String} (sub : ms ⊆ ns)
    (has : c.hasRace ms = true) : c.hasRace ns = true := by
  simp only [hasRace, Bool.or_eq_true, List.contains_iff_mem] at has ⊢
  exact has.imp (fun first => sub first) (fun second => sub second)

/-- A scope takes in a side, seen from the acting side. -/
def Scope.covers (acting : Side) : Scope → Side → Bool
  | .own, s => s == acting
  | .opponent, s => s == acting.opponent
  | .both, _ => true

theorem Scope.sides_eq_filter (acting : Side) (scope : Scope) :
    scope.sides acting = Side.both.filter (scope.covers acting) := by
  cases scope <;> cases acting <;> rfl

namespace TargetFilter

/-- One filter tightens another: it looks in the same place on the same sides or on fewer,
and asks no less of a card. -/
structure Tightens (f g : TargetFilter) : Prop where
  target : f.target = g.target
  location : f.location = g.location
  player : ∀ scope, f.player = some scope → g.player = some scope ∨ g.player = some .both
  race : Narrows f.race g.race
  rarity : Narrows f.rarity g.rarity
  kind : ∀ kind, g.kind = some kind → f.kind = some kind

/-- A filter goes over the cards of a side. -/
def covers (f : TargetFilter) (acting side : Side) : Bool :=
  f.player.any fun scope => scope.covers acting side

theorem covers_iff {f : TargetFilter} {acting side : Side} :
    f.covers acting side = true ↔
      ∃ scope, f.player = some scope ∧ scope.covers acting side = true :=
  Option.any_eq_true _ _

/-- The cards of the scope and zone, whatever they are. -/
def wide (f : TargetFilter) : TargetFilter := { f with race := none, rarity := none, kind := none }

theorem admits_wide (f : TargetFilter) (c : Card) : f.wide.condition.admits c = true := rfl

namespace Tightens

variable {f g : TargetFilter} (tight : f.Tightens g)
include tight

theorem covers {acting side : Side} (covered : f.covers acting side = true) :
    g.covers acting side = true := by
  rw [covers_iff] at covered ⊢
  obtain ⟨scope, spans, inside⟩ := covered
  rcases tight.player scope spans with same | both
  · exact ⟨scope, same, inside⟩
  · exact ⟨.both, both, rfl⟩

theorem admits {c : Card} (admitted : f.condition.admits c = true) :
    g.condition.admits c = true := by
  rw [Condition.admits_iff] at admitted ⊢
  obtain ⟨race, rarity, kind⟩ := admitted
  refine ⟨?_, ?_, fun k asks => kind k (tight.kind k asks)⟩
  · intro ns asks
    obtain ⟨ms, narrower, sub⟩ := tight.race ns asks
    exact Card.hasRace_mono sub (race ms narrower)
  · intro ns asks
    obtain ⟨ms, narrower, sub⟩ := tight.rarity ns asks
    exact sub (rarity ms narrower)

end Tightens

end TargetFilter

/-! ## The cards of a filter -/

namespace Table

variable {ν σ α : Type}

/-- The cards in a zone of some sides, in the order of search. -/
theorem occupied_of_sides (t : Table ν σ α) (zone : Zone) (keep : Side → Bool) :
    (((t.occupied [zone]).filter fun p => keep p.1.side).map Prod.snd)
      = (Side.both.filter keep).flatMap fun s => ((t.player s).zone zone).filterMap id := by
  have perSide : ∀ s, ((t.occupiedIn zone s).filter fun p => keep p.1.side).map Prod.snd
      = if keep s then ((t.player s).zone zone).filterMap id else [] := by
    intro s
    have same : (t.occupiedIn zone s).filter (fun p => keep p.1.side)
        = (t.occupiedIn zone s).filter fun _ => keep s :=
      List.filter_congr fun p member => by rw [(mem_occupiedIn.mp member).1]
    rw [same]
    cases keep s <;> simp [occupiedIn_map_snd]
  rw [occupied, List.flatMap_singleton, List.filter_flatMap, List.map_flatMap]
  simp only [perSide, Side.both, List.flatMap_cons, List.flatMap_nil, List.filter_cons,
    List.filter_nil]
  cases keep .red <;> cases keep .blue <;> simp

end Table

namespace Run

variable {ρ : Type} (r : Run ρ) (b : Binding)

theorem candidates_eq_filter (f : TargetFilter) :
    r.candidates b f = (((r.table.occupied [f.location.zone]).filter fun p =>
      f.covers b.player p.1.side).map Prod.snd) := by
  rw [Table.occupied_of_sides, candidates]
  cases player : f.player with
  | none =>
      have nobody : f.covers b.player = fun _ => false := by
        funext s
        rw [TargetFilter.covers, player, Option.any_none]
      simp [nobody]
  | some scope =>
      have same : f.covers b.player = scope.covers b.player := by
        funext s
        rw [TargetFilter.covers, player, Option.any_some]
      simp only [same, Scope.sides_eq_filter, player_eq]

/-- Without a mode a search keeps what its condition admits, and leaves traces only. -/
theorem targets_plain {f : TargetFilter} (plain : f.target = none) :
    (r.targets b f).1 = (r.candidates b f).filter (fun o => f.condition.admits (r.cards o)) ∧
      (r.targets b f).2.filter Journal.Spoken = [] := by
  simp only [targets, plain, TargetFilter.narrow_eq_filter]
  exact ⟨trivial, rfl⟩

/-- **What a filter reaches**: the taken places of its zone in the order of search, less
those of sides out of scope and those whose cards its condition refuses. -/
theorem targets_eq_filter {f : TargetFilter} (plain : f.target = none) :
    (r.targets b f).1 = (((r.table.occupied [f.location.zone]).filter fun (slot, o) =>
      f.covers b.player slot.side && f.condition.admits (r.cards o)).map Prod.snd) := by
  rw [(r.targets_plain b plain).1, candidates_eq_filter, List.filter_map, List.filter_filter]
  refine congrArg (List.map Prod.snd) (List.filter_congr fun p _ => ?_)
  exact Bool.and_comm _ _

/-- A tighter filter reaches a part of the cards, in their order. -/
theorem targets_sublist {f g : TargetFilter} (plain : f.target = none) (tight : g.Tightens f) :
    (r.targets b g).1.Sublist (r.targets b f).1 := by
  rw [r.targets_eq_filter b plain, r.targets_eq_filter b (tight.target.trans plain),
    tight.location]
  refine (List.monotone_filter_right _ fun p both => ?_).map Prod.snd
  rw [Bool.and_eq_true] at both ⊢
  exact ⟨tight.covers both.1, tight.admits both.2⟩

end Run

/-! ## Amounts -/

namespace Run

variable {ρ : Type}

/-- Two stages that are the same, the state reached with them, but for what they have
traced. -/
structure SameButTraces (r r' : Run ρ) : Prop where
  table : r'.table = r.table
  cards : r'.cards = r.cards
  source : r'.source = r.source
  spoken : r'.log.filter Journal.Spoken = r.log.filter Journal.Spoken

namespace SameButTraces

theorem refl (r : Run ρ) : r.SameButTraces r := ⟨rfl, rfl, rfl, rfl⟩

variable {r r' : Run ρ}

theorem tell (h : r.SameButTraces r') {es es' : List Event}
    (same : es'.filter Journal.Spoken = es.filter Journal.Spoken) :
    (r.tell es).SameButTraces (r'.tell es') :=
  ⟨h.table, h.cards, h.source, by simp only [tell_log, List.filter_append, h.spoken, same]⟩

theorem edit (h : r.SameButTraces r') {change change' : Card → Card × List Event} {o : Origin}
    (card : (change' (r.cards o)).1 = (change (r.cards o)).1)
    (told : (change' (r.cards o)).2.filter Journal.Spoken
      = (change (r.cards o)).2.filter Journal.Spoken) :
    (r.edit change o).SameButTraces (r'.edit change' o) where
  table := h.table
  cards := by
    funext x
    rw [edit_cards, edit_cards, h.cards, card]
  source := h.source
  spoken := by
    rw [edit_log, edit_log, h.cards, List.filter_append, List.filter_append, h.spoken, told]

/-- Nothing is done to a card, and nothing said. -/
theorem skip (h : r.SameButTraces r') {change : Card → Card × List Event} {o : Origin}
    (card : (change (r'.cards o)).1 = r'.cards o)
    (silent : (change (r'.cards o)).2.filter Journal.Spoken = []) :
    r.SameButTraces (r'.edit change o) where
  table := h.table
  cards := by
    rw [← h.cards]
    funext x
    rw [edit_cards, card]
    split
    · rename_i same
      rw [same]
    · rfl
  source := h.source
  spoken := by rw [edit_log, List.filter_append, silent, List.append_nil, h.spoken]

end SameButTraces

end Run

namespace Effect

/-- A change that is made where a condition admits the card; where it does not, the card
stays and nothing is said. -/
structure Guards (c : Condition) (whole guarded : Card → Card × List Event) : Prop where
  lasts : Lasts whole
  admitted : ∀ card, c.admits card = true → guarded card = whole card
  kept : ∀ card, c.admits card = false → (guarded card).1 = card
  silent : ∀ card, c.admits card = false → (guarded card).2.filter Journal.Spoken = []

theorem guards_changeAtk (amount : Int) (c : Condition) :
    Guards c (changeAtk amount none) (changeAtk amount (some c)) where
  lasts := lasts_changeAtk amount none
  admitted card admitted := by simp [changeAtk, LaneDuel.admits, admitted]
  kept card refused := by simp [changeAtk, LaneDuel.admits, refused]
  silent card refused := by simp [changeAtk, LaneDuel.admits, refused]; rfl

theorem guards_changeHp (amount : Int) (c : Condition) :
    Guards c (changeHp amount none) (changeHp amount (some c)) where
  lasts := lasts_changeHp amount none
  admitted card admitted := by simp [changeHp, LaneDuel.admits, admitted]
  kept card refused := by simp [changeHp, LaneDuel.admits, refused]
  silent card refused := by simp [changeHp, LaneDuel.admits, refused]

end Effect

namespace Run

variable {ρ : Type} {c : Condition} {whole guarded : Card → Card × List Event}

/-- Visiting the cards that a condition admits, or all of them with the condition asked at
each: the answer at a card is the one from before the visit. -/
theorem SameButTraces.visit (guards : Effect.Guards c whole guarded) {r r' : Run ρ}
    (h : r.SameButTraces r') {keep : Origin → Bool}
    (asks : ∀ o, c.admits (r.cards o) = keep o) (os : List Origin) :
    (r.visit (os.filter keep) whole).SameButTraces (r'.visit os guarded) := by
  induction os generalizing r r' with
  | nil => exact h
  | cons o os ih =>
      have asked : c.admits (r'.cards o) = keep o := by rw [h.cards, asks]
      cases kept : keep o with
      | true =>
          rw [List.filter_cons_of_pos kept]
          have same := guards.admitted (r'.cards o) (asked.trans kept)
          rw [h.cards] at same
          refine ih (h.edit (congrArg Prod.fst same) ?_) fun x => ?_
          · rw [same]
          · rw [c.admits_lasting (edit_lasting guards.lasts r o x), asks]
      | false =>
          rw [List.filter_cons_of_neg (Bool.eq_false_iff.mp kept)]
          have refused := asked.trans kept
          exact ih (h.skip (guards.kept _ refused) (guards.silent _ refused)) asks

/-- A change narrowed by a filter is the change of the whole scope narrowed by the condition
of the filter. -/
theorem reach_sameButTraces (r : Run ρ) (b : Binding) {f : TargetFilter}
    (plain : f.target = none) (guards : Effect.Guards f.condition whole guarded) :
    (r.reach b f whole).SameButTraces (r.reach b f.wide guarded) := by
  obtain ⟨narrowed, hushed⟩ := r.targets_plain b plain
  obtain ⟨all, hushed'⟩ := r.targets_plain b (f := f.wide) plain
  have everyone : (r.targets b f.wide).1 = r.candidates b f := by
    rw [all]
    exact List.filter_eq_self.mpr fun o _ => f.admits_wide (r.cards o)
  rw [reach, reach, narrowed, everyone]
  refine SameButTraces.visit guards ?_ (fun _ => rfl) (r.candidates b f)
  exact (SameButTraces.refl r).tell (hushed'.trans hushed.symm)

end Run

/-- **Filters and conditions mean the same.**  A filter without a mode reaches the cards of
its sides and zone that its condition admits, none without a scope, and with a tighter
filter only some of them; an amount comes to the same with what the filter asks of a card
moved into the condition. -/
theorem Atom.filter_is_condition {ρ : Type} [RandomSource ρ] (b : Binding) (r : Run ρ)
    {f : TargetFilter} (plain : f.target = none) :
    (r.targets b f).1 = (((r.table.occupied [f.location.zone]).filter fun (slot, o) =>
        f.covers b.player slot.side && f.condition.admits (r.cards o)).map Prod.snd) ∧
      (f.player = none → (r.targets b f).1 = []) ∧
      (∀ g : TargetFilter, g.Tightens f → (r.targets b g).1.Sublist (r.targets b f).1) ∧
      ∀ amount : Int,
        ((Atom.modifyAtk amount f none).perform b r).SameButTraces
            ((Atom.modifyAtk amount f.wide (some f.condition)).perform b r) ∧
          ((Atom.modifyHp amount f none).perform b r).SameButTraces
            ((Atom.modifyHp amount f.wide (some f.condition)).perform b r) := by
  refine ⟨r.targets_eq_filter b plain, ?_, fun g tight => r.targets_sublist b plain tight, ?_⟩
  · intro nobody
    have nothing : r.candidates b f = [] := by rw [Run.candidates, nobody]
    rw [(r.targets_plain b plain).1, nothing, List.filter_nil]
  · intro amount
    exact ⟨r.reach_sameButTraces b plain (Effect.guards_changeAtk amount f.condition),
      r.reach_sameButTraces b plain (Effect.guards_changeHp amount f.condition)⟩

namespace Example

open Engine

/-- Only the ogre of the lair is a monster.  Monsters of the acting side are fewer than
monsters, and whichever way they are told from the knight, they alone gain attack. -/
theorem monsters_narrowed :
    let omen : Invocation := ⟨.red, card "omen" .miracle, none⟩
    let r := begin lair omen (Lcg.ofSeed 7)
    let monsters : TargetFilter := { onField .both with race := some ["怪物"] }
    let ours : TargetFilter := { monsters with player := some .own }
    let ogre := Origin.slot ⟨.blue, .battlefield, 1⟩
    monsters.target = none ∧ ours.Tightens monsters ∧
      (r.targets (bind lair omen) monsters).1 = [ogre] ∧
      (r.targets (bind lair omen) ours).1.Sublist [ogre] ∧
      (((Atom.modifyAtk 5 monsters.wide (some monsters.condition)).perform (bind lair omen)
        r).cards ogre).atk = 7 := by
  intro omen r monsters ours ogre
  have tight : ours.Tightens monsters := by
    refine ⟨rfl, rfl, fun _ _ => .inr rfl, ?_, ?_, fun _ asks => asks⟩
    · exact fun ns asks => ⟨ns, asks, List.Subset.refl ns⟩
    · exact fun ns asks => ⟨ns, asks, List.Subset.refl ns⟩
  obtain ⟨closed, -, shrinks, amounts⟩ :=
    Atom.filter_is_condition (bind lair omen) r (f := monsters) rfl
  have found : (r.targets (bind lair omen) monsters).1 = [ogre] := by
    rw [closed]
    decide
  have fewer := shrinks ours tight
  rw [found] at fewer
  refine ⟨rfl, tight, found, fewer, ?_⟩
  rw [(amounts 5).1.cards]
  decide

end Example

end LaneDuel
