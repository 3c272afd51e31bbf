/-
# LaneDuel.Proofs.Engine.Composition -- a chain may be cut in two

Playing the effects `as ++ bs` at once, or `as` first and then `bs` on the state
they left, comes to the same end (`resolve_append`).  In the first play the names
given at the beginning are kept throughout; the second play of the other way names
the cards anew and looks for the acting card and the target once more.  Both runs
are in step under the correspondence that reads a new name as the old name of the
card lying there (`Correspondence.afresh`).

Only settling can tell the two apart, hence the conditions on health and coins.
-/
import LaneDuel.Journal.Entry
import LaneDuel.Proofs.Engine.InStep

namespace LaneDuel

set_option autoImplicit false

/-! ## Entries of a journal without traces -/

namespace Journal

/-- Traces are not recorded, notices are. -/
def Spoken (e : Event) : Bool := e.level != .debug

theorem entries_untraced (book : Phrasebook) (es : List Event) :
    entries book false es = (es.filter Spoken).map (Entry.ofEvent book) := by
  rw [entries, List.filter_map]
  rfl

end Journal

namespace Correspondence

variable {ρ : Type}

/-- A new beginning on the state that a run has reached: a name in it stands for the
run's own name of the card that lies there. -/
def afresh (r : Run ρ) (distinct : r.Distinct) : Correspondence where
  crossed := false
  name := r.table.cardOf .actor .target
  live o := o ∈ (Table.origins r.table).cards
  heard := Journal.Spoken
  before := r.log.filter Journal.Spoken
  name_inj o o' alive alive' same := by
    have read : ((Table.origins r.table).cards.map (r.table.cardOf .actor .target)).Nodup := by
      rw [← Table.cards_map, Table.origins_map_cardOf]
      exact distinct.nodup
    exact List.inj_on_of_nodup_map read alive alive' same
  quiet crossed := by cases crossed

theorem afresh_matches {r : Run ρ} (distinct : r.Distinct) (actor target : Card) :
    (afresh r distinct).Matches (Run.enter r.snapshot actor target r.source) r := by
  have names : (Run.enter r.snapshot actor target r.source).table = Table.origins r.table :=
    Table.origins_map r.cards r.table
  have renamed : (Table.origins r.table).map (r.table.cardOf .actor .target) = r.table :=
    Table.origins_map_cardOf r.table .actor .target
  refine ⟨?_, ?_, ?_, rfl, ?_⟩
  · rw [names]
    exact renamed.symm
  · rw [names]
    exact fun o lies => lies
  · -- both ways of reading the names give back the state
    have read : (Table.origins r.table).map (r.cards ∘ r.table.cardOf .actor .target)
        = (Table.origins r.table).map (r.snapshot.cardOf actor target) := by
      rw [← Table.map_map, renamed]
      have again := Table.origins_map_cardOf r.snapshot actor target
      rw [Run.snapshot, Table.origins_map] at again
      exact again.symm
    intro o lies
    have cards := congrArg Table.cards read
    rw [Table.cards_map, Table.cards_map] at cards
    exact List.map_inj_left.mp cards o lies
  · simp [afresh, Run.enter]

end Correspondence

namespace Engine

variable {ρ : Type}

/-! ## Binding anew -/

/-- The acting card and the target, if there is one, are where they are looked for. -/
def InPlace (s : State) (inv : Invocation) : Prop :=
  (State.locate s inv.card.instanceId actorZones).isSome = true ∧ targetLost s inv = false

instance (s : State) (inv : Invocation) : Decidable (InPlace s inv) :=
  inferInstanceAs (Decidable (_ ∧ _))

theorem findById_bindActor {s : State} {inv : Invocation} (inPlace : InPlace s inv) (source : ρ) :
    (begin s inv source).findById inv.card.instanceId actorZones
      = some (bindActor s inv.card) := by
  obtain ⟨slot, located⟩ := Option.isSome_iff_exists.mp inPlace.1
  rw [begin, Run.findById_enter, bindActor, located]
  rfl

theorem findById_bindTarget {s : State} {inv : Invocation} (inPlace : InPlace s inv) {t : Card}
    (given : inv.target = some t) (source : ρ) :
    ∃ o, inv.target.bind (bindTarget s) = some o ∧
      (begin s inv source).findById t.instanceId [.battlefield] = some o := by
  have kept := inPlace.2
  simp only [targetLost, given, Option.isNone_eq_false_iff] at kept
  obtain ⟨o, found⟩ := Option.isSome_iff_exists.mp kept
  refine ⟨o, ?_, ?_⟩
  · rw [given, Option.bind_some, found]
  · rw [← bindTarget_eq, found]

section Afresh

variable {s : State} {inv : Invocation} {source : ρ} {r : Run ρ}

/-- A card found on the state that a run has reached is the card of that id in the run. -/
theorem name_of_found (conserved : (begin s inv source).Conserves r) (distinct : r.Distinct)
    {id : String} {zones zones' : List Zone} {o o' : Origin}
    (before : (begin s inv source).findById id zones = some o)
    (after : (begin r.snapshot inv r.source).findById id zones' = some o') :
    (Correspondence.afresh r distinct).live o' ∧
      (Correspondence.afresh r distinct).name o' = o := by
  have h := Correspondence.afresh_matches distinct inv.card (inv.target.getD inv.card)
  obtain ⟨hit, onTable⟩ := Run.findById_eq_some before
  obtain ⟨hit', onTable'⟩ := Run.findById_eq_some after
  have alive := h.live o' onTable'
  refine ⟨alive, distinct.eq_of_id ?_ ((conserved.mem_cards_iff o).mpr onTable) ?_⟩
  · rw [h.table, Correspondence.table, Table.cards_map]
    exact List.mem_map_of_mem onTable'
  · rw [h.cards o' alive, conserved.instanceId o, hit]
    exact hit'

/-- Binding anew binds the cards that were bound before. -/
theorem bind_afresh (conserved : (begin s inv source).Conserves r) (distinct : r.Distinct)
    (before : InPlace s inv) (after : InPlace r.snapshot inv) :
    (Correspondence.afresh r distinct).Binds (bind r.snapshot inv) ∧
      (Correspondence.afresh r distinct).binding (bind r.snapshot inv) = bind s inv := by
  obtain ⟨actorLive, actor⟩ := name_of_found conserved distinct
    (findById_bindActor before source) (findById_bindActor after r.source)
  cases given : inv.target with
  | none =>
      refine ⟨⟨actorLive, by simp [bind, given]⟩, ?_⟩
      simp only [Correspondence.binding, bind, actor, given, Option.bind_none, Option.map_none]
      rfl
  | some t =>
      obtain ⟨o, bound, found⟩ := findById_bindTarget before given source
      obtain ⟨o', bound', found'⟩ := findById_bindTarget after given r.source
      obtain ⟨targetLive, target⟩ := name_of_found conserved distinct found found'
      refine ⟨⟨actorLive, ?_⟩, ?_⟩
      · simp only [bind, bound', Option.mem_some_iff]
        rintro _ rfl
        exact targetLive
      · simp only [Correspondence.binding, bind, actor, bound, bound', Option.map_some, target]
        rfl

end Afresh

/-! ## Composition -/

/-- Settling leaves a state without debts alone. -/
theorem settle_eq_self {σ α : Type} {t : Table Int σ α}
    (solvent : ∀ side, 0 ≤ (t.player side).health ∧ 0 ≤ (t.player side).coins) :
    settle t = t := by
  have alone : ∀ side, settlePlayer (t.player side) = t.player side := by
    intro side
    obtain ⟨health, coins⟩ := solvent side
    rw [settlePlayer, max_eq_right health, max_eq_right coins]
  have red : settlePlayer t.red = t.red := alone .red
  have blue : settlePlayer t.blue = t.blue := alone .blue
  rw [settle, red, blue]

/-- The engine plays a card by an entry with these effects. -/
def Plays (e : Engine) (library : Library) (cardId : Int) (entry : CardEffect)
    (effects : List Call) : Prop :=
  e.library = library ∧ e.catalog.get? cardId = some { entry with effects }

variable [RandomSource ρ]

/-- A play of a plain entry on cards that are in place settles the chain of its effects. -/
theorem Plays.resolve_eq {e : Engine} {library : Library} {cardId : Int} {entry : CardEffect}
    {effects : List Call} (plays : e.Plays library cardId entry effects)
    (plain : entry.uiMode = none) {inv : Invocation}
    (aimed : entry.needsTarget = true → inv.target.isSome = true) {s : State}
    (inPlace : InPlace s inv) (source : ρ) :
    e.resolve cardId inv s source = finish (chain library cardId inv s source effects) := by
  have aim : (entry.needsTarget && inv.target.isNone) = false := by
    cases needs : entry.needsTarget with
    | false => rfl
    | true => simpa using aimed needs
  rw [resolve_eq_finish plays.2 inPlace.2 aim plain, plays.1]

variable [LawfulRandomSource ρ]

/-- **A chain may be cut in two.**  Playing two lists of effects at once, or the first
and then the second on what it left, comes to the same state, source and journal, if the
acting card and the target are in place both times and the first leaves no debts. -/
theorem resolve_append {library : Library} {cardId : Int} {entry : CardEffect}
    {as bs : List Call} {whole first second : Engine}
    (both : whole.Plays library cardId entry (as ++ bs))
    (one : first.Plays library cardId entry as) (two : second.Plays library cardId entry bs)
    (plain : entry.uiMode = none) {inv : Invocation}
    (aimed : entry.needsTarget = true → inv.target.isSome = true) {s : State}
    (distinct : s.instanceIds.Nodup) (source : ρ) (before : InPlace s inv)
    (after : InPlace (first.resolve cardId inv s source).resolution.state inv)
    (solvent : ∀ side,
      0 ≤ ((chain library cardId inv s source as).table.player side).health ∧
        0 ≤ ((chain library cardId inv s source as).table.player side).coins) :
    let played := whole.resolve cardId inv s source
    let half := first.resolve cardId inv s source
    let rest := second.resolve cardId inv half.resolution.state half.source
    played.resolution.status = rest.resolution.status ∧
      played.resolution.state = rest.resolution.state ∧ played.source = rest.source ∧
      ∀ book, Journal.entries book false played.resolution.events
        = Journal.entries book false half.resolution.events
          ++ Journal.entries book false rest.resolution.events := by
  intro played half rest
  have conserved := chain_conserves library cardId inv distinct source as
  have distinct' := chain_distinct library cardId inv distinct source as
  have halfEq : half = finish (chain library cardId inv s source as) :=
    one.resolve_eq plain aimed before source
  have playedEq : played = finish (runCalls library cardId (bind s inv) as.length bs
      (chain library cardId inv s source as)) := by
    rw [← chain_append]
    exact both.resolve_eq plain aimed before source
  generalize chain library cardId inv s source as = r at *
  have reached : half.resolution.state = r.snapshot := by
    rw [halfEq]
    apply settle_eq_self
    intro side
    rw [Run.snapshot, Table.player_map]
    exact solvent side
  have left : half.source = r.source := by
    rw [halfEq]
    rfl
  have after' : InPlace r.snapshot inv := reached ▸ after
  have restEq : rest = finish (chain library cardId inv r.snapshot r.source bs) := by
    change second.resolve cardId inv half.resolution.state half.source = _
    rw [reached, left]
    exact two.resolve_eq plain aimed after' r.source
  obtain ⟨binds, rebound⟩ := bind_afresh conserved distinct' before after'
  have ended := runCalls_matches library cardId binds bs (fun crossed => by cases crossed)
    (fun crossed => by cases crossed) 0 as.length (.inr fun _ _ => rfl)
    (Correspondence.afresh_matches distinct' inv.card (inv.target.getD inv.card))
    (fun crossed => by cases crossed)
  rw [rebound] at ended
  rw [playedEq, restEq, halfEq]
  refine ⟨rfl, ?_, ended.source, fun book => ?_⟩
  · change settle _ = settle _
    rw [ended.snapshot]
    rfl
  · simp only [Journal.entries_untraced, ← List.map_append]
    congr 1
    exact ended.log

end Engine

namespace Example

open Engine

/-- The squire is played by red on the ogre. -/
def strike : Invocation := ⟨.red, card "squire" .battlefield, some (card "ogre" .battlefield)⟩

/-- The ogre grows and comes over to red's lanes. -/
def opening : List Call :=
  [.known (.modifyAtk 2 selected none), .known (.swapRandomHands 1), .known .swapBattlefields]

/-- The hand is drawn anew and the ogre is killed. -/
def ending : List Call := [.known .discardAndRedraw, .known (.killCard selected)]

theorem strike_cut :
    let half := (engine opening).resolve 1 strike duel (Lcg.ofSeed 7)
    let rest := (engine ending).resolve 1 strike half.resolution.state half.source
    InPlace duel strike ∧ InPlace half.resolution.state strike ∧
      ((engine (opening ++ ending)).resolve 1 strike duel (Lcg.ofSeed 7)).resolution.state
        = rest.resolution.state := by
  have before : InPlace duel strike := by decide
  have after : InPlace ((engine opening).resolve 1 strike duel (Lcg.ofSeed 7)).resolution.state
      strike := by decide
  have solvent : ∀ side,
      0 ≤ ((chain .standard 1 strike duel (Lcg.ofSeed 7) opening).table.player side).health ∧
        0 ≤ ((chain .standard 1 strike duel (Lcg.ofSeed 7) opening).table.player side).coins := by
    intro side
    cases side <;> decide
  have both : (engine (opening ++ ending)).Plays .standard 1 (entry []) (opening ++ ending) :=
    ⟨rfl, rfl⟩
  have one : (engine opening).Plays .standard 1 (entry []) opening := ⟨rfl, rfl⟩
  have two : (engine ending).Plays .standard 1 (entry []) ending := ⟨rfl, rfl⟩
  have cut := resolve_append both one two rfl (by decide) (by decide) (Lcg.ofSeed 7) before after
    solvent
  exact ⟨before, after, cut.2.1⟩

end Example

end LaneDuel
