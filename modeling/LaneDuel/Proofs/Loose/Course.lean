/-
# LaneDuel.Proofs.Loose.Course -- one course for every play

`Engine.resolve` has two ways to play a card: at once on the checked state where
everything has its type, and step by step on the loose board.  The second one is always
there, and `Engine.course` takes no other.  They come to the same end
(`resolve_eq_course`), so what is shown of the loose course is shown of every play.

What passes a check is what it was checked to be (`Board.eq_of_check?`,
`Invocation.eq_of_check?`), so a checked play is the play of typed data, and that runs
its chain call by call on either board.
-/
import LaneDuel.Proofs.Loose.Returns

namespace LaneDuel.Loose

set_option autoImplicit false

/-! ## What has passed a check -/

theorem Card.eq_of_check? {c : Card} {d : LaneDuel.Card} (checked : c.check? = some d) :
    c = .ofChecked d := by
  unfold check? at checked
  split at checked
  · cases checked
    rfl
  · cases checked

section Lists

variable {cards : List Card} {lanes : List (Option Card)}

theorem cards_eq_of_check? {ds : List LaneDuel.Card} (checked : cards.mapM Card.check? = some ds) :
    cards = ds.map .ofChecked :=
  eq_map_of_mapM_some (fun _ _ => Card.eq_of_check?) checked

theorem lane_eq_of_check? {lane : Option Card} {d : Option LaneDuel.Card}
    (checked : lane.mapM Card.check? = some d) : lane = d.map .ofChecked := by
  cases lane with
  | none =>
      cases checked
      rfl
  | some c =>
      obtain ⟨d', passes, rfl⟩ := Option.map_eq_some_iff.mp checked
      rw [Card.eq_of_check? passes]
      rfl

theorem lanes_eq_of_check? {ds : List (Option LaneDuel.Card)}
    (checked : lanes.mapM (·.mapM Card.check?) = some ds) :
    lanes = ds.map (Option.map .ofChecked) :=
  eq_map_of_mapM_some (fun _ _ => lane_eq_of_check?) checked

end Lists

namespace Board

theorem player_eq_of_check? {p : LaneDuel.Player Json Card}
    {q : LaneDuel.Player Int LaneDuel.Card} (checked : checkPlayer? p = some q) :
    p = ofCheckedPlayer q := by
  obtain ⟨health, coins, battlefield, buildings, hand⟩ := p
  unfold checkPlayer? at checked
  split at checked
  · rename_i h c isHealth isCoins
    obtain ⟨bf, lanes, checked⟩ := Option.bind_eq_some_iff.mp checked
    obtain ⟨bd, places, checked⟩ := Option.bind_eq_some_iff.mp checked
    obtain ⟨hd, held, checked⟩ := Option.bind_eq_some_iff.mp checked
    cases checked
    obtain rfl : health = _ := isHealth
    obtain rfl : coins = _ := isCoins
    obtain rfl : battlefield = _ := lanes_eq_of_check? lanes
    obtain rfl : buildings = _ := lanes_eq_of_check? places
    obtain rfl : hand = _ := cards_eq_of_check? held
    rfl
  · cases checked

theorem signals_eq_of_check? {s : Signals} {t : LaneDuel.Signals}
    (checked : checkSignals? s = some t) : s = ofCheckedSignals t := by
  obtain ⟨turn, phase, selected, skip, victory⟩ := s
  unfold checkSignals? at checked
  split at checked
  · rename_i isTurn isPhase isSkip
    obtain ⟨d, picked, checked⟩ := Option.bind_eq_some_iff.mp checked
    cases checked
    obtain rfl : turn = _ := isTurn
    obtain rfl : phase = _ := isPhase
    obtain rfl : skip = _ := isSkip
    obtain rfl : selected = _ := lane_eq_of_check? picked
    rfl
  · cases checked

theorem eq_of_check? {b : Board} {s : LaneDuel.State} (checked : b.check? = some s) :
    b = ofChecked s := by
  obtain ⟨red, blue, deck, miracleDeck, discardPile, signals⟩ := b
  obtain ⟨r, isRed, checked⟩ := Option.bind_eq_some_iff.mp checked
  obtain ⟨bl, isBlue, checked⟩ := Option.bind_eq_some_iff.mp checked
  obtain ⟨d, isDeck, checked⟩ := Option.bind_eq_some_iff.mp checked
  obtain ⟨m, isMiracle, checked⟩ := Option.bind_eq_some_iff.mp checked
  obtain ⟨p, isDiscard, checked⟩ := Option.bind_eq_some_iff.mp checked
  obtain ⟨g, isSignals, checked⟩ := Option.bind_eq_some_iff.mp checked
  cases checked
  obtain rfl : red = _ := player_eq_of_check? isRed
  obtain rfl : blue = _ := player_eq_of_check? isBlue
  obtain rfl : deck = _ := cards_eq_of_check? isDeck
  obtain rfl : miracleDeck = _ := cards_eq_of_check? isMiracle
  obtain rfl : discardPile = _ := cards_eq_of_check? isDiscard
  obtain rfl : signals = _ := signals_eq_of_check? isSignals
  rfl

end Board

/-- The acting side and card of a checked invocation, with whatever target. -/
theorem Invocation.acting_of_check? {word : String} {card : Option Card}
    {target : Option LaneDuel.Card} {i : LaneDuel.Invocation}
    (checked : (do
      return ⟨← Vocabulary.read? word, ← (← card).check?, target⟩ : Option LaneDuel.Invocation)
        = some i) :
    word = Vocabulary.word i.player ∧ card = some (.ofChecked i.card) ∧ target = i.target := by
  obtain ⟨side, isSide, checked⟩ := Option.bind_eq_some_iff.mp checked
  obtain ⟨c, given, checked⟩ := Option.bind_eq_some_iff.mp checked
  obtain ⟨d, isCard, checked⟩ := Option.bind_eq_some_iff.mp checked
  cases checked
  rw [given, Card.eq_of_check? isCard]
  exact ⟨(Vocabulary.word_of_read? isSide).symm, rfl, rfl⟩

theorem Invocation.eq_of_check? {inv : Invocation} {i : LaneDuel.Invocation}
    (checked : inv.check? = some i) : inv = ofChecked i := by
  obtain ⟨player, card, target⟩ := inv
  unfold check? at checked
  split at checked
  · rename_i word isPlayer
    obtain rfl : player = _ := isPlayer
    cases target with
    | none =>
        obtain ⟨rfl, rfl, aimed⟩ := acting_of_check? checked
        rw [ofChecked, ← aimed]
        rfl
    | some c =>
        obtain ⟨t, isTarget, checked⟩ := Option.bind_eq_some_iff.mp checked
        obtain ⟨d, passes, rfl⟩ := Option.map_eq_some_iff.mp isTarget
        obtain ⟨rfl, rfl, aimed⟩ := acting_of_check? checked
        rw [Card.eq_of_check? passes, ofChecked, ← aimed]
        rfl
  · cases checked

namespace Engine

/-! ## The loose course -/

variable {ρ : Type}

/-- What is prepared for an acting card. -/
theorem prepare_of_card {inv : Invocation} {c : Card} (acting : inv.card = some c)
    (tracing : Bool) (b : Board) (source : ρ) :
    prepare tracing inv b source = (do
      let place := locateIn b c.instanceId LaneDuel.Engine.actorZones
      let own ← (if place.isSome then .ok c else c.copy : Except Failure Card)
      let side ← Vocabulary.ofJson "Side" inv.player
      let target := inv.target.bind fun t => locateIn b t.instanceId [.battlefield]
      return ⟨⟨side, some (place.getD .actor), target, tracing⟩,
        .enter b own (inv.target.getD own) source, inv.target.isSome⟩) := by
  rw [prepare, acting]
  simp only
  split <;> rfl

variable [RandomSource ρ]

/-- The calls of an entry, and the settling after them. -/
def chain (library : Library) (cardId : Json) (b : Scene) (calls : List Call) : Act ρ Unit := do
  runCalls library cardId b 0 calls
  Side.both.forM settlePlayer

theorem play_eq (e : Engine) (cardId : Json) (calls : List Call) (p : Prepared ρ) :
    e.play cardId calls p =
      let ran := (chain e.library cardId p.scene calls : Act ρ Unit).run p.run
      ⟨ran.1.map fun _ => ⟨.ofBoard ran.2.snapshot, .applied, ran.2.log⟩, ran.2.source⟩ := rfl

/-- Play a card step by step on the loose board, whatever may be checked. -/
def course (e : Engine) (tracing : Bool) (cardId : Json) (inv : Invocation) (s : State)
    (source : ρ) : Outcome ρ :=
  match e.catalog.find cardId with
  | .error f => ⟨.error f, source⟩
  | .ok none => leave s source .noEffect []
  | .ok (some entry) =>
    match s.board with
    | .error f => ⟨.error f, source⟩
    | .ok b => e.resolveLoose tracing cardId entry inv s b source

theorem eq_of_check? {e : Engine} {cardId : Json} {inv : Invocation} {b : Board} {c : Checked}
    (checked : e.check? cardId inv b = some c) :
    e.library = .ofChecked c.engine.library ∧ c.engine.catalog = e.catalog ∧
      cardId = .int c.cardId ∧ inv = .ofChecked c.invocation ∧ b = .ofChecked c.state := by
  unfold check? at checked
  split at checked
  · obtain ⟨l, isLibrary, checked⟩ := Option.bind_eq_some_iff.mp checked
    obtain ⟨i, isInvocation, checked⟩ := Option.bind_eq_some_iff.mp checked
    obtain ⟨s, isBoard, checked⟩ := Option.bind_eq_some_iff.mp checked
    cases checked
    exact ⟨Library.eq_of_check? isLibrary, rfl, rfl, Invocation.eq_of_check? isInvocation,
      Board.eq_of_check? isBoard⟩
  · cases checked

/-- What a checked library builds has an effect. -/
theorem carries_ofChecked (l : LaneDuel.Library) {calls : List Call}
    (apart : ∀ call ∈ calls, call.Apart) : (Library.ofChecked l).Carries ρ calls := by
  intro call mem x built
  rw [Library.build_ofChecked l (apart call mem)] at built
  cases found : l.atom? call with
  | none =>
      rw [found] at built
      cases built
  | some a =>
      rw [found] at built
      cases built
      rfl

/-- A play on the checked state is the loose play where all that it tells can be put into
words. -/
theorem checked_eq_loose {e : Engine} {c : Checked} {entry : CardEffect}
    (library : e.library = .ofChecked c.engine.library) (catalog : c.engine.catalog = e.catalog)
    (found : e.catalog.get? c.cardId = some entry) (apart : ∀ call ∈ entry.effects, call.Apart)
    (tracing : Bool) (given : State) {source : ρ}
    (sayable : (c.engine.resolve c.cardId c.invocation c.state source).resolution.events.all
      Event.writable = true) :
    c.resolve given source
      = e.resolveLoose tracing (.int c.cardId) entry (.ofChecked c.invocation) given
        (.ofChecked c.state) source := by
  revert sayable
  rw [resolveLoose_ofChecked, Checked.resolve, LaneDuel.Engine.resolve, catalog, found]
  simp only
  split
  · exact fun _ => rfl
  · split
    · exact fun _ => rfl
    · cases entry.uiMode with
      | some mode => exact fun _ => rfl
      | none =>
          intro sayable
          have carries : e.library.Carries ρ entry.effects := library ▸ carries_ofChecked _ apart
          have played := play_ofChecked c.cardId (LaneDuel.Engine.bind c.state c.invocation) e
            tracing carries (r := LaneDuel.Engine.begin c.state c.invocation source) rfl
            c.invocation.target.isSome
          simp only [library, ← runCalls_eq_callSteps _ _ _ apart] at played
          rw [Run.enter_ofChecked]
          have returned := (if_pos sayable).mp played
          exact returned.symm

/-- Every play is the loose play. -/
theorem resolve_eq_course {e : Engine} {cardId : Json}
    (apart : ∀ entry, e.catalog.find cardId = .ok (some entry) → ∀ call ∈ entry.effects, call.Apart)
    (tracing : Bool) (inv : Invocation) (s : State) (source : ρ) :
    e.resolve tracing cardId inv s source = e.course tracing cardId inv s source := by
  rw [resolve, course]
  cases looked : e.catalog.find cardId with
  | error f => rfl
  | ok found =>
      cases found with
      | none => rfl
      | some entry =>
          cases s.board with
          | error f => rfl
          | ok b =>
              cases checked : e.check? cardId inv b with
              | none => simp only [checked, Option.bind_none, Option.getD_none]
              | some c =>
                  obtain ⟨library, catalog, rfl, rfl, rfl⟩ := eq_of_check? checked
                  have found : e.catalog.get? c.cardId = some entry := Except.ok.inj looked
                  simp only [checked, Option.bind_some, Checked.resolve?_getD]
                  split
                  · rename_i sayable
                    exact checked_eq_loose library catalog found (apart entry looked) tracing s
                      sayable
                  · rfl

end Engine

end LaneDuel.Loose
