/-
# LaneDuel.Proofs.Loose.Documents -- states survive their documents

A state that is written and read again is what it was, but for rows of lanes that are
empty: they are read as four empty lanes.  What any document is read as has no such row, so
reading settles every default once, and a state that was read stays what it is however
often it is written and read again (`ofJson_toJson`).

* A card is `Settled` if its kind is one; only such cards have a document.
* `Board.refilled` has four empty lanes in the place of each empty row.
* `State.ofJson_document` is the way from a board to its document and back;
  `State.board_of_ofJson` tells what a document is read as.
-/
import LaneDuel.Loose.State
import LaneDuel.Proofs.Engine.Conservation
import LaneDuel.Proofs.Loose.Typed
import LaneDuel.Proofs.Schema.Calls

namespace LaneDuel.Loose

set_option autoImplicit false

/-! ## Values -/

theorem ne_nil_of_truthy {v : Json} {vs : List Json} (truthy : v.truthy = true)
    (held : v.elements? = some vs) : vs ≠ [] := by
  cases v with
  | arr items =>
      cases held
      simpa [Json.truthy] using truthy
  | obj ms =>
      cases held
      simpa [Json.truthy] using truthy
  | str s =>
      cases held
      simpa [Json.truthy] using truthy
  | _ => cases held

/-! ## Cards -/

namespace Card

/-- The kind of the card is one. -/
def Settled (c : Card) : Prop := ∃ k, c.kind = .kind k

/-- The document of a card whose kind is one. -/
def settledDocument (c : Card) : Json := c.document c.kind.plain

variable {c : Card}

theorem toJson_of_settled (h : c.Settled) : c.toJson = .ok c.settledDocument := by
  obtain ⟨k, kind⟩ := h
  simp only [toJson, settledDocument, kind]
  rfl

theorem ofJson_settledDocument (h : c.Settled) : ofJson c.settledDocument = .ok c := by
  obtain ⟨k, kind⟩ := h
  obtain ⟨_, _, _, _, _, _, _, _, _, _, _, _, _, _, _, _⟩ := c
  subst kind
  cases k <;> rfl

theorem settled_of_ofJson {v : Json} (h : ofJson v = .ok c) : c.Settled := by
  cases v with
  | obj ms =>
      obtain ⟨_, _, h⟩ := Except.bind_eq_ok h
      obtain ⟨_, _, h⟩ := Except.bind_eq_ok h
      obtain ⟨_, _, h⟩ := Except.bind_eq_ok h
      obtain ⟨_, _, h⟩ := Except.bind_eq_ok h
      obtain ⟨k, _, h⟩ := Except.bind_eq_ok h
      cases h
      exact ⟨k, rfl⟩
  | _ => cases h

theorem settled_ofChecked (c : LaneDuel.Card) : (ofChecked c).Settled := ⟨c.kind, rfl⟩

end Card

/-! ## Rows of lanes and of cards -/

/-- The document of a lane. -/
def laneDocument : Option Card → Json
  | some c => c.settledDocument
  | none => .null

/-- A row of lanes, or four empty lanes where there are none. -/
def refill : List (Option Card) → List (Option Card)
  | [] => List.replicate standardLanes none
  | lanes => lanes

theorem refill_of_ne_nil {lanes : List (Option Card)} (filled : lanes ≠ []) :
    refill lanes = lanes := by
  cases lanes with
  | nil => exact absurd rfl filled
  | cons lane lanes => rfl

theorem cardOrNull_of_settled {lane : Option Card} (h : ∀ c ∈ lane, c.Settled) :
    cardOrNull lane = .ok (laneDocument lane) := by
  cases lane with
  | none => rfl
  | some c => exact Card.toJson_of_settled (h c rfl)

theorem readSelected_laneDocument {lane : Option Card} (h : ∀ c ∈ lane, c.Settled) :
    State.readSelected (laneDocument lane) = .ok lane := by
  cases lane with
  | none => rfl
  | some c =>
      have read : Card.ofJson c.settledDocument = .ok c := Card.ofJson_settledDocument (h c rfl)
      simp only [State.readSelected, laneDocument, read]
      rfl

theorem settled_of_readSelected {v : Json} {lane : Option Card}
    (h : State.readSelected v = .ok lane) : ∀ c ∈ lane, c.Settled := by
  rw [State.readSelected] at h
  split at h
  · cases read : Card.ofJson v with
    | error e =>
        rw [read] at h
        cases h
    | ok c =>
        rw [read] at h
        cases h
        exact fun c' same => Option.some.inj same ▸ Card.settled_of_ofJson read
  · cases h
    exact fun c none => absurd none (by simp)

theorem lanesToJson_of_settled {lanes : List (Option Card)}
    (h : ∀ lane ∈ lanes, ∀ c ∈ lane, c.Settled) :
    lanesToJson lanes = .ok (.arr (lanes.map laneDocument)) := by
  rw [lanesToJson, mapM_eq_ok_map fun lane mem => cardOrNull_of_settled (h lane mem)]
  rfl

theorem cardsToJson_of_settled {cards : List Card} (h : ∀ c ∈ cards, c.Settled) :
    cardsToJson cards = .ok (.arr (cards.map Card.settledDocument)) := by
  rw [cardsToJson, mapM_eq_ok_map fun c mem => Card.toJson_of_settled (h c mem)]
  rfl

namespace Row

theorem lanes_ofLanes (lanes : List (Option Card)) : (ofLanes lanes).lanes = .ok lanes :=
  mapM_map_eq_ok fun lane _ => by cases lane <;> rfl

theorem cards_ofCards (cards : List Card) : (ofCards cards).cards = .ok cards :=
  mapM_map_eq_ok fun _ _ => rfl

end Row

/-! ## Players -/

namespace Player

variable {ms : List (String × Json)} {key : String}

theorem readLanes_documents {lanes : List (Option Card)}
    (h : ∀ lane ∈ lanes, ∀ c ∈ lane, c.Settled)
    (found : Json.find? ms key = some (.arr (lanes.map laneDocument))) :
    readLanes ms key = .ok (.ofLanes (refill lanes)) := by
  cases lanes with
  | nil =>
      simp only [readLanes, found]
      rfl
  | cons lane lanes =>
      -- a lane is read as the selected card is
      have read : ((lane :: lanes).map laneDocument).mapM
          (fun v => if v.truthy then (Card.ofJson v).map some else .ok none)
          = .ok (lane :: lanes) :=
        mapM_map_eq_ok fun lane mem => readSelected_laneDocument (h lane mem)
      simp only [readLanes, found, Json.elements?, read]
      rfl

theorem readCards_documents {cards : List Card} (h : ∀ c ∈ cards, c.Settled)
    (found : Json.find? ms key = some (.arr (cards.map Card.settledDocument))) :
    readCards ms key = .ok cards := by
  simp only [readCards, found, Json.elements?]
  exact mapM_map_eq_ok fun c mem => Card.ofJson_settledDocument (h c mem)

theorem lanes_of_readLanes {r : Row} (h : readLanes ms key = .ok r) :
    ∃ lanes, r = .ofLanes lanes ∧ lanes ≠ [] ∧ ∀ lane ∈ lanes, ∀ c ∈ lane, c.Settled := by
  have standard : ∀ lane ∈ List.replicate standardLanes (none : Option Card),
      ∀ c ∈ lane, c.Settled := by
    intro lane mem c there
    rw [List.eq_of_mem_replicate mem] at there
    cases there
  have some : List.replicate standardLanes (none : Option Card) ≠ [] := by simp [standardLanes]
  rw [readLanes] at h
  split at h
  · cases h
    exact ⟨_, rfl, some, standard⟩
  · split at h
    · split at h
      · obtain ⟨lanes, read, h⟩ := Except.bind_eq_ok h
        cases h
        refine ⟨lanes, rfl, ?_, forall_mem_of_mapM_eq_ok
          (fun _ _ => settled_of_readSelected) read⟩
        rintro rfl
        have none := (forall₂_of_mapM_eq_ok read).length_eq
        exact ne_nil_of_truthy ‹_› ‹_› (List.length_eq_zero_iff.mp none)
      · cases h
    · cases h
      exact ⟨_, rfl, some, standard⟩

theorem settled_of_readCards {cards : List Card} (h : readCards ms key = .ok cards) :
    ∀ c ∈ cards, c.Settled := by
  rw [readCards] at h
  split at h
  · cases h
    exact fun c mem => absurd mem List.not_mem_nil
  · split at h
    · exact forall_mem_of_mapM_eq_ok (fun _ _ => Card.settled_of_ofJson) h
    · cases h

/-- Every card of a player has a kind. -/
structure Settled (p : LaneDuel.Player Json Card) : Prop where
  battlefield : ∀ lane ∈ p.battlefield, ∀ c ∈ lane, c.Settled
  buildings : ∀ lane ∈ p.buildings, ∀ c ∈ lane, c.Settled
  hand : ∀ c ∈ p.hand, c.Settled

/-- A player has lanes of both kinds. -/
def Filled (p : LaneDuel.Player Json Card) : Prop := p.battlefield ≠ [] ∧ p.buildings ≠ []

def refilled (p : LaneDuel.Player Json Card) : LaneDuel.Player Json Card :=
  { p with battlefield := refill p.battlefield, buildings := refill p.buildings }

def document (p : LaneDuel.Player Json Card) : Json := .obj [
  ("health", p.health),
  ("coins", p.coins),
  ("battlefield", .arr (p.battlefield.map laneDocument)),
  ("buildings", .arr (p.buildings.map laneDocument)),
  ("hand", .arr (p.hand.map Card.settledDocument))]

variable {p : LaneDuel.Player Json Card}

theorem refilled_of_filled (h : Filled p) : refilled p = p := by
  simp only [refilled, refill_of_ne_nil h.1, refill_of_ne_nil h.2]

theorem toJson_of_settled (h : Settled p) : (ofBoard p).toJson = .ok (document p) := by
  simp only [toJson, ofBoard, Row.lanes_ofLanes, Row.cards_ofCards, Except.ok_bind,
    lanesToJson_of_settled h.battlefield, lanesToJson_of_settled h.buildings,
    cardsToJson_of_settled h.hand]
  rfl

theorem ofJson_document (h : Settled p) : ofJson (document p) = .ok (ofBoard (refilled p)) := by
  simp only [ofJson, document]
  rw [readLanes_documents h.battlefield rfl, readLanes_documents h.buildings rfl,
    readCards_documents h.hand rfl]
  rfl

/-- A player that was read has lanes, and its cards have kinds. -/
theorem board_of_ofJson {v : Json} {q : Player} (h : ofJson v = .ok q) :
    ∃ p, q = ofBoard p ∧ Settled p ∧ Filled p := by
  cases v with
  | obj ms =>
      obtain ⟨_, readBattlefield, h⟩ := Except.bind_eq_ok h
      obtain ⟨_, readBuildings, h⟩ := Except.bind_eq_ok h
      obtain ⟨hand, readHand, h⟩ := Except.bind_eq_ok h
      cases h
      obtain ⟨battlefield, rfl, some, settled⟩ := lanes_of_readLanes readBattlefield
      obtain ⟨buildings, rfl, some', settled'⟩ := lanes_of_readLanes readBuildings
      exact ⟨⟨_, _, battlefield, buildings, hand⟩, rfl,
        ⟨settled, settled', settled_of_readCards readHand⟩, some, some'⟩
  | _ => cases h

end Player

/-! ## States -/

namespace Board

/-- Every card, the selected one included, has a kind. -/
structure Settled (b : Board) : Prop where
  red : Player.Settled b.red
  blue : Player.Settled b.blue
  deck : ∀ c ∈ b.deck, c.Settled
  miracleDeck : ∀ c ∈ b.miracleDeck, c.Settled
  discardPile : ∀ c ∈ b.discardPile, c.Settled
  selected : ∀ c ∈ b.signals.selected, c.Settled

/-- Both players have lanes of both kinds. -/
def Filled (b : Board) : Prop := Player.Filled b.red ∧ Player.Filled b.blue

/-- The board with four empty lanes in the place of each empty row of lanes. -/
def refilled (b : Board) : Board :=
  { b with red := Player.refilled b.red, blue := Player.refilled b.blue }

theorem refilled_of_filled {b : Board} (h : Filled b) : refilled b = b := by
  simp only [refilled, Player.refilled_of_filled h.1, Player.refilled_of_filled h.2]

theorem settled_ofChecked (s : LaneDuel.State) : Settled (ofChecked s) := by
  have cards : ∀ cs : List LaneDuel.Card, ∀ c ∈ cs.map Card.ofChecked, c.Settled := by
    intro cs c mem
    obtain ⟨checked, -, rfl⟩ := List.mem_map.mp mem
    exact Card.settled_ofChecked checked
  have lane : ∀ l : Option LaneDuel.Card, ∀ c ∈ l.map Card.ofChecked, c.Settled := by
    intro l c mem
    obtain ⟨checked, -, rfl⟩ := Option.map_eq_some_iff.mp mem
    exact Card.settled_ofChecked checked
  have lanes : ∀ ls : List (Option LaneDuel.Card),
      ∀ l ∈ ls.map (Option.map Card.ofChecked), ∀ c ∈ l, c.Settled := by
    intro ls l mem
    obtain ⟨checked, -, rfl⟩ := List.mem_map.mp mem
    exact lane checked
  exact {
    red := ⟨lanes _, lanes _, cards _⟩
    blue := ⟨lanes _, lanes _, cards _⟩
    deck := cards _
    miracleDeck := cards _
    discardPile := cards _
    selected := lane _ }

end Board

namespace State

def document (b : Board) : Json := .obj [
  ("players", .obj [("red", Player.document b.red), ("blue", Player.document b.blue)]),
  ("deck", .arr (b.deck.map Card.settledDocument)),
  ("miracle_deck", .arr (b.miracleDeck.map Card.settledDocument)),
  ("discard_pile", .arr (b.discardPile.map Card.settledDocument)),
  ("turn", b.signals.turn),
  ("phase", b.signals.phase),
  ("selected_card", laneDocument b.signals.selected),
  ("skip_to_next_turn", b.signals.skipToNextTurn),
  ("immediate_victory",
    Json.ofOption (fun v => .str (Vocabulary.word v)) b.signals.immediateVictory)]

theorem toJson_of_settled {b : Board} (h : Board.Settled b) :
    (ofBoard b).toJson = .ok (document b) := by
  simp only [toJson, ofBoard, Player.toJson_of_settled h.red, Player.toJson_of_settled h.blue,
    cardsToJson_of_settled h.deck, cardsToJson_of_settled h.miracleDeck,
    cardsToJson_of_settled h.discardPile, cardOrNull_of_settled h.selected]
  rfl

theorem readPlayers_documents {red blue : LaneDuel.Player Json Card} (h : Player.Settled red)
    (h' : Player.Settled blue) :
    readPlayers (.obj [("red", Player.document red), ("blue", Player.document blue)])
      = .ok (.ofBoard (Player.refilled red), .ofBoard (Player.refilled blue)) := by
  have first : readMember "red" (Player.document red)
      = .ok (.red, .ofBoard (Player.refilled red)) :=
    congrArg (Except.map fun p => (Side.red, p)) (Player.ofJson_document h)
  have second : readMember "blue" (Player.document blue)
      = .ok (.blue, .ofBoard (Player.refilled blue)) :=
    congrArg (Except.map fun p => (Side.blue, p)) (Player.ofJson_document h')
  simp only [readPlayers, List.mapM_cons, first, second]
  rfl

theorem readVictory_written (victory : Option Side) :
    readVictory (Json.ofOption (fun v => .str (Vocabulary.word v)) victory) = .ok victory := by
  cases victory with
  | none => rfl
  | some side => cases side <;> rfl

/-- The document of a board is read as the board with no empty row of lanes. -/
theorem ofJson_document {b : Board} (h : Board.Settled b) :
    ofJson (document b) = .ok (ofBoard (Board.refilled b)) := by
  obtain ⟨red, blue, deck, miracleDeck, discardPile, signals⟩ := b
  have players := readPlayers_documents h.red h.blue
  have selected : readSelected (laneDocument signals.selected) = .ok signals.selected :=
    readSelected_laneDocument h.selected
  have victory := readVictory_written signals.immediateVictory
  simp only [ofJson, document]
  rw [Player.readCards_documents h.deck rfl, Player.readCards_documents h.miracleDeck rfl,
    Player.readCards_documents h.discardPile rfl]
  simp only [Json.find?, List.lookup_cons, String.reduceBEq, Option.getD_some, players, selected,
    victory, Except.ok_bind]
  rfl

theorem board_of_readMember {name : String} {v : Json} {member : Side × Player}
    (h : readMember name v = .ok member) :
    ∃ p, member.2 = .ofBoard p ∧ Player.Settled p ∧ Player.Filled p := by
  rw [readMember] at h
  split at h
  · cases read : Player.ofJson v with
    | error e =>
        rw [read] at h
        cases h
    | ok q =>
        rw [read] at h
        cases h
        exact Player.board_of_ofJson read
  · cases h

/-- Whoever was read as a player has a board. -/
theorem board_of_readPlayers {v : Json} {red blue : Player} (h : readPlayers v = .ok (red, blue)) :
    ∀ q ∈ [red, blue], ∃ p, q = .ofBoard p ∧ Player.Settled p ∧ Player.Filled p := by
  cases v with
  | obj members =>
      obtain ⟨players, read, h⟩ := Except.bind_eq_ok h
      have boards := forall_mem_of_mapM_eq_ok (fun _ _ => board_of_readMember) read
      have found : ∀ {side : Side} {q : Player}, players.lookup side = some q →
          ∃ p, q = .ofBoard p ∧ Player.Settled p ∧ Player.Filled p := by
        intro side q listed
        obtain ⟨before, after, rfl, -⟩ := List.lookup_eq_some_iff.mp listed
        exact boards (side, q) (List.mem_append_right _ List.mem_cons_self)
      split at h
      · rename_i listedRed listedBlue
        cases h
        exact List.forall_mem_cons.mpr ⟨found listedRed,
          List.forall_mem_cons.mpr ⟨found listedBlue, nofun⟩⟩
      · cases h
  | _ => cases h

/-- What a document is read as: a board that has lanes and whose cards have kinds. -/
theorem board_of_ofJson {v : Json} {s : State} (h : ofJson v = .ok s) :
    ∃ b, s = ofBoard b ∧ Board.Settled b ∧ Board.Filled b := by
  cases v with
  | obj ms =>
      simp only [ofJson] at h
      split at h
      · obtain ⟨⟨red, blue⟩, readBoth, h⟩ := Except.bind_eq_ok h
        obtain ⟨deck, readDeck, h⟩ := Except.bind_eq_ok h
        obtain ⟨miracleDeck, readMiracles, h⟩ := Except.bind_eq_ok h
        obtain ⟨discardPile, readDiscarded, h⟩ := Except.bind_eq_ok h
        obtain ⟨selected, readSelection, h⟩ := Except.bind_eq_ok h
        obtain ⟨victory, -, h⟩ := Except.bind_eq_ok h
        cases h
        have boards := board_of_readPlayers readBoth
        obtain ⟨r, rfl, settledRed, filledRed⟩ := boards red List.mem_cons_self
        obtain ⟨b, rfl, settledBlue, filledBlue⟩ :=
          boards blue (List.mem_cons_of_mem _ List.mem_cons_self)
        exact ⟨⟨r, b, deck, miracleDeck, discardPile, _⟩, rfl,
          { red := settledRed
            blue := settledBlue
            deck := Player.settled_of_readCards readDeck
            miracleDeck := Player.settled_of_readCards readMiracles
            discardPile := Player.settled_of_readCards readDiscarded
            selected := settled_of_readSelected readSelection },
          filledRed, filledBlue⟩
      · cases h
  | _ => cases h

/-- **States survive their documents.**  A state whose cards have kinds is written to a
document that reads back as the state, each empty row of lanes as four empty lanes; so a
state that some document was read as reads back as itself. -/
theorem ofJson_toJson :
    (∀ b : Board, Board.Settled b → ∃ d, (ofBoard b).toJson = .ok d ∧
      ofJson d = .ok (ofBoard (Board.refilled b)) ∧
      (Board.Filled b → ofJson d = .ok (ofBoard b))) ∧
    ∀ v s, ofJson v = .ok s → ∃ d, s.toJson = .ok d ∧ ofJson d = .ok s := by
  refine ⟨fun b settled => ?_, fun v s read => ?_⟩
  · refine ⟨document b, toJson_of_settled settled, ofJson_document settled, fun filled => ?_⟩
    rw [ofJson_document settled, Board.refilled_of_filled filled]
  · obtain ⟨b, rfl, settled, filled⟩ := board_of_ofJson read
    refine ⟨document b, toJson_of_settled settled, ?_⟩
    rw [ofJson_document settled, Board.refilled_of_filled filled]

end State

namespace Example

/-- The duel with all of red's lanes gone and the knight selected. -/
def cleared : LaneDuel.State :=
  let s := LaneDuel.Example.duel
  { s with
    red := { s.red with battlefield := [] }
    signals := { s.signals with selected := some (LaneDuel.Example.card "knight" .battlefield) } }

/-- The cleared duel comes back with four empty lanes for red, and then stays. -/
theorem cleared_reads_back :
    Board.Settled (.ofChecked cleared) ∧
      ∃ d s d', (State.ofChecked cleared).toJson = .ok d ∧ State.ofJson d = .ok s ∧
        s = State.ofBoard (Board.refilled (.ofChecked cleared)) ∧
        s.red.battlefield = .ofLanes [none, none, none, none] ∧
        s.toJson = .ok d' ∧ State.ofJson d' = .ok s := by
  have settled : Board.Settled (.ofChecked cleared) := Board.settled_ofChecked cleared
  obtain ⟨d, written, read, -⟩ := State.ofJson_toJson.1 (.ofChecked cleared) settled
  obtain ⟨d', again, same⟩ := State.ofJson_toJson.2 d _ read
  exact ⟨settled, d, _, d', written, read, rfl, rfl, again, same⟩

end Example

end LaneDuel.Loose
