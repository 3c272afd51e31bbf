/-
# LaneDuel.Proofs.Loose.Typed -- checked data among loose data

A checked state is a loose one in which every value has its type.  Copying it to
play on changes nothing (`board_ofChecked`), checking gives back what it was
(`check?_ofChecked`), and a play is prepared with the places that checked binding
finds (`prepare_ofChecked`).

`Board.loosen` is the same table with its numbers and signals as values.  Where
cards lie does not depend on them, so every search and every move of a table is
the same on either side.
-/
import LaneDuel.Loose.Engine
import LaneDuel.Proofs.Effect.Run

namespace LaneDuel.Loose

set_option autoImplicit false

universe u

/-! ## Going through lists -/

section Lists

variable {ε α β γ : Type}

theorem Except.ok_bind (a : α) (f : α → Except ε β) : (Except.ok a >>= f) = f a := rfl

theorem mapM_map_ok {f : β → Except ε γ} {g : α → β} {h : α → γ}
    (each : ∀ a, f (g a) = .ok (h a)) (as : List α) : (as.map g).mapM f = .ok (as.map h) := by
  induction as with
  | nil => rfl
  | cons a as ih =>
      rw [List.map_cons, List.mapM_cons, each, ih]
      rfl

theorem mapM_map_some {f : β → Option α} {g : α → β} (each : ∀ a, f (g a) = some a)
    (as : List α) : (as.map g).mapM f = some as := by
  induction as with
  | nil => rfl
  | cons a as ih =>
      rw [List.map_cons, List.mapM_cons, each, ih]
      rfl

end Lists

/-! ## Values -/

@[simp] theorem same_str (a b : String) : same (.str a) (.str b) = (a == b) := by
  rw [same]

@[simp] theorem isKey_str (s : String) : isKey (.str s) = true := rfl

/-! ## Cards -/

@[simp] theorem Card.copy_ofChecked (c : LaneDuel.Card) :
    (Card.ofChecked c).copy = .ok (.ofChecked c) := rfl

/-! ## Tables -/

namespace Board

/-- A player with loose numbers. -/
def loosenPlayer {α : Type} (p : LaneDuel.Player Int α) : LaneDuel.Player Json α :=
  ⟨.int p.health, .int p.coins, p.battlefield, p.buildings, p.hand⟩

/-- A table with loose numbers and signals. -/
def loosen {α : Type} (t : Table Int LaneDuel.Signals α) : Table Json Signals α where
  red := loosenPlayer t.red
  blue := loosenPlayer t.blue
  deck := t.deck
  miracleDeck := t.miracleDeck
  discardPile := t.discardPile
  signals := ofCheckedSignals t.signals

variable {α : Type} (t : Table Int LaneDuel.Signals α)

@[simp] theorem player_loosen (s : Side) :
    (loosen t).player s = loosenPlayer (t.player s) := by cases s <;> rfl

@[simp] theorem zone_loosenPlayer (p : LaneDuel.Player Int α) (z : Zone) :
    (loosenPlayer p).zone z = p.zone z := by cases z <;> rfl

@[simp] theorem fieldCards_loosen (sides : List Side) :
    (loosen t).fieldCards sides = t.fieldCards sides := by
  simp only [Table.fieldCards, player_loosen]
  rfl

@[simp] theorem locate_loosen (hit : α → Bool) (zones : List Zone) :
    (loosen t).locate hit zones = t.locate hit zones := by
  simp only [Table.locate, Table.occupied, Table.occupiedIn, player_loosen, zone_loosenPlayer]

@[simp] theorem cardAt_loosen (slot : Slot) : (loosen t).cardAt slot = t.cardAt slot := by
  simp only [Table.cardAt, player_loosen, zone_loosenPlayer]

theorem origins_loosen : Table.origins (loosen t) = loosen (Table.origins t) := rfl

theorem ofChecked_eq (s : LaneDuel.State) : ofChecked s = (loosen s).map Card.ofChecked := rfl

theorem cardOf_ofChecked (s : LaneDuel.State) (actor target : LaneDuel.Card) (o : Origin) :
    (ofChecked s).cardOf (Card.ofChecked actor) (Card.ofChecked target) o
      = Card.ofChecked (Table.cardOf s actor target o) := by
  cases o with
  | slot slot =>
      rw [Table.cardOf, ofChecked_eq, Table.cardAt_map, cardAt_loosen, Table.cardOf]
      cases s.cardAt slot <;> rfl
  | pile p i =>
      have piled : (ofChecked s).pile p = (s.pile p).map Card.ofChecked := by cases p <;> rfl
      rw [Table.cardOf, piled, List.getElem?_map, Table.cardOf]
      cases (s.pile p)[i]? <;> rfl
  | actor => rfl
  | target => rfl

/-! ## Copying and checking -/

theorem checkCards?_ofChecked (cards : List LaneDuel.Card) :
    (cards.map Card.ofChecked).mapM Card.check? = some cards :=
  mapM_map_some Card.check?_ofChecked cards

theorem checkPlayer?_ofChecked (p : LaneDuel.Player Int LaneDuel.Card) :
    checkPlayer? (ofCheckedPlayer p) = some p := by
  have lanes : ∀ l : List (Option LaneDuel.Card),
      (l.map (Option.map Card.ofChecked)).mapM (·.mapM Card.check?) = some l :=
    mapM_map_some fun lane => by cases lane <;> rfl
  simp only [checkPlayer?, ofCheckedPlayer, LaneDuel.Player.map, Json.int, lanes,
    checkCards?_ofChecked]
  rfl

theorem checkSignals?_ofChecked (s : LaneDuel.Signals) :
    checkSignals? (ofCheckedSignals s) = some s := by
  obtain ⟨turn, phase, selected, skip, victory⟩ := s
  cases selected <;> rfl

theorem check?_ofChecked (s : LaneDuel.State) : (ofChecked s).check? = some s := by
  simp only [check?, ofChecked, checkPlayer?_ofChecked, checkCards?_ofChecked,
    checkSignals?_ofChecked]
  rfl

end Board

theorem Player.board_ofChecked (p : LaneDuel.Player Int LaneDuel.Card) :
    (Player.ofBoard (Board.ofCheckedPlayer p)).board = .ok (Board.ofCheckedPlayer p) := by
  simp only [Player.board, Player.ofBoard, Board.ofCheckedPlayer, LaneDuel.Player.map, Row.ofLanes,
    Row.ofCards, Row.contents, List.map_map, Except.ok_bind]
  rw [mapM_map_ok (h := Option.map Card.ofChecked) fun lane => by cases lane <;> rfl,
    mapM_map_ok (h := Option.map Card.ofChecked) fun lane => by cases lane <;> rfl,
    mapM_map_ok (g := Item.card ∘ Card.ofChecked) (h := Card.ofChecked) fun _ => rfl]
  rfl

theorem State.board_ofChecked (s : LaneDuel.State) :
    (State.ofChecked s).board = .ok (.ofChecked s) := by
  have pile : ∀ l : List LaneDuel.Card,
      (l.map Card.ofChecked).mapM Card.copy = .ok (l.map Card.ofChecked) :=
    mapM_map_ok Card.copy_ofChecked
  have selected : (Board.ofCheckedSignals s.signals).selected.mapM Card.copy
      = .ok (Board.ofCheckedSignals s.signals).selected := by
    obtain ⟨turn, phase, selected, skip, victory⟩ := s.signals
    cases selected <;> rfl
  simp only [State.board, State.ofChecked, State.ofBoard, Board.ofChecked, Player.board_ofChecked,
    pile, selected]
  rfl

/-! ## Plays -/

/-- A checked invocation as a loose one. -/
def Invocation.ofChecked (inv : LaneDuel.Invocation) : Invocation where
  player := .str (Vocabulary.word inv.player)
  card := some (.ofChecked inv.card)
  target := inv.target.map .ofChecked

theorem Invocation.check?_ofChecked (inv : LaneDuel.Invocation) :
    (Invocation.ofChecked inv).check? = some inv := by
  obtain ⟨player, card, target⟩ := inv
  simp only [check?, ofChecked, Vocabulary.read?_word]
  cases target <;> rfl

theorem find_int (c : LaneDuel.Catalog) (cardId : Int) :
    c.find (.int cardId) = .ok (c.get? cardId) := rfl

/-- The scene of a checked binding. -/
def Scene.ofBinding (tracing : Bool) (b : Binding) : Scene :=
  ⟨b.player, some b.actor, b.target, tracing⟩

namespace Engine

theorem locateIn_ofChecked (s : LaneDuel.State) (id : String) (zones : List Zone) :
    locateIn (.ofChecked s) (.str id) zones = (LaneDuel.State.locate s id zones).map .slot := by
  simp only [locateIn, Board.ofChecked_eq, Table.locate_map, Board.locate_loosen, Card.ofChecked,
    same_str, LaneDuel.State.locate]

/-- A checked play is prepared with the places that checked binding finds. -/
theorem prepare_ofChecked {ρ : Type} (tracing : Bool) (inv : LaneDuel.Invocation)
    (s : LaneDuel.State) (source : ρ) :
    prepare tracing (.ofChecked inv) (.ofChecked s) source
      = .ok ⟨.ofBinding tracing (LaneDuel.Engine.bind s inv),
          .enter (.ofChecked s) (.ofChecked inv.card) (.ofChecked (inv.target.getD inv.card))
            source,
          inv.target.isSome⟩ := by
  have found : ∀ (c : LaneDuel.Card) zones,
      locateIn (.ofChecked s) (Card.ofChecked c).instanceId zones
        = (LaneDuel.State.locate s c.instanceId zones).map .slot :=
    fun c zones => locateIn_ofChecked s c.instanceId zones
  have side : (Vocabulary.ofJson "Side" (.str (Vocabulary.word inv.player)) : Except Failure Side)
      = .ok inv.player := by
    simp only [Vocabulary.ofJson, Vocabulary.read?_word]
  have actor : ((LaneDuel.State.locate s inv.card.instanceId LaneDuel.Engine.actorZones).map
      Origin.slot).getD .actor = LaneDuel.Engine.bindActor s inv.card := by
    rw [LaneDuel.Engine.bindActor]
    cases LaneDuel.State.locate s inv.card.instanceId LaneDuel.Engine.actorZones <;> rfl
  -- a card that lies nowhere is copied, which changes nothing
  simp only [prepare, Invocation.ofChecked, found, side, actor, Card.copy_ofChecked, ite_self]
  obtain ⟨player, card, target⟩ := inv
  cases target with
  | none => rfl
  | some t =>
      simp only [Option.map_some, Option.bind_some, found]
      rfl

end Engine

end LaneDuel.Loose
