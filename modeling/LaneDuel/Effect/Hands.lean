/-
# LaneDuel.Effect.Hands -- decks, discards and hands

* `drawDiscarded` takes cards back from the top of the discard pile.
* `redraw` shuffles a hand back, miracles into the miracle deck and the rest into
  the common deck, and draws as many again from each.
* `draw` draws from the front of the common deck.
* `swapHands` exchanges cards that chance picks out of both hands.
-/
import LaneDuel.Effect.Target

namespace LaneDuel.Effect

set_option autoImplicit false

variable {ρ : Type}

def addToHand {ν α : Type} (cards : List α) (p : Player ν α) : Player ν α :=
  { p with hand := p.hand ++ cards }

/-! ## The discard pile -/

/-- Take up to `amount` cards back, the one discarded last first. -/
def drawDiscarded (amount : Nat) (b : Binding) (r : Run ρ) : Run ρ :=
  let pile := r.table.discardPile
  if pile.isEmpty then r.notice .discardEmpty
  else
    let taken := pile.reverse.take amount
    let left := (pile.reverse.drop amount).reverse
    ((r.modifyTable fun t => { t with discardPile := left }).modifyPlayer
      b.player (addToHand taken)).tell
      (taken.map fun o => .notice (.drawFromDiscard b.player (r.cards o).name))

/-! ## The decks -/

/-- Put cards into a deck and shuffle it; no cards, no shuffle. -/
def shuffleInto {α : Type} [RandomSource ρ] (deck cards : List α) (source : ρ) :
    List α × ρ :=
  if cards.isEmpty then (deck, source) else shuffle (deck ++ cards) source

/-- Shuffle the hand back and draw as many cards of each sort again. -/
def redraw [RandomSource ρ] (b : Binding) (r : Run ρ) : Run ρ :=
  let hand := (r.player b.player).hand
  if hand.isEmpty then r.trace .emptyHand
  else
    let miracles := hand.filter fun o => (r.cards o).isMiracle
    let normals := hand.filter fun o => !(r.cards o).isMiracle
    let (deck, source) := shuffleInto r.table.deck normals r.source
    let (miracleDeck, source) := shuffleInto r.table.miracleDeck miracles source
    let drawn := deck.take normals.length
    let drawnMiracles := miracleDeck.take miracles.length
    let r : Run ρ := { r with source }
    ((r.modifyTable fun t => { t with
        deck := deck.drop normals.length
        miracleDeck := miracleDeck.drop miracles.length }).modifyPlayer b.player
      fun p => { p with hand := drawn ++ drawnMiracles }).tell
      [.notice (.handShuffledBack b.player (normals.length + miracles.length)),
        .notice (.redraw b.player drawn.length drawnMiracles.length)]

/-- Draw the base amount and the bonus from the common deck. -/
def drawWanted (base bonus : Nat) (b : Binding) (r : Run ρ) : Run ρ :=
  let wanted := base + bonus
  let drawn := r.table.deck.take wanted
  let told :=
    if bonus = 0 then Notice.cardsDrawn b.player drawn.length
    else .cardsDrawnBonus b.player drawn.length base bonus
  ((r.modifyTable fun t => { t with deck := t.deck.drop wanted }).modifyPlayer
    b.player (addToHand drawn)).tell
    (.notice told
      :: if drawn.length < wanted then [.notice (.deckShort wanted drawn.length)] else [])

/-- Whether one of the races stands on the field of the players asked about. -/
def raceOnField (c : FieldRaceCondition) (b : Binding) (r : Run ρ) : Bool :=
  (r.table.fieldCards (c.player.sides b.player)).any fun o => (r.cards o).hasRace c.races

def draw (base bonus : Nat) (condition : Option FieldRaceCondition) (b : Binding) (r : Run ρ) :
    Run ρ :=
  let earned := match condition with
    | some c => raceOnField c b r
    | none => false
  drawWanted base (if earned then bonus else 0) b r

/-! ## Exchange -/

/-- A hand without the cards whose instance ids are among some others'. -/
def without (cards : Origin → Card) (gone hand : List Origin) : List Origin :=
  hand.filter fun o => !(gone.map fun g => (cards g).instanceId).contains (cards o).instanceId

/-- Give some cards up and get others at the end. -/
def tradeHand (cards : Origin → Card) (gone gained : List Origin) (p : Player Int Origin) :
    Player Int Origin :=
  { p with hand := without cards gone p.hand ++ gained }

/-- Exchange the given cards of the acting player for those taken from the other hand. -/
def exchange (given taken : List Origin) (b : Binding) (r : Run ρ) : Run ρ :=
  if given.isEmpty && taken.isEmpty then r.notice .handsSwapEmpty
  else
    ((r.modifyPlayer b.player (tradeHand r.cards given taken)).modifyPlayer b.opponent
      (tradeHand r.cards taken given)).notice (.handsSwapped given.length taken.length)

/-- The cards of the acting player's hand that may be given away. -/
def eligible (b : Binding) (r : Run ρ) : List Origin :=
  (r.player b.player).hand.filter fun o =>
    (r.cards o).instanceId != (r.cards b.actor).instanceId

/-- Exchange up to so many cards of each hand.  The acting card is not given away. -/
def swapHands [RandomSource ρ] (amount : Nat) (b : Binding) (r : Run ρ) : Run ρ :=
  let own := eligible b r
  let others := (r.player b.opponent).hand
  let (given, source) := pick own (min amount own.length) r.source
  let (taken, source) := pick others (min amount others.length) source
  exchange given taken b { r with source }

end LaneDuel.Effect
