/-
# LaneDuel.Proofs.Loose.Hands -- typed cards in decks and hands

Drawing, redrawing and exchanging on a typed run.  Taking cards back from the discard
pile goes card by card and stops at an empty pile; that is taking them off its top at
once (`takeBack_foldl`).
-/
import LaneDuel.Proofs.Loose.Targets

namespace LaneDuel

set_option autoImplicit false

/-! ## Card by card -/

namespace Effect

variable {ρ : Type} (b : Binding)

/-- Take the top card of the discard pile back, if there is one. -/
def takeBack (r : Run ρ) : Run ρ :=
  match r.table.discardPile.getLast? with
  | none => r
  | some o =>
    ((r.modifyTable fun t => { t with discardPile := t.discardPile.dropLast }).modifyPlayer
      b.player (addToHand [o])).notice (.drawFromDiscard b.player (r.cards o).name)

/-- Take so many cards back at once. -/
def takeBackMany (amount : Nat) (r : Run ρ) : Run ρ :=
  let pile := r.table.discardPile
  let taken := pile.reverse.take amount
  ((r.modifyTable fun t =>
    { t with discardPile := (pile.reverse.drop amount).reverse }).modifyPlayer
      b.player (addToHand taken)).tell
    (taken.map fun o => .notice (.drawFromDiscard b.player (r.cards o).name))

theorem takeBackMany_zero (r : Run ρ) : takeBackMany b 0 r = r := by
  obtain ⟨side, own, target⟩ := b
  cases side <;>
    simp [takeBackMany, addToHand, Run.modifyTable, Run.tell, Table.modifyPlayer, Table.setPlayer,
      Table.player]

theorem takeBackMany_succ (amount : Nat) (r : Run ρ) :
    takeBackMany b (amount + 1) r = takeBackMany b amount (takeBack b r) := by
  obtain empty | ⟨rest, o, laid⟩ := List.eq_nil_or_concat r.table.discardPile
  · simp [takeBackMany, takeBack, empty]
  · obtain ⟨side, own, target⟩ := b
    cases side <;>
      simp [takeBackMany, takeBack, laid, addToHand, Run.modifyTable, Run.tell, Table.modifyPlayer,
        Table.setPlayer, Table.player]

theorem takeBack_foldl {α : Type} (as : List α) (r : Run ρ) :
    as.foldl (fun r _ => takeBack b r) r = takeBackMany b as.length r := by
  induction as generalizing r with
  | nil => exact (takeBackMany_zero b r).symm
  | cons a as ih =>
      rw [List.foldl_cons, ih, List.length_cons, takeBackMany_succ]

/-- No more cards come back than there are. -/
theorem takeBackMany_min (amount : Nat) (r : Run ρ) :
    takeBackMany b (min amount r.table.discardPile.length) r = takeBackMany b amount r := by
  obtain few | many := Nat.le_total amount r.table.discardPile.length
  · rw [Nat.min_eq_left few]
  · have pile : r.table.discardPile.reverse.length = r.table.discardPile.length :=
      List.length_reverse
    rw [← pile] at many
    have all := Nat.le_refl r.table.discardPile.reverse.length
    rw [← pile, Nat.min_eq_right many]
    simp only [takeBackMany, List.take_of_length_le many, List.drop_of_length_le many,
      List.take_of_length_le all, List.drop_of_length_le all]

/-- Draw an amount of any sign: a negative one leaves so many cards in the deck. -/
def drawSigned (base : Int) (bonus : Nat) (r : Run ρ) : Run ρ :=
  let wanted := base + bonus
  let count := Loose.Act.available r.table.deck.length wanted
  let drawn := r.table.deck.take count
  let told :=
    if bonus = 0 then Notice.cardsDrawn b.player drawn.length
    else .cardsDrawnBonus b.player drawn.length base bonus
  ((r.modifyTable fun t => { t with deck := t.deck.drop count }).modifyPlayer
    b.player (addToHand drawn)).tell
    (.notice told
      :: if (drawn.length : Int) < wanted then [.notice (.deckShort wanted drawn.length)] else [])

theorem drawSigned_natCast (base bonus : Nat) (r : Run ρ) :
    drawSigned b base bonus r = drawWanted base bonus b r := by
  have count : ∀ length,
      Loose.Act.available length ((base + bonus : Nat) : Int) = base + bonus := by
    intro length
    rw [Loose.Act.available, if_pos (Int.natCast_nonneg _), Int.toNat_natCast]
  simp only [drawSigned, drawWanted, ← Int.natCast_add, count, Int.ofNat_lt]

end Effect

namespace Loose.Act

variable {ρ : Type} {r : LaneDuel.Run ρ} (tracing : Bool) (b : Binding)

namespace Does

/-! ## The discard pile -/

theorem drawDiscarded (amount : Nat) : Does (Act.drawDiscarded amount (.ofBinding tracing b)) r ()
    (Effect.drawDiscarded amount b r) := by
  have laid : ∀ r : LaneDuel.Run ρ, (Run.ofChecked r).table.discardPile = r.table.discardPile :=
    fun _ => rfl
  have loop := Effect.takeBack_foldl b (List.range (min amount r.table.discardPile.length)) r
  rw [List.length_range, Effect.takeBackMany_min] at loop
  refine get.bind ?_
  rw [Effect.drawDiscarded, laid]
  cases r.table.discardPile.isEmpty with
  | true => exact notice tracing b _
  | false =>
      have ended : Does (Pure.pure ()) (Effect.takeBackMany b amount r) ()
        (Effect.takeBackMany b amount r) := pure ()
      refine get.bind (bind (a := ()) ?_ ended)
      rw [← loop]
      refine each (fun r _ => Effect.takeBack b r) (fun r _ _ => ?_) r
      refine get.bind ?_
      rw [laid, Effect.takeBack]
      cases r.table.discardPile.getLast? with
      | none => exact pure _
      | some o =>
          refine (modifyTable (g := fun t => { t with discardPile := t.discardPile.dropLast })
            rfl).bind ((modifyPlayer b.player (g := Effect.addToHand [o]) rfl).bind ?_)
          exact (look o).bind ((notice tracing b _).bind (pure _))

/-! ## The decks -/

theorem drawSigned (base : Int) (bonus : Nat) :
    Does (Act.drawWanted base bonus (.ofBinding tracing b)) r ()
      (Effect.drawSigned b base bonus r) := by
  let count := Act.available r.table.deck.length (base + bonus)
  have laid : (Run.ofChecked r).table.deck = r.table.deck := rfl
  rw [Effect.drawSigned, ← List.singleton_append, ← LaneDuel.Run.tell_tell]
  refine get.bind ?_
  rw [laid]
  refine (modifyTable (g := fun t => { t with deck := t.deck.drop count }) rfl).bind ?_
  refine (modifyPlayer b.player (g := Effect.addToHand (r.table.deck.take count)) rfl).bind
    ((notice tracing b _).bind ?_)
  by_cases short : ((r.table.deck.take count).length : Int) < base + bonus
  · rw [if_pos short, if_pos short]
    exact notice tracing b _
  · rw [if_neg short, if_neg short, LaneDuel.Run.tell_nil]
    exact pure ()

theorem drawWanted (base bonus : Nat) :
    Does (Act.drawWanted base bonus (.ofBinding tracing b)) r ()
      (Effect.drawWanted base bonus b r) := by
  rw [← Effect.drawSigned_natCast]
  exact drawSigned tracing b base bonus

theorem drawCards (base bonus : Nat) (condition : Option FieldRaceCondition) :
    Does (Act.drawCards base bonus condition (.ofBinding tracing b)) r ()
      (Effect.draw base bonus condition b r) := by
  cases condition with
  | none => exact (pure false).bind (drawWanted tracing b base _)
  | some c =>
      refine get.bind ?_
      rw [Run.fieldCards_ofChecked]
      refine (anyCard (fun card => card.hasAnyRace c.races)
        (hasAnyRace_ofChecked · c.races) _).bind ?_
      exact drawWanted tracing b base _

/-! ## Exchange -/

theorem idSet (os : List Origin) :
    Does (Act.idSet os) r ((os.map fun o => (r.cards o).instanceId).map .str) r := by
  have keys : (os.map fun o => Json.str (r.cards o).instanceId).all isKey = true := by
    rw [List.all_map]
    exact List.all_eq_true.mpr fun o _ => rfl
  rw [List.map_map]
  refine (mapM (g := fun o => Json.str (r.cards o).instanceId)
    fun o _ => (look o).bind (pure _)).bind ?_
  rw [if_pos keys]
  exact pure _

theorem without (gone hand : List Origin) :
    Does (Act.without ((gone.map fun o => (r.cards o).instanceId).map .str) hand) r
      (Effect.without r.cards gone hand) r :=
  keep (fun c => (isAmong ((gone.map fun o => (r.cards o).instanceId).map .str) c.instanceId).map
    (!·)) (fun c => congrArg (Except.map (!·)) (isAmong_str _ c.instanceId)) hand

theorem eligible : Does (Act.eligible (.ofBinding tracing b)) r (Effect.eligible b r) r := by
  have hand : (Board.loosenPlayer (r.player b.player)).hand = (r.player b.player).hand := rfl
  refine (player b.player).bind ?_
  rw [Effect.eligible]
  dsimp only
  rw [hand]
  cases (r.player b.player).hand with
  | nil => exact pure []
  | cons o os =>
      refine (actor tracing b).bind ((look b.actor).bind ?_)
      exact keep (fun c => .ok !same c.instanceId (.str (r.cards b.actor).instanceId))
        (fun c => congrArg (fun found => Except.ok !found) (same_str _ _)) (o :: os)

end Does

/-- The second half of an exchange, once chance has chosen. -/
def exchange (given taken others : List Origin) (b : Scene) : Act ρ Unit :=
  if given.isEmpty && taken.isEmpty then notice b .handsSwapEmpty
  else do
    let givenIds ← idSet given
    let takenIds ← idSet taken
    let left ← without givenIds (← player b.player).hand
    modifyPlayer b.player fun p => { p with hand := left }
    let left ← without takenIds others
    modifyPlayer b.opponent fun p => { p with hand := left }
    modifyPlayer b.player (Effect.addToHand taken)
    modifyPlayer b.opponent (Effect.addToHand given)
    notice b (.handsSwapped given.length taken.length)

/-- The second half of a redraw, once the hand is sorted. -/
def refill [RandomSource ρ] (normals miracles : List Origin) (b : Scene) : Act ρ Unit := do
  modifyPlayer b.player fun p => { p with hand := [] }
  let deck ← draw (Effect.shuffleInto (← get).table.deck normals)
  let miracleDeck ← draw (Effect.shuffleInto (← get).table.miracleDeck miracles)
  modifyTable fun t => { t with deck, miracleDeck }
  notice b (.handShuffledBack b.player (normals.length + miracles.length))
  let drawn := deck.take normals.length
  let drawnMiracles := miracleDeck.take miracles.length
  modifyTable fun t => { t with
    deck := deck.drop normals.length
    miracleDeck := miracleDeck.drop miracles.length }
  modifyPlayer b.player (Effect.addToHand (drawn ++ drawnMiracles))
  notice b (.redraw b.player drawn.length drawnMiracles.length)

namespace Does

/-- Both hands lose what they give before either gains. -/
theorem exchange (given taken : List Origin) :
    Does (Act.exchange given taken (r.player b.opponent).hand (.ofBinding tracing b)) r ()
      (Effect.exchange given taken b r) := by
  let left := r.modifyPlayer b.player fun p =>
    { p with hand := Effect.without r.cards given p.hand }
  let leftBoth := left.modifyPlayer b.opponent fun p =>
    { p with hand := Effect.without r.cards taken p.hand }
  have untouched : (left.player b.opponent).hand = (r.player b.opponent).hand :=
    congrArg (·.hand) (Table.player_modifyPlayer_opponent r.table b.player _)
  have together : (leftBoth.modifyPlayer b.player (Effect.addToHand taken)).modifyPlayer b.opponent
        (Effect.addToHand given)
      = (r.modifyPlayer b.player (Effect.tradeHand r.cards given taken)).modifyPlayer b.opponent
          (Effect.tradeHand r.cards taken given) := by
    obtain ⟨side, own, target⟩ := b
    cases side <;> rfl
  rw [Act.exchange, Effect.exchange]
  cases given.isEmpty && taken.isEmpty with
  | true => exact notice tracing b _
  | false =>
      rw [if_neg Bool.false_ne_true, if_neg Bool.false_ne_true, ← together, ← untouched]
      refine (idSet given).bind ((idSet taken).bind ((player b.player).bind ?_))
      refine (without given _).bind ((modifyPlayer b.player (g := fun p =>
        { p with hand := Effect.without r.cards given p.hand }) rfl).bind ?_)
      refine (without (r := left) taken _).bind ((modifyPlayer b.opponent (g := fun p =>
        { p with hand := Effect.without r.cards taken p.hand }) rfl).bind ?_)
      refine (modifyPlayer b.player (g := Effect.addToHand taken) rfl).bind ?_
      refine (modifyPlayer b.opponent (g := Effect.addToHand given) rfl).bind ?_
      exact notice tracing b _

variable [RandomSource ρ]

theorem swapHands (limit : Nat → Except Failure Nat) (amount : Nat)
    (limits : ∀ n, limit n = .ok (min amount n)) :
    Does (Act.swapHands limit (.ofBinding tracing b)) r () (Effect.swapHands amount b r) := by
  rcases first : pick (Effect.eligible b r) (min amount (Effect.eligible b r).length) r.source
    with ⟨given, source⟩
  rcases second : pick (r.player b.opponent).hand (min amount (r.player b.opponent).hand.length)
    source with ⟨taken, source'⟩
  have chosen : Effect.swapHands amount b r
      = Effect.exchange given taken b { r with source := source' } := by
    simp only [Effect.swapHands, first, second]
  rw [chosen]
  refine (eligible tracing b).bind ((player b.opponent).bind ?_)
  refine (ofExcept (limits _)).bind ((draw first).bind ?_)
  refine (ofExcept (limits _)).bind ((draw second).bind ?_)
  exact exchange (r := { r with source := source' }) tracing b given taken

theorem refill (normals miracles : List Origin) {deck miracleDeck : List Origin}
    {source source' : ρ}
    (first : Effect.shuffleInto r.table.deck normals r.source = (deck, source))
    (second : Effect.shuffleInto r.table.miracleDeck miracles source = (miracleDeck, source')) :
    Does (Act.refill normals miracles (.ofBinding tracing b)) r ()
      ((({ r with source := source' }.modifyTable fun t => { t with
          deck := deck.drop normals.length
          miracleDeck := miracleDeck.drop miracles.length }).modifyPlayer b.player fun p =>
            { p with
              hand := deck.take normals.length ++ miracleDeck.take miracles.length }).tell
        [.notice (.handShuffledBack b.player (normals.length + miracles.length)),
          .notice (.redraw b.player (deck.take normals.length).length
            (miracleDeck.take miracles.length).length)]) := by
  let emptied := r.modifyPlayer b.player fun p => { p with hand := [] }
  let drawn := deck.take normals.length ++ miracleDeck.take miracles.length
  have deckLaid : (Run.ofChecked emptied).table.deck = r.table.deck :=
    Table.modifyPlayer_deck r.table b.player _
  have miraclesLaid : (Run.ofChecked { emptied with source }).table.miracleDeck
      = r.table.miracleDeck := Table.modifyPlayer_miracleDeck r.table b.player _
  have together : (({ emptied with source := source' }.modifyTable fun t => { t with
        deck := deck.drop normals.length
        miracleDeck := miracleDeck.drop miracles.length }).modifyPlayer b.player
          (Effect.addToHand drawn))
      = ({ r with source := source' }.modifyTable fun t => { t with
        deck := deck.drop normals.length
        miracleDeck := miracleDeck.drop miracles.length }).modifyPlayer b.player fun p =>
          { p with hand := drawn } := by
    obtain ⟨side, own, target⟩ := b
    cases side <;> rfl
  rw [← together, ← List.singleton_append, ← LaneDuel.Run.tell_tell]
  refine (modifyPlayer b.player (g := fun p => { p with hand := [] }) rfl).bind ?_
  refine (get (r := emptied)).bind ?_
  rw [deckLaid]
  refine (draw (r := emptied) first).bind ((get (r := { emptied with source })).bind ?_)
  rw [miraclesLaid]
  refine (draw (r := { emptied with source }) second).bind ?_
  refine (modifyTable (g := fun t => { t with deck, miracleDeck }) rfl).bind ?_
  refine (notice tracing b _).bind ((modifyTable (g := fun t => { t with
    deck := deck.drop normals.length
    miracleDeck := miracleDeck.drop miracles.length }) rfl).bind ?_)
  exact (modifyPlayer b.player (g := Effect.addToHand drawn) rfl).bind (notice tracing b _)

/-- The hand is emptied first and filled at the end. -/
theorem redraw : Does (Act.redraw (.ofBinding tracing b)) r () (Effect.redraw b r) := by
  have hand : (Board.loosenPlayer (r.player b.player)).hand = (r.player b.player).hand := rfl
  refine (player b.player).bind ?_
  rw [Effect.redraw]
  dsimp only
  rw [hand]
  cases (r.player b.player).hand.isEmpty with
  | true => exact trace tracing b _
  | false =>
      refine (keep (fun c => .ok c.isMiracle)
        (fun c => congrArg Except.ok (isMiracle_ofChecked c)) _).bind ?_
      refine (keep (fun c => .ok !c.isMiracle)
        (fun c => congrArg (fun m => Except.ok !m) (isMiracle_ofChecked c)) _).bind ?_
      exact refill tracing b _ _ rfl rfl

end Does

end Loose.Act

end LaneDuel
