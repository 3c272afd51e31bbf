/-
# LaneDuel.Proofs.Loose.Parallel.Moves -- effects on players, lanes and hands, side by side

A move takes names from one place of the table to another, so a table of known names stays
one, and what is drawn by chance is drawn alike because the sources are alike.

`perform` and `performRaw` put the effects together: whatever a call was built to do is
steady, on checked and on raw members.
-/
import LaneDuel.Proofs.Effect.Moves
import LaneDuel.Proofs.Loose.Parallel.Cards

namespace LaneDuel

set_option autoImplicit false

/-! ## Known names that move -/

namespace Table.Within

variable {ν σ α : Type} {known : α → Prop} {t : Table ν σ α}

theorem clearLane (h : t.Within known) (s : Side) (index : Nat) :
    (t.clearLane s index).Within known :=
  h.modifyPlayer s {
    battlefield := fun o lane => by
      obtain before | none_ := List.mem_or_eq_of_mem_set lane
      · exact (h.player s).battlefield o before
      · cases none_
    buildings := (h.player s).buildings
    hand := (h.player s).hand }

theorem discard (h : t.Within known) {cards : List α} (from_ : ∀ o ∈ cards, known o) :
    (t.discard cards).Within known :=
  ⟨h.player, h.deck, h.miracleDeck, List.forall_mem_append.mpr ⟨h.discardPile, from_⟩⟩

end Table.Within

theorem Player.Within.addToHand {ν α : Type} {known : α → Prop} {p : Player ν α}
    (h : p.Within known) {cards : List α} (from_ : ∀ o ∈ cards, known o) :
    (Effect.addToHand cards p).Within known :=
  ⟨h.battlefield, h.buildings, List.forall_mem_append.mpr ⟨h.hand, from_⟩⟩

namespace Loose.Act.Steady

variable {ρ : Type} {pair : Pairing} {b : Scene}

/-! ## Players -/

section Numbers

variable (s : Side) (v : Json)

theorem setHealth : Steady pair (Act.modifyPlayer s fun p => { p with health := v } :
    Act ρ Unit) Any :=
  modifyPlayer s fun _ within => ⟨within.battlefield, within.buildings, within.hand⟩

theorem setCoins : Steady pair (Act.modifyPlayer s fun p => { p with coins := v } :
    Act ρ Unit) Any :=
  modifyPlayer s fun _ within => ⟨within.battlefield, within.buildings, within.hand⟩

end Numbers

theorem heal (amount : Int) (f : PlayerFilter) :
    Steady pair (Act.heal amount f b : Act ρ Unit) Any :=
  (player _).bind fun _ _ => (ofExcept _).andThen fun _ => (setHealth _ _).andThen fun _ =>
    notice _ rfl

theorem damage (amount : Int) (f : PlayerFilter) :
    Steady pair (Act.damage amount f b : Act ρ Unit) Any :=
  (player _).bind fun _ _ => (ofExcept _).andThen fun _ => (setHealth _ _).andThen fun _ =>
    notice _ rfl

theorem pay (amount : Json) : Steady pair (Act.pay amount b : Act ρ Unit) Any :=
  (player _).bind fun _ _ => (ofExcept _).andThen fun _ => (setCoins _ _).andThen fun _ =>
    notice _ rfl

theorem gainCoins (amount : Nat) (condition : Option CoinCondition) :
    Steady pair (Act.gainCoins amount condition b : Act ρ Unit) Any := by
  cases condition with
  | none => exact (pure trivial).andThen fun _ => pay _
  | some c =>
      refine get (fun r r' same => by simp only [same]) fun r within => ?_
      refine (anyCard (within.fieldCards _)).andThen fun _ => branch ?_ ?_
      · exact (pure trivial).andThen fun _ => pay _
      · exact (pure trivial).andThen fun _ => pay _

theorem execute (c : KillCondition) : Steady pair (Act.execute c b : Act ρ Unit) Any := by
  refine (player _).bind fun _ _ => (ofExcept _).andThen fun _ => branch ?_ (notice _ rfl)
  refine (setHealth _ _).andThen fun _ => ?_
  refine (modifyTable fun _ within => ?_).andThen fun _ => notice _ rfl
  exact ⟨within.player, within.deck, within.miracleDeck, within.discardPile⟩

/-- Health and coins are cut off at zero alike. -/
theorem settlePlayer (s : Side) : Steady pair (Engine.settlePlayer s : Act ρ Unit) Any :=
  (player s).bind fun _ _ => (ofExcept _).andThen fun _ => (setHealth _ _).andThen fun _ =>
    (player s).bind fun _ _ => (ofExcept _).andThen fun _ => setCoins _ _

theorem settle : Steady pair (Side.both.forM Engine.settlePlayer : Act ρ Unit) Any :=
  (settlePlayer .red).andThen fun _ => (settlePlayer .blue).andThen fun _ => pure trivial

/-! ## Lanes -/

theorem kill (bound : pair.Binds b) (f : TargetFilter) :
    Steady pair (Act.kill f b : Act ρ Unit) Any := by
  refine reach bound f fun o known => (look known).andThen fun c => (locate _).andThen fun slot => ?_
  cases slot with
  | none => exact (trace _).andThen fun _ => pure trivial
  | some slot =>
      refine get (fun r r' same => by rw [same]) fun r within => ?_
      cases there : r.table.cardAt slot with
      | none => exact pure trivial
      | some found =>
          have lies := within.cardAt there
          refine (modifyTable fun t within => ?_).andThen fun _ => (look lies).andThen fun _ =>
            (notice _ rfl).andThen fun _ => pure trivial
          exact (within.clearLane _ _).discard (List.forall_mem_singleton.mpr lies)

theorem clearField (f : Option ClearFieldFilter) :
    Steady pair (Act.clearField f b : Act ρ Unit) Any := by
  refine (each fun side _ => (player side).bind fun p within => ?_).andThen fun _ => pure trivial
  refine (each fun (lane, index) mem => ?_).andThen fun _ => pure trivial
  cases lane with
  | none => exact pure trivial
  | some o =>
      have lies := within.battlefield o
        (List.mem_of_getElem? (List.mem_zipIdx_iff_getElem?.mp mem))
      refine (look lies).andThen fun _ => (ofExcept _).andThen fun _ => branch ?_ (pure trivial)
      refine (modifyTable fun t within => ?_).andThen fun _ =>
        (notice _ rfl).andThen fun _ => pure trivial
      exact (within.clearLane _ _).discard (List.forall_mem_singleton.mpr lies)

theorem setLanes (s : Side) {from_ : LaneDuel.Player Json Origin} (known : from_.Within pair.known) :
    Steady pair (Act.modifyPlayer s fun p => { p with battlefield := from_.battlefield } :
      Act ρ Unit) Any :=
  modifyPlayer s fun _ within => ⟨known.battlefield, within.buildings, within.hand⟩

theorem swapBattlefields : Steady pair (Act.swapBattlefields b : Act ρ Unit) Any :=
  (player _).bind fun _ own => (player _).bind fun _ others => (setLanes _ others).andThen fun _ =>
    (setLanes _ own).andThen fun _ => notice _ rfl

theorem skipTurn : Steady pair (Act.skipTurn b : Act ρ Unit) Any := by
  refine (modifyTable fun t within => ?_).andThen fun _ => notice _ rfl
  exact ⟨within.player, within.deck, within.miracleDeck, within.discardPile⟩

/-! ## Decks and hands -/

theorem addToHand (s : Side) {os : List Origin} (known : pair.All os) :
    Steady pair (Act.modifyPlayer s (Effect.addToHand os) : Act ρ Unit) Any :=
  modifyPlayer s fun _ within => within.addToHand known

theorem setHand (s : Side) {os : List Origin} (known : pair.All os) :
    Steady pair (Act.modifyPlayer s fun p => { p with hand := os } : Act ρ Unit) Any :=
  modifyPlayer s fun _ within => ⟨within.battlefield, within.buildings, known⟩

theorem drawDiscarded (amount : Nat) :
    Steady pair (Act.drawDiscarded amount b : Act ρ Unit) Any := by
  refine get (fun r r' same => by simp only [same]) fun r _ => branch (notice _ rfl) ?_
  refine get (fun r r' same => by simp only [same]) fun r _ => ?_
  refine (each fun _ _ => ?_).andThen fun _ => pure trivial
  refine get (fun r r' same => by rw [same]) fun r within => ?_
  cases top : r.table.discardPile.getLast? with
  | none => exact pure trivial
  | some o =>
      have lies := within.discardPile o (List.mem_of_getLast? top)
      refine (modifyTable fun t within => ?_).andThen fun _ => (addToHand _ ?_).andThen fun _ =>
        (look lies).andThen fun _ => (notice _ rfl).andThen fun _ => pure trivial
      · exact ⟨within.player, within.deck, within.miracleDeck,
          fun o mem => within.discardPile o (List.dropLast_subset _ mem)⟩
      · exact List.forall_mem_singleton.mpr lies

/-- Cards go off the top of the deck and into a hand. -/
theorem drawWanted (base : Int) (bonus : Nat) :
    Steady pair (Act.drawWanted base bonus b : Act ρ Unit) Any := by
  refine get (fun r r' same => by simp only [same]) fun r within => ?_
  refine (modifyTable fun t rest => ?_).andThen fun _ => (addToHand _ ?_).andThen fun _ =>
    (either _ _ rfl rfl).andThen fun _ => branch (notice _ rfl) (pure trivial)
  · exact ⟨rest.player, fun o mem => within.deck o (List.mem_of_mem_drop mem), rest.miracleDeck,
      rest.discardPile⟩
  · exact fun o mem => within.deck o (List.mem_of_mem_take mem)

theorem drawCards (base bonus : Nat) (condition : Option FieldRaceCondition) :
    Steady pair (Act.drawCards base bonus condition b : Act ρ Unit) Any := by
  cases condition with
  | none => exact (pure trivial).andThen fun _ => drawWanted _ _
  | some c =>
      refine get (fun r r' same => by simp only [same]) fun r within => ?_
      exact (anyCard (within.fieldCards _)).andThen fun _ => drawWanted _ _

theorem eligible (bound : pair.Binds b) : Steady pair (Act.eligible b : Act ρ _) pair.All := by
  refine (player _).bind fun p known => branch (pure pair.all_nil) ?_
  exact (actor bound).bind fun own acts => (look acts).andThen fun _ => keep known.hand

theorem idSet {os : List Origin} (known : pair.All os) :
    Steady pair (Act.idSet os : Act ρ (List Json)) Any := by
  refine (mapM (P := Any) fun o mem => ?_).bind fun _ _ => branch (pure trivial) (throw _)
  exact (look (known o mem)).andThen fun _ => pure trivial

section Chance

variable [RandomSource ρ]

theorem shuffleInto {deck cards : List Origin} (known : pair.All deck) (known' : pair.All cards) :
    Steady pair (Act.draw (Effect.shuffleInto deck cards) : Act ρ _) pair.All :=
  draw fun source o mem => by
    obtain mem | mem := List.mem_append.mp ((Effect.shuffleInto_perm deck cards source).mem_iff.mp mem)
    · exact known o mem
    · exact known' o mem

theorem pick {os : List Origin} (known : pair.All os) (count : Nat) :
    Steady pair (Act.draw (LaneDuel.pick os count) : Act ρ _) pair.All :=
  draw fun _ o mem => known o (mem_of_mem_pick mem)

theorem redraw : Steady pair (Act.redraw b : Act ρ Unit) Any := by
  refine (player _).bind fun p known => branch (trace _) ?_
  refine (keep known.hand).bind fun miracles theirs => (keep known.hand).bind fun normals ours => ?_
  refine (setHand _ pair.all_nil).andThen fun _ => ?_
  refine get (fun r r' same => by simp only [same]) fun r within => ?_
  refine (shuffleInto within.deck ours).bind fun deck shuffled => ?_
  refine get (fun r r' same => by simp only [same]) fun r within => ?_
  refine (shuffleInto within.miracleDeck theirs).bind fun miracleDeck shuffled' => ?_
  refine (modifyTable fun t rest => ?_).andThen fun _ => (notice _ rfl).andThen fun _ => ?_
  · exact ⟨rest.player, shuffled, shuffled', rest.discardPile⟩
  refine (modifyTable fun t rest => ?_).andThen fun _ => (addToHand _ ?_).andThen fun _ =>
    notice _ rfl
  · exact ⟨rest.player, fun o mem => shuffled o (List.mem_of_mem_drop mem),
      fun o mem => shuffled' o (List.mem_of_mem_drop mem), rest.discardPile⟩
  · exact List.forall_mem_append.mpr ⟨fun o mem => shuffled o (List.mem_of_mem_take mem),
      fun o mem => shuffled' o (List.mem_of_mem_take mem)⟩

theorem swapHands (bound : pair.Binds b) (limit : Nat → Except Failure Nat) :
    Steady pair (Act.swapHands limit b : Act ρ Unit) Any := by
  refine (eligible bound).bind fun own known => (player _).bind fun others known' => ?_
  refine (ofExcept _).andThen fun _ => (pick known _).bind fun given gives => ?_
  refine (ofExcept _).andThen fun _ => (pick known'.hand _).bind fun taken takes => ?_
  refine branch (notice _ rfl) ?_
  refine (idSet gives).andThen fun _ => (idSet takes).andThen fun _ => ?_
  refine (player _).bind fun p held => (keep held.hand).bind fun _ left => ?_
  refine (setHand _ left).andThen fun _ => (keep known'.hand).bind fun _ left => ?_
  exact (setHand _ left).andThen fun _ => (addToHand _ takes).andThen fun _ =>
    (addToHand _ gives).andThen fun _ => notice _ rfl

/-! ## Atoms -/

theorem perform (bound : pair.Binds b) (a : Atom) :
    Steady pair (Act.perform b a : Act ρ Unit) Any := by
  cases a with
  | modifyAtk amount f c => exact modifyAtk bound f amount c
  | modifyHp amount f c => exact modifyHp bound f amount c
  | conditionalModifyAtk base bonus c f => exact conditionalModifyAtk bound f base bonus c
  | conditionalModifyHp base bonus c f => exact conditionalModifyHp bound f base bonus c
  | playerHeal amount f => exact heal amount f
  | playerDamage amount f => exact damage amount f
  | killCard f => exact kill bound f
  | clearField f => exact clearField f
  | freeze turns f => exact freeze bound f turns
  | removeDebuffs f => exact removeDebuffs bound f
  | gainCoins amount c => exact gainCoins amount c
  | conditionalKillPlayer c => exact execute c
  | cascadeDamage base => exact cascade (.nat base)
  | drawFromDiscard amount => exact drawDiscarded amount
  | discardAndRedraw => exact redraw
  | drawCards base bonus c => exact drawCards base bonus c
  | hellLordBonus => exact hellLord
  | swapBattlefields => exact swapBattlefields
  | freezeOnFirstAttack turns => exact firstAttack bound (.nat turns)
  | addImmunity f => exact addImmunity bound f
  | swapRandomHands amount => exact swapHands bound fun n => .ok (min amount n)
  | skipTurn => exact skipTurn
  | uiModeMessage message => exact notice (.uiMessage message) rfl

theorem performRaw (bound : pair.Binds b) (u : Raw) :
    Steady pair (Act.performRaw b u : Act ρ Unit) Any := by
  cases u with
  | plain a => exact perform bound a
  | broken => exact throw _
  | gainCoins amount condition =>
      refine get (fun r r' same => by simp only [same]) fun r _ => ?_
      exact branch (stop _ _) (pay amount)
  | cascadeDamage base => exact cascade base
  | drawFromDiscard amount =>
      refine get (fun r r' same => by simp only [same]) fun r _ => branch (notice _ rfl) ?_
      exact (ofExcept _).andThen fun _ => drawDiscarded _
  | drawCards base condition =>
      refine branch (stop _ _) ?_
      exact (ofExcept _).andThen fun _ => (ofExcept _).andThen fun _ => drawWanted _ 0
  | freezeOnFirstAttack turns => exact firstAttack bound turns
  | swapRandomHands amount => exact swapHands bound (Raw.limit ρ amount)
  | uiModeMessage message =>
      rw [Act.performRaw]
      split
      · exact notice (.uiMessage message.plain) rfl
      · exact throw _

theorem carryOut (bound : pair.Binds b) (x : Executor) :
    Steady pair (x.perform b : Act ρ Unit) Any := by
  cases x with
  | checked a => exact perform bound a
  | unchecked u => exact performRaw bound u

end Chance

end Loose.Act.Steady

end LaneDuel
