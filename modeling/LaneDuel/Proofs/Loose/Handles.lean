/-
# LaneDuel.Proofs.Loose.Handles -- cards that only name cards

The acting card and the target are given as cards, but a play reads their instance ids only:
where the acting card lies in a zone, both are bound to places of the board, and whatever is
told or changed is the card that lies there.  Copies from earlier states will therefore do
(`Engine.resolve_of_handles`).

The runs of two such plays differ in the cards that came from outside.  No name on the board
means them, so the runs go side by side (`Pairing.onBoard`) and come to the same.
-/
import LaneDuel.Proofs.Loose.Course
import LaneDuel.Proofs.Loose.Parallel.Moves
import LaneDuel.Proofs.Table.Origins

namespace LaneDuel.Loose

set_option autoImplicit false

variable {ρ : Type}

/-! ## Cards in zones -/

/-- A card with an instance id lies in a zone of the state. -/
def State.Holds (s : State) (id : Json) : Prop :=
  ∃ side zone items, (s.player side).zone zone = .items items ∧
    ∃ c, Item.card c ∈ items ∧ same c.instanceId id

theorem exists_of_mapM_eq_ok {ε α β : Type} {f : α → Except ε β} {as : List α} {bs : List β}
    (h : as.mapM f = .ok bs) {a : α} (mem : a ∈ as) : ∃ b ∈ bs, f a = .ok b := by
  have read := forall₂_of_mapM_eq_ok h
  clear h
  induction read with
  | nil => cases mem
  | cons first _ ih =>
      obtain rfl | mem := List.mem_cons.mp mem
      · exact ⟨_, List.mem_cons_self, first⟩
      · obtain ⟨b, there, reads⟩ := ih mem
        exact ⟨b, List.mem_cons_of_mem _ there, reads⟩

theorem Card.copy_instanceId {c d : Card} (copied : c.copy = .ok d) :
    d.instanceId = c.instanceId := by
  unfold copy at copied
  cases settled : c.kind.settle with
  | error f =>
      rw [settled] at copied
      cases copied
  | ok k =>
      rw [settled] at copied
      cases copied
      rfl

/-- A copy of a player has the cards of every zone, under their instance ids. -/
theorem Player.board_zone {p : Player} {q : LaneDuel.Player Json Card} (copied : p.board = .ok q)
    {zone : Zone} {items : List Item} (there : p.zone zone = .items items) {c : Card}
    (mem : Item.card c ∈ items) : ∃ d, some d ∈ q.zone zone ∧ d.instanceId = c.instanceId := by
  obtain ⟨lanes, isLanes, copied⟩ := Except.bind_eq_ok copied
  obtain ⟨battlefield, first, copied⟩ := Except.bind_eq_ok copied
  obtain ⟨places, isPlaces, copied⟩ := Except.bind_eq_ok copied
  obtain ⟨buildings, second, copied⟩ := Except.bind_eq_ok copied
  obtain ⟨held, isHeld, copied⟩ := Except.bind_eq_ok copied
  obtain ⟨hand, third, copied⟩ := Except.bind_eq_ok copied
  cases copied
  have found : ∀ {row : Row} {xs : List Item}, row = .items items → row.contents = .ok xs →
      Item.card c ∈ xs := by
    rintro row xs rfl isRow
    cases isRow
    exact mem
  have lane : ∀ {l : Option Card}, (c.copy >>= fun d => Except.ok (some d)) = .ok l →
      ∃ d, l = some d ∧ d.instanceId = c.instanceId := by
    intro l laid
    obtain ⟨d, taken, whole⟩ := Except.bind_eq_ok laid
    cases whole
    exact ⟨d, rfl, Card.copy_instanceId taken⟩
  cases zone with
  | battlefield =>
      obtain ⟨l, laid, copied⟩ := exists_of_mapM_eq_ok first (found there isLanes)
      obtain ⟨d, rfl, same⟩ := lane copied
      exact ⟨d, laid, same⟩
  | buildings =>
      obtain ⟨l, laid, copied⟩ := exists_of_mapM_eq_ok second (found there isPlaces)
      obtain ⟨d, rfl, same⟩ := lane copied
      exact ⟨d, laid, same⟩
  | hand =>
      obtain ⟨d, laid, copied⟩ := exists_of_mapM_eq_ok third (found there isHeld)
      exact ⟨d, List.mem_map_of_mem laid, Card.copy_instanceId copied⟩

namespace Engine

/-- Where the acting card lies in a zone, it is found on the copied board. -/
theorem locateIn_isSome {s : State} {id : Json} (held : s.Holds id) {b : Board}
    (copied : s.board = .ok b) : (locateIn b id LaneDuel.Engine.actorZones).isSome := by
  obtain ⟨side, zone, items, there, c, mem, sameId⟩ := held
  have player : (s.player side).board = .ok (b.player side) := by
    obtain ⟨red, isRed, copied⟩ := Except.bind_eq_ok copied
    obtain ⟨blue, isBlue, copied⟩ := Except.bind_eq_ok copied
    obtain ⟨deck, -, copied⟩ := Except.bind_eq_ok copied
    obtain ⟨miracleDeck, -, copied⟩ := Except.bind_eq_ok copied
    obtain ⟨discardPile, -, copied⟩ := Except.bind_eq_ok copied
    obtain ⟨selected, -, copied⟩ := Except.bind_eq_ok copied
    cases copied
    cases side
    · exact isRed
    · exact isBlue
  obtain ⟨d, laid, sameD⟩ := Player.board_zone player there mem
  obtain ⟨i, isThere⟩ := List.mem_iff_getElem?.mp laid
  have lies : b.cardAt ⟨side, zone, i⟩ = some d := by rw [Table.cardAt, isThere, Option.join_some]
  have searched : zone ∈ LaneDuel.Engine.actorZones := by cases zone <;> decide
  rw [locateIn, Option.isSome_map, Option.isSome_iff_ne_none]
  intro lost
  have missed := Table.locate_eq_none_iff.mp lost ⟨side, zone, i⟩ d searched lies
  rw [sameD, sameId] at missed
  cases missed

/-! ## Runs that begin on one board -/

/-- Both runs know the names that lie on a board, and have told the same. -/
def onBoard (b : Board) : Pairing where
  known o := o ∈ (Table.origins b).cards
  alike := Eq
  tell _ _ same := by rw [same]

section Bound

variable {b : Board}

/-- Cards from outside are met by no name on the board. -/
theorem enter_beside (actor target actor' target' : Card) (source : ρ) :
    (Run.enter b actor target source).Beside (onBoard b) (Run.enter b actor' target' source) where
  table := rfl
  within := .of_cards fun _ lies => lies
  cards := by
    have read : ∀ a t, (Table.origins b).cards.map (b.cardOf a t) = b.cards := fun a t => by
      rw [← Table.cards_map, Table.origins_map_cardOf]
    exact List.map_inj_left.mp ((read actor target).trans (read actor' target').symm)
  source := rfl
  log := rfl

theorem known_of_locateIn {id : Json} {zones : List Zone} {o : Origin}
    (found : locateIn b id zones = some o) : (onBoard b).known o := by
  obtain ⟨slot, located, rfl⟩ := Option.map_eq_some_iff.mp found
  obtain ⟨-, c, there, -⟩ := Table.locate_eq_some located
  have named : (Table.origins b).cardAt slot = some (.slot slot) := by
    rw [Table.cardAt_origins, there, Option.map_some]
  exact Table.mem_cards_of_cardAt named

theorem binds_of_locateIn {id : Json} {zones : List Zone} {o : Origin} {side : Side}
    {tracing : Bool} (found : locateIn b id zones = some o) (target : Option Json) :
    (onBoard b).Binds ⟨side, some o, target.bind fun id => locateIn b id [.battlefield], tracing⟩ where
  actor x acting := by
    cases acting
    exact known_of_locateIn found
  target x aimed := by
    obtain ⟨id, -, located⟩ := Option.bind_eq_some_iff.mp aimed
    exact known_of_locateIn located

/-- A play whose acting card lies in a zone: the cards that were given are in the run only. -/
theorem prepare_of_found {inv : Invocation} {c : Card} {o : Origin} (acting : inv.card = some c)
    (found : locateIn b c.instanceId LaneDuel.Engine.actorZones = some o) (tracing : Bool)
    (source : ρ) :
    prepare tracing inv b source = (do
      let side ← Vocabulary.ofJson "Side" inv.player
      let target := (inv.target.map (·.instanceId)).bind fun id => locateIn b id [.battlefield]
      return ⟨⟨side, some o, target, tracing⟩, .enter b c (inv.target.getD c) source,
        (inv.target.map (·.instanceId)).isSome⟩) := by
  rw [prepare_of_card acting]
  simp only [found]
  cases inv.target <;> rfl

end Bound

/-! ## Chains -/

section Chains

variable [RandomSource ρ] {b : Board}

theorem runCalls_steady {s : Scene} (bound : (onBoard b).Binds s) (library : Library)
    (cardId : Json) (index : Nat) (calls : List Call) :
    Act.Steady (onBoard b) (runCalls library cardId s index calls : Act ρ Unit) Act.Any := by
  induction calls generalizing index with
  | nil => exact .pure trivial
  | cons call calls ih =>
      rw [runCalls]
      cases library.build call with
      | error fault =>
          refine .andThen (.tellWith fun log log' same => ?_) fun _ => ih _
          rw [show log = log' from same]
          exact rfl
      | ok x => exact (Act.Steady.trace _).andThen fun _ =>
          (Act.Steady.carryOut bound x).andThen fun _ => ih _

theorem chain_steady {s : Scene} (bound : (onBoard b).Binds s) (library : Library) (cardId : Json)
    (calls : List Call) :
    Act.Steady (onBoard b) (chain library cardId s calls : Act ρ Unit) Act.Any :=
  (runCalls_steady bound library cardId 0 calls).andThen fun _ => .settle

theorem play_congr {s : Scene} (bound : (onBoard b).Binds s) (e : Engine) (cardId : Json)
    (calls : List Call) {r r' : Run ρ} (beside : r.Beside (onBoard b) r') (aimed : Bool) :
    e.play cardId calls ⟨s, r, aimed⟩ = e.play cardId calls ⟨s, r', aimed⟩ := by
  obtain ⟨same, left, -⟩ := chain_steady bound e.library cardId calls r r' beside
  have log : _ = _ := left.log
  simp only [play_eq, ← same, ← left.snapshot, ← left.source, ← log]

theorem resolveEntry_congr {s : Scene} (bound : (onBoard b).Binds s) (e : Engine) (cardId : Json)
    (entry : CardEffect) (given : State) {r r' : Run ρ} (beside : r.Beside (onBoard b) r')
    (aimed : Bool) :
    e.resolveEntry cardId entry given ⟨s, r, aimed⟩
      = e.resolveEntry cardId entry given ⟨s, r', aimed⟩ := by
  rw [resolveEntry, resolveEntry, ← beside.source, play_congr bound e cardId _ beside aimed]

end Chains

/-! ## Handles -/

variable [RandomSource ρ]

/-- On a board where the acting card is found. -/
theorem resolveLoose_congr {b : Board} {inv inv' : Invocation} {c c' : Card}
    (acting : inv.card = some c) (acting' : inv'.card = some c')
    (card : c.instanceId = c'.instanceId) (player : inv.player = inv'.player)
    (target : inv.target.map (·.instanceId) = inv'.target.map (·.instanceId))
    (found : (locateIn b c.instanceId LaneDuel.Engine.actorZones).isSome) (e : Engine)
    (tracing : Bool) (cardId : Json) (entry : CardEffect) (s : State) (source : ρ) :
    e.resolveLoose tracing cardId entry inv s b source
      = e.resolveLoose tracing cardId entry inv' s b source := by
  obtain ⟨o, found⟩ := Option.isSome_iff_exists.mp found
  have found' : locateIn b c'.instanceId LaneDuel.Engine.actorZones = some o := card ▸ found
  rw [resolveLoose, resolveLoose, prepare_of_found acting found,
    prepare_of_found acting' found', ← player, ← target]
  cases (Vocabulary.ofJson "Side" inv.player : Except Failure Side) with
  | error f => rfl
  | ok side =>
      exact resolveEntry_congr (binds_of_locateIn found _) e cardId entry s
        (enter_beside c _ c' _ source) _

/-- **Handles.**  Two cards with one instance id are the same acting card, if it lies in a
zone, and the same target: state, status, events and source come out alike, and so does the
failure of a play that fails. -/
theorem resolve_of_handles {e : Engine} {cardId : Json}
    (apart : ∀ entry, e.catalog.find cardId = .ok (some entry) → ∀ call ∈ entry.effects, call.Apart)
    {inv inv' : Invocation} (player : inv.player = inv'.player)
    (card : inv.card.map (·.instanceId) = inv'.card.map (·.instanceId))
    (target : inv.target.map (·.instanceId) = inv'.target.map (·.instanceId)) {s : State}
    (held : ∀ c, inv.card = some c → s.Holds c.instanceId) (tracing : Bool) (source : ρ) :
    e.resolve tracing cardId inv s source = e.resolve tracing cardId inv' s source := by
  rw [resolve_eq_course apart, resolve_eq_course apart, course, course]
  cases e.catalog.find cardId with
  | error f => rfl
  | ok found =>
    cases found with
    | none => rfl
    | some entry =>
      cases copied : s.board with
      | error f => rfl
      | ok b =>
        cases acting : inv.card with
        | none =>
            have acting' : inv'.card = none := by simpa [acting] using card.symm
            simp only [resolveLoose, prepare, acting, acting']
        | some c =>
            rw [acting] at card
            obtain ⟨c', acting', sameId⟩ := Option.map_eq_some_iff.mp card.symm
            exact resolveLoose_congr acting acting' sameId.symm player target
              (locateIn_isSome (held c acting) copied) e tracing cardId entry s source

end Engine

end LaneDuel.Loose

namespace LaneDuel.Example

open Loose (Item)

/-- The knight attacks the ogre for the first time.  One copy of the knight says that it has
attacked before and has a text for its attack, and one copy of the ogre has another name. -/
theorem knight_of_handles :
    let calls := [.known (.freezeOnFirstAttack 2), .unknown "conjure" [], .known (.killCard selected)]
    let e : Loose.Engine := .ofChecked (engine calls)
    let knight := Loose.Card.ofChecked (card "knight" .battlefield)
    let ogre := Loose.Card.ofChecked (card "ogre" .battlefield)
    let stale := { knight with atk := .str "much", firstActionUsed := .bool true }
    let inv : Loose.Invocation := ⟨.str "red", some knight, some ogre⟩
    let inv' : Loose.Invocation := ⟨.str "red", some stale, some { ogre with name := .str "troll" }⟩
    let s : Loose.State := .ofChecked duel
    (∀ entry, e.catalog.find (.int 1) = .ok (some entry) → ∀ call ∈ entry.effects, call.Apart) ∧
      inv.player = inv'.player ∧ inv.card.map (·.instanceId) = inv'.card.map (·.instanceId) ∧
      inv.target.map (·.instanceId) = inv'.target.map (·.instanceId) ∧
      (∀ c, inv.card = some c → s.Holds c.instanceId) ∧
      e.resolve true (.int 1) inv s (Lcg.ofSeed 7) = e.resolve true (.int 1) inv' s (Lcg.ofSeed 7) := by
  intro calls e knight ogre stale inv inv' s
  have apart : ∀ entry, e.catalog.find (.int 1) = .ok (some entry) →
      ∀ call ∈ entry.effects, call.Apart := by
    intro entry found
    have found : e.catalog.get? 1 = some entry := Except.ok.inj found
    cases found
    simp only [Example.entry, calls, List.forall_mem_cons, Call.Apart, true_and]
    refine ⟨fun k => ?_, fun _ mem => absurd mem List.not_mem_nil⟩
    cases k <;> decide
  have held : ∀ c, inv.card = some c → s.Holds c.instanceId := by
    intro c given
    cases given
    refine ⟨.red, .battlefield, _, rfl, knight, List.mem_cons_self, ?_⟩
    exact (Loose.same_str _ _).trans (beq_self_eq_true _)
  have player : inv.player = inv'.player := rfl
  have acting : inv.card.map (·.instanceId) = inv'.card.map (·.instanceId) := rfl
  have target : inv.target.map (·.instanceId) = inv'.target.map (·.instanceId) := rfl
  exact ⟨apart, player, acting, target, held,
    Loose.Engine.resolve_of_handles apart player acting target held true (Lcg.ofSeed 7)⟩

end LaneDuel.Example
