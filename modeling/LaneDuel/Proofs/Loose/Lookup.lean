/-
# LaneDuel.Proofs.Loose.Lookup -- looking a card up by its instance id

A state is searched for the first slot with an instance id (`State.locate_eq_some_iff_first`),
and what lies there is the card that is found, so nobody looks into a slot in vain.  Which slot
is the first depends on the order of the zones only while an instance id is used twice
(`State.locate_congr`).

A loose state is searched row by row, over values that may be no cards at all, and a look at
an item that is none fails.  Still what a search answers can be looked at
(`Loose.State.card_of_locate`).  Of a board the rows are lanes and hands, and the search is
that of tables (`locate_ofBoard`); so is every question about targets of a checked state
(`isValidLoosely_ofChecked`).
-/
import LaneDuel.Proofs.Engine.Reach
import LaneDuel.Proofs.Loose.Values
import LaneDuel.Proofs.Table.Search

namespace LaneDuel

set_option autoImplicit false

/-- A search for a card looks where the search for its place ends. -/
theorem State.findCard_eq (s : State) (id : String) (zones : List Zone) :
    s.findCard id zones = (s.locate id zones).bind s.cardAt := rfl

namespace Loose

/-! ## Rows -/

namespace Row

theorem findFrom_card (id : Json) (start : Nat) (c : Card) (xs : List Item) :
    findFrom id start (.card c :: xs)
      = if same c.instanceId id = true then .ok (some start) else findFrom id (start + 1) xs := rfl

/-- Blank places are passed over. -/
theorem findFrom_blank {v : Json} (blank : v.isNull = true) (id : Json) (start : Nat)
    (xs : List Item) : findFrom id start (.value v :: xs) = findFrom id (start + 1) xs := by
  rw [findFrom, Item.occupant?, if_pos blank]
  rfl

/-- What lies on a lane, as an item. -/
def laneItem (lane : Option Card) : Item := (lane.map Item.card).getD (.value .null)

theorem findFrom_lanes (id : Json) (lanes : List (Option Card)) (start : Nat) :
    findFrom id start (lanes.map laneItem)
      = .ok ((lanes.findIdx? (·.any fun c => same c.instanceId id)).map (start + ·)) := by
  induction lanes generalizing start with
  | nil => rfl
  | cons lane lanes ih =>
      have later : (start + ·) ∘ (· + 1) = (start + 1 + ·) := Table.comp_add_succ (·) start
      rw [List.map_cons, List.findIdx?_cons]
      cases lane with
      | none =>
          have blank : laneItem none = .value .null := rfl
          rw [blank, findFrom_blank rfl, ih, Option.any_none, if_neg Bool.false_ne_true,
            Option.map_map, later]
      | some c =>
          have card : laneItem (some c) = .card c := rfl
          rw [card, findFrom_card, Option.any_some]
          by_cases named : same c.instanceId id = true
          · rw [if_pos named, if_pos named]
            rfl
          · rw [if_neg named, if_neg named, ih, Option.map_map, later]

theorem find_ofLanes (id : Json) (lanes : List (Option Card)) :
    (ofLanes lanes).find id = .ok (lanes.findIdx? (·.any fun c => same c.instanceId id)) := by
  have found := findFrom_lanes id lanes 0
  simp only [Nat.zero_add, Option.map_id'] at found
  exact found

/-- Inside a list an index finds what lies there, outside it finds nothing. -/
theorem at?_items (xs : List Item) (index : Nat) :
    (items xs).at? (.nat index) = .ok xs[index]? := by
  have lower : atMost (.int 0) (.nat index) = .ok true := by
    rw [Json.nat, atMost_int, decide_eq_true (Int.natCast_nonneg index)]
  have upper : less (.nat index) (.nat xs.length) = .ok (decide (index < xs.length)) := by
    rw [Json.nat, Json.nat, less_int]
    simp only [Int.ofNat_lt]
  simp only [at?, lower, upper, Except.ok_bind]
  by_cases inside : index < xs.length
  · rw [decide_eq_true inside]
    rfl
  · rw [decide_eq_false inside, List.getElem?_eq_none (Nat.le_of_not_lt inside)]
    rfl

/-- What is found in a list is a card with the instance id. -/
theorem card_of_findFrom {id : Json} {xs : List Item} {start i : Nat}
    (found : findFrom id start xs = .ok (some i)) :
    ∃ k c, i = start + k ∧ xs[k]? = some (.card c) ∧ same c.instanceId id = true := by
  induction xs generalizing start with
  | nil => cases found
  | cons item xs ih =>
      have further : findFrom id (start + 1) xs = .ok (some i) →
          ∃ k c, i = start + k ∧ (item :: xs)[k]? = some (.card c) ∧
            same c.instanceId id = true := by
        intro found
        obtain ⟨k, c, rfl, there, named⟩ := ih found
        exact ⟨k + 1, c, by omega, there, named⟩
      cases item with
      | card c =>
          rw [findFrom_card] at found
          by_cases named : same c.instanceId id = true
          · rw [if_pos named] at found
            cases found
            exact ⟨0, c, rfl, rfl, named⟩
          · rw [if_neg named] at found
            exact further found
      | value v =>
          by_cases blank : v.isNull = true
          · rw [findFrom_blank blank] at found
            exact further found
          · -- a value that is no card ends the search
            rw [findFrom, Item.occupant?, if_neg blank] at found
            cases found

/-- What is found in a row is a card with the instance id, and it is there to look at. -/
theorem card_of_find {r : Row} {id : Json} {i : Nat} (found : r.find id = .ok (some i)) :
    ∃ c, r.at? (.nat i) = .ok (some (.card c)) ∧ same c.instanceId id = true := by
  cases r with
  | items xs =>
      obtain ⟨k, c, rfl, there, named⟩ := card_of_findFrom found
      rw [Nat.zero_add, at?_items, there]
      exact ⟨c, rfl, named⟩
  | value v =>
      -- what is no list may be gone through, but holds no cards
      rw [find, contents] at found
      cases elements : v.elements? with
      | none =>
          rw [elements] at found
          cases found
      | some vs =>
          rw [elements] at found
          obtain ⟨k, c, -, there, -⟩ := card_of_findFrom found
          rw [List.getElem?_map] at there
          obtain ⟨w, -, same⟩ := Option.map_eq_some_iff.mp there
          cases same

end Row

/-! ## Searching -/

theorem firstOf_ok {α β : Type} {search : α → Except Failure (Option β)} {found : α → Option β}
    (each : ∀ a, search a = .ok (found a)) (as : List α) :
    firstOf search as = .ok (as.findSome? found) := by
  induction as with
  | nil => rfl
  | cons a as ih =>
      rw [firstOf, each, Except.ok_bind, List.findSome?_cons]
      cases found a with
      | none => exact ih
      | some b => rfl

theorem exists_of_firstOf {α β : Type} {search : α → Except Failure (Option β)} {as : List α}
    {b : β} (found : firstOf search as = .ok (some b)) : ∃ a ∈ as, search a = .ok (some b) := by
  induction as with
  | nil => cases found
  | cons a as ih =>
      rw [firstOf] at found
      cases answer : search a with
      | error f =>
          rw [answer] at found
          cases found
      | ok b' =>
          rw [answer, Except.ok_bind] at found
          cases b' with
          | none =>
              obtain ⟨a', listed, later⟩ := ih found
              exact ⟨a', List.mem_cons_of_mem a listed, later⟩
          | some b' =>
              cases found
              exact ⟨a, List.mem_cons_self, answer⟩

namespace State

/-- Whatever lies about in a state, the slot that a search answers holds a card with the
instance id, and this card is the one found. -/
theorem card_of_locate {s : State} {id : Json} {zones : List Zone} {slot : Slot}
    (found : s.locate id zones = .ok (some slot)) :
    slot.zone ∈ zones ∧ ∃ c, s.itemAt slot.side slot.zone (.nat slot.index) = .ok (some (.card c)) ∧
      same c.instanceId id = true ∧ s.findCard id zones = .ok (some c) := by
  obtain ⟨zone, asked, inZone⟩ := exists_of_firstOf found
  obtain ⟨side, -, inRow⟩ := exists_of_firstOf inZone
  cases row : ((s.player side).zone zone).find id with
  | error f =>
      rw [row] at inRow
      cases inRow
  | ok index =>
      rw [row, Except.ok_bind] at inRow
      obtain ⟨i, rfl, rfl⟩ := Option.map_eq_some_iff.mp (Except.ok.inj inRow)
      obtain ⟨c, there, named⟩ := Row.card_of_find row
      have item : s.itemAt side zone (.nat i) = .ok (some (.card c)) := there
      refine ⟨asked, c, item, named, ?_⟩
      simp only [findCard, found, Except.ok_bind, item]
      rfl

/-! ## Boards -/

theorem zone_ofBoard (b : Board) (side : Side) (zone : Zone) :
    ((ofBoard b).player side).zone zone = .ofLanes ((b.player side).zone zone) := by
  have hand : ∀ cards : List Card, Row.ofCards cards = .ofLanes (cards.map some) := by
    intro cards
    rw [Row.ofCards, Row.ofLanes, List.map_map]
    rfl
  cases zone with
  | battlefield => cases side <;> rfl
  | buildings => cases side <;> rfl
  | hand => cases side <;> exact hand _

theorem locate_ofBoard (b : Board) (id : Json) (zones : List Zone) :
    (ofBoard b).locate id zones = .ok (Table.locate b (fun c => same c.instanceId id) zones) := by
  rw [locate, Table.locate_eq_loops]
  refine firstOf_ok (fun zone => firstOf_ok (fun side => ?_) Side.both) zones
  rw [zone_ofBoard, Row.find_ofLanes]
  rfl

theorem itemAt_ofBoard (b : Board) (slot : Slot) {c : Card} (there : b.cardAt slot = some c) :
    (ofBoard b).itemAt slot.side slot.zone (.nat slot.index) = .ok (some (.card c)) := by
  rw [Table.cardAt, Option.join_eq_some_iff] at there
  have item : Row.ofLanes ((b.player slot.side).zone slot.zone)
      = .items (((b.player slot.side).zone slot.zone).map Row.laneItem) := rfl
  rw [itemAt, zone_ofBoard, item, Row.at?_items, List.getElem?_map, there]
  rfl

/-! ## Checked states -/

theorem locate_ofChecked (s : LaneDuel.State) (id : String) (zones : List Zone) :
    (ofChecked s).locate (.str id) zones = .ok (LaneDuel.State.locate s id zones) := by
  simp only [ofChecked, locate_ofBoard, Board.ofChecked_eq, Table.locate_map, Board.locate_loosen,
    Card.ofChecked, same_str, LaneDuel.State.locate]

theorem itemAt_ofChecked (s : LaneDuel.State) {slot : Slot} {c : LaneDuel.Card}
    (there : s.cardAt slot = some c) :
    (ofChecked s).itemAt slot.side slot.zone (.nat slot.index)
      = .ok (some (.card (.ofChecked c))) := by
  refine itemAt_ofBoard (.ofChecked s) slot ?_
  rw [Board.ofChecked_eq, Table.cardAt_map, Board.cardAt_loosen, there, Option.map_some]

theorem findCard_ofChecked (s : LaneDuel.State) (id : String) (zones : List Zone) :
    (ofChecked s).findCard (.str id) zones
      = .ok ((LaneDuel.State.findCard s id zones).map .ofChecked) := by
  rw [findCard, locate_ofChecked, Except.ok_bind, LaneDuel.State.findCard_eq]
  cases found : LaneDuel.State.locate s id zones with
  | none => rfl
  | some slot =>
      obtain ⟨-, c, there, -⟩ := Table.locate_eq_some found
      simp only [Option.bind_some, there, itemAt_ofChecked s there, Except.ok_bind]
      rfl

end State

/-! ## Valid targets -/

namespace Engine

theorem outOfScope_ofChecked (acting : Option Side) (scope : Option Scope) (side : Side) :
    outOfScope (acting.map fun a => .str (Vocabulary.word a)) scope side
      = .ok (acting.any fun a => LaneDuel.Engine.outOfScope a scope side) := by
  have read : ∀ a : Side,
      (Vocabulary.ofJson "Side" (.str (Vocabulary.word a)) : Except Failure Side) = .ok a := by
    intro a
    simp only [Vocabulary.ofJson, Vocabulary.read?_word]
  cases acting with
  | none => rfl
  | some a =>
      cases scope with
      | none => rfl
      | some scope => cases scope <;> simp only [Option.map_some, outOfScope, read] <;> rfl

theorem validIn_ofChecked (f : TargetFilter) (id : String) (s : LaneDuel.State)
    (acting : Option Side) :
    validIn f (.str id) (.ofChecked s) (acting.map fun a => .str (Vocabulary.word a))
      = .ok (LaneDuel.Engine.validIn f id s acting) := by
  rw [validIn, State.locate_ofChecked, Except.ok_bind, LaneDuel.Engine.validIn]
  cases found : LaneDuel.State.locate s id [f.location.zone] with
  | none => rfl
  | some slot =>
      obtain ⟨-, c, there, -⟩ := Table.locate_eq_some found
      simp only [outOfScope_ofChecked, Except.ok_bind, there, Option.any_some,
        State.itemAt_ofChecked s there, LaneDuel.Engine.fits_eq_admits]
      cases acting.any fun a => LaneDuel.Engine.outOfScope a f.player slot.side with
      | true => rfl
      | false => exact meets_ofChecked c f.condition

/-- Asked step by step, whether a target is valid is answered without a failure. -/
theorem isValidLoosely_ofChecked (e : LaneDuel.Engine) (cardId : Int) (t : LaneDuel.Card)
    (s : LaneDuel.State) (acting : Option Side) :
    (ofChecked e).isValidLoosely (.int cardId) (some (.ofChecked t)) (.ofChecked s)
        (acting.map fun a => .str (Vocabulary.word a))
      = .ok (e.isValidTarget cardId t s acting) := by
  have found : (ofChecked e).catalog.find (.int cardId) = .ok (e.catalog.get? cardId) := rfl
  rw [isValidLoosely, found, Except.ok_bind, LaneDuel.Engine.isValidTarget,
    LaneDuel.Engine.consulted]
  cases (e.catalog.get? cardId).bind LaneDuel.Engine.consultedBy with
  | none => rfl
  | some f => exact validIn_ofChecked f t.instanceId s acting

end Engine

end Loose

/-! ## Instance ids -/

namespace State

/-- A slot of one of the zones in which a card with the instance id lies. -/
def Holds (s : State) (id : String) (zones : List Zone) (slot : Slot) : Prop :=
  slot.zone ∈ zones ∧ ∃ c, s.cardAt slot = some c ∧ c.instanceId = id

theorem holds_iff {s : State} {id : String} {zones : List Zone} {slot : Slot} :
    Table.Holds s (fun c => c.instanceId == id) zones slot ↔ s.Holds id zones slot := by
  simp only [Table.Holds, Holds, beq_iff_eq]

theorem holds_of_locate {s : State} {id : String} {zones : List Zone} {slot : Slot}
    (found : s.locate id zones = some slot) : s.Holds id zones slot :=
  holds_iff.mp (Table.locate_eq_some found)

theorem locate_eq_none_iff_absent {s : State} {id : String} {zones : List Zone} :
    s.locate id zones = none ↔
      ∀ zone ∈ zones, ∀ side c, some c ∈ (s.player side).zone zone → c.instanceId ≠ id := by
  rw [locate, Table.locate_eq_none_iff_each]
  simp only [Table.locate_zone_eq_none_iff, beq_eq_false_iff_ne]

theorem card_of_locate {s : State} {id : String} {zones : List Zone} {slot : Slot}
    (found : s.locate id zones = some slot) :
    ∃ c, s.cardAt slot = some c ∧ c.instanceId = id ∧ s.findCard id zones = some c := by
  obtain ⟨-, c, there, named⟩ := holds_of_locate found
  exact ⟨c, there, named, by rw [findCard_eq, found, Option.bind_some, there]⟩

theorem findCard_eq_none_iff {s : State} {id : String} {zones : List Zone} :
    s.findCard id zones = none ↔ s.locate id zones = none := by
  cases found : s.locate id zones with
  | none => simp only [findCard_eq, found, Option.bind_none]
  | some slot =>
      obtain ⟨c, -, -, answer⟩ := card_of_locate found
      simp only [answer, reduceCtorEq]

theorem locate_eq_some_iff_first {s : State} {id : String} {zones : List Zone} {slot : Slot} :
    s.locate id zones = some slot ↔
      s.Holds id zones slot ∧
        ∀ slot', s.Holds id zones slot' → slot.rank zones ≤ slot'.rank zones := by
  simp only [locate, Table.locate_eq_some_iff_first, holds_iff]

/-- Where no instance id is used twice, a search finds the slot that holds the card. -/
theorem locate_eq_some_iff_holds {s : State} (distinct : s.instanceIds.Nodup) {id : String}
    {zones : List Zone} {slot : Slot} :
    s.locate id zones = some slot ↔ s.Holds id zones slot := by
  refine ⟨holds_of_locate, ?_⟩
  rintro ⟨asked, c, there, named⟩
  cases found : s.locate id zones with
  | none =>
      have absent := Table.locate_eq_none_iff.mp found slot c asked there
      exact absurd named (beq_eq_false_iff_ne.mp absent)
  | some slot' =>
      obtain ⟨-, c', there', named'⟩ := holds_of_locate found
      rw [slot_eq_of_id distinct there' there (named'.trans named.symm)]

theorem locate_congr {s : State} (distinct : s.instanceIds.Nodup) (id : String)
    {zones zones' : List Zone} (same : ∀ zone, zone ∈ zones' ↔ zone ∈ zones) :
    s.locate id zones' = s.locate id zones := by
  refine Option.ext fun slot => ?_
  rw [locate_eq_some_iff_holds distinct, locate_eq_some_iff_holds distinct, Holds, Holds, same]

/-- **Looking a card up is sound and complete and finds the first.**  A search fails exactly
where no zone asked for holds the instance id on either side; else it answers the first slot
of all in the order of search, and the card there has the instance id and is the one found.
Where no instance id is used twice the order of the zones does not matter.  A loose state of
any kind answers slots with cards only, a checked state is searched loosely as it is, and
whoever asks whether a target is valid judges a card that is there. -/
theorem lookup_first_match (s : State) (id : String) (zones : List Zone) :
    (s.locate id zones = none ↔
        ∀ zone ∈ zones, ∀ side c, some c ∈ (s.player side).zone zone → c.instanceId ≠ id) ∧
      (s.findCard id zones = none ↔ s.locate id zones = none) ∧
      (∀ slot, s.locate id zones = some slot ↔
        s.Holds id zones slot ∧
          ∀ slot', s.Holds id zones slot' → slot.rank zones ≤ slot'.rank zones) ∧
      (∀ slot, s.locate id zones = some slot →
        ∃ c, s.cardAt slot = some c ∧ c.instanceId = id ∧ s.findCard id zones = some c) ∧
      (s.instanceIds.Nodup → ∀ zones', zones'.Perm zones →
        s.locate id zones' = s.locate id zones ∧ s.findCard id zones' = s.findCard id zones) ∧
      (∀ (l : Loose.State) (key : Json) (slot : Slot), l.locate key zones = .ok (some slot) →
        slot.zone ∈ zones ∧
          ∃ c, l.itemAt slot.side slot.zone (.nat slot.index) = .ok (some (.card c)) ∧
            Loose.same c.instanceId key = true ∧ l.findCard key zones = .ok (some c)) ∧
      Loose.State.locate (.ofChecked s) (.str id) zones = .ok (s.locate id zones) ∧
      Loose.State.findCard (.ofChecked s) (.str id) zones
        = .ok ((s.findCard id zones).map .ofChecked) ∧
      ∀ (e : Engine) (cardId : Int) (t : Card) (acting : Option Side),
        (∀ f slot, e.consulted cardId = some f →
          s.locate t.instanceId [f.location.zone] = some slot →
            ∃ c, s.cardAt slot = some c ∧ c.instanceId = t.instanceId ∧
              e.isValidTarget cardId t s acting
                = (!(acting.any fun a => Engine.outOfScope a f.player slot.side)
                  && Engine.fits f c)) ∧
        (Loose.Engine.ofChecked e).isValidLoosely (.int cardId) (some (.ofChecked t))
            (.ofChecked s) (acting.map fun a => .str (Vocabulary.word a))
          = .ok (e.isValidTarget cardId t s acting) := by
  refine ⟨locate_eq_none_iff_absent, findCard_eq_none_iff, fun slot => locate_eq_some_iff_first,
    fun slot => card_of_locate, fun distinct zones' order => ?_,
    fun l key slot => Loose.State.card_of_locate, Loose.State.locate_ofChecked s id zones,
    Loose.State.findCard_ofChecked s id zones,
    fun e cardId t acting => ⟨fun f slot asked found => ?_,
      Loose.Engine.isValidLoosely_ofChecked e cardId t s acting⟩⟩
  · have located := locate_congr distinct id fun zone => order.mem_iff
    exact ⟨located, by rw [findCard_eq, findCard_eq, located]⟩
  · obtain ⟨c, there, named, -⟩ := card_of_locate found
    refine ⟨c, there, named, ?_⟩
    simp only [Engine.isValidTarget, asked, Engine.validIn, found, there, Option.any_some]

end State

namespace Example

open Engine

theorem goblin_looked_up :
    let zones : List Zone := [.buildings, .hand, .battlefield]
    duel.instanceIds.Nodup ∧ zones.Perm actorZones ∧
      duel.locate "goblin" actorZones = some ⟨.blue, .hand, 0⟩ ∧
      (∃ c, duel.cardAt ⟨.blue, .hand, 0⟩ = some c ∧ c.instanceId = "goblin" ∧
        duel.findCard "goblin" zones = some c) ∧
      (∃ c, Loose.State.itemAt (.ofChecked duel) .blue .hand (.nat 0) = .ok (some (.card c)) ∧
        Loose.same c.instanceId (.str "goblin") = true) ∧
      (seeking (inHand .opponent)).consulted 1 = some (inHand .opponent) ∧
      duel.locate "goblin" [.hand] = some ⟨.blue, .hand, 0⟩ ∧
      ∃ c, duel.cardAt ⟨.blue, .hand, 0⟩ = some c ∧
        (seeking (inHand .opponent)).isValidTarget 1 (card "goblin" .battlefield) duel (some .red)
          = fits (inHand .opponent) c := by
  intro zones
  have distinct : duel.instanceIds.Nodup := by decide
  have order : zones.Perm actorZones := by decide
  have found : duel.locate "goblin" actorZones = some ⟨.blue, .hand, 0⟩ := by decide
  have inZone : duel.locate "goblin" [.hand] = some ⟨.blue, .hand, 0⟩ := by decide
  obtain ⟨-, -, -, first, reordered, loose, alike, -, target⟩ :=
    State.lookup_first_match duel "goblin" actorZones
  obtain ⟨c, there, named, answer⟩ := first _ found
  have same := (reordered distinct zones order).2.trans answer
  rw [found] at alike
  obtain ⟨-, l, item, key, -⟩ := loose _ _ _ alike
  have judged := (target (seeking (inHand .opponent)) 1 (card "goblin" .battlefield)
    (some .red)).1 (inHand .opponent) _ rfl inZone
  obtain ⟨d, there', -, verdict⟩ := judged
  exact ⟨distinct, order, found, ⟨c, there, named, same⟩, ⟨l, item, key⟩, rfl, inZone, d, there',
    verdict⟩

/-- A duel in which red's squire has the instance id of the ogre. -/
def twins : State :=
  { duel with red := { duel.red with hand := [card "ogre" .support] } }

-- with an instance id used twice, the zone asked for first decides
example : twins.locate "ogre" [.battlefield, .hand] = some ⟨.blue, .battlefield, 1⟩ ∧
    twins.locate "ogre" [.hand, .battlefield] = some ⟨.red, .hand, 0⟩ := by decide

end Example

end LaneDuel
