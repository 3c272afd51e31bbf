/-
# LaneDuel.Proofs.Effect.Correspondence -- two runs in step

A run may be followed by another one that has other names for the same cards, or
the colours exchanged, or both.  A `Correspondence` says how: which names stand
for which, whether the sides are crossed, and which events are compared.
`Matches l r` says that the run `r` corresponds to `l`: its table is the renamed
one, a live name stands for the same card, and the sources agree.

Names are never looked into by an effect, so a corresponding run stays in step:

* what a run reads off its table is the renamed reading (`player_table`,
  `locate_table`, `Matches.findById`);
* telling, changing a card and moving cards keep runs in step (`Matches.tell`,
  `Matches.edit`, `Matches.visit`, `Matches.modifyPlayer`, `Matches.piles`).

With crossed sides a search meets its cards in another order.  This is where
distinct ids are needed, and why events are not compared there.
-/
import Mathlib.Data.List.Find
import LaneDuel.Proofs.Effect.Conservation
import LaneDuel.Proofs.Table.Mirror

namespace LaneDuel

set_option autoImplicit false

/-- How a second run stands to a first one. -/
structure Correspondence where
  /-- The second run has the colours exchanged. -/
  crossed : Bool
  /-- The name in the second run for a name in the first. -/
  name : Origin → Origin
  /-- The names that stand for cards of the game. -/
  live : Origin → Prop
  /-- The events that are compared. -/
  heard : Event → Bool
  /-- What the second run was heard to tell before the first began. -/
  before : List Event
  name_inj : ∀ o o', live o → live o' → name o = name o' → o = o'
  quiet : crossed = true → ∀ e, heard e = false

namespace Correspondence

variable (φ : Correspondence)

def side (s : Side) : Side := if φ.crossed then s.opponent else s

def slot (place : Slot) : Slot := if φ.crossed then place.mirror else place

def signals (g : Signals) : Signals := if φ.crossed then g.mirror else g

/-- The table that the second run has for a table of the first. -/
def table (t : Table Int Signals Origin) : Table Int Signals Origin :=
  (if φ.crossed then t.mirror else t).map φ.name

def binding (b : Binding) : Binding := ⟨φ.side b.player, φ.name b.actor, b.target.map φ.name⟩

@[simp] theorem binding_player (b : Binding) : (φ.binding b).player = φ.side b.player := rfl

@[simp] theorem binding_actor (b : Binding) : (φ.binding b).actor = φ.name b.actor := rfl

/-- The binding names live cards. -/
def Binds (b : Binding) : Prop := φ.live b.actor ∧ ∀ o ∈ b.target, φ.live o

theorem filter_heard {φ : Correspondence} (crossed : φ.crossed = true) (es : List Event) :
    es.filter φ.heard = [] := by
  rw [List.filter_eq_nil_iff]
  intro e _
  rw [φ.quiet crossed e]
  exact Bool.false_ne_true

/-! ## Sides -/

@[simp] theorem side_opponent (s : Side) : φ.side s.opponent = (φ.side s).opponent := by
  unfold side
  split <;> rfl

theorem side_of_uncrossed {φ : Correspondence} (h : φ.crossed = false) (s : Side) :
    φ.side s = s := by
  simp [side, h]

@[simp] theorem slot_slot (place : Slot) : φ.slot (φ.slot place) = place := by
  cases h : φ.crossed <;> simp [slot, h]

@[simp] theorem slot_zone (place : Slot) : (φ.slot place).zone = place.zone := by
  cases h : φ.crossed <;> simp [slot, h, Slot.mirror]

@[simp] theorem slot_side (place : Slot) : (φ.slot place).side = φ.side place.side := by
  cases h : φ.crossed <;> simp [slot, side, h, Slot.mirror]

@[simp] theorem slot_index (place : Slot) : (φ.slot place).index = place.index := by
  cases h : φ.crossed <;> simp [slot, h, Slot.mirror]

@[simp] theorem binding_opponent (b : Binding) :
    (φ.binding b).opponent = φ.side b.player.opponent := by
  rw [Binding.opponent_eq, binding_player, side_opponent]

/-! ## Reading the second table -/

@[simp] theorem player_table (t : Table Int Signals Origin) (s : Side) :
    (φ.table t).player (φ.side s) = (t.player s).map φ.name := by
  cases h : φ.crossed <;> simp [table, side, h]

@[simp] theorem deck_table (t : Table Int Signals Origin) :
    (φ.table t).deck = t.deck.map φ.name := by
  cases h : φ.crossed <;> simp [table, h, Table.map, Table.mirror]

@[simp] theorem miracleDeck_table (t : Table Int Signals Origin) :
    (φ.table t).miracleDeck = t.miracleDeck.map φ.name := by
  cases h : φ.crossed <;> simp [table, h, Table.map, Table.mirror]

@[simp] theorem discardPile_table (t : Table Int Signals Origin) :
    (φ.table t).discardPile = t.discardPile.map φ.name := by
  cases h : φ.crossed <;> simp [table, h, Table.map, Table.mirror]

@[simp] theorem signals_table (t : Table Int Signals Origin) :
    (φ.table t).signals = φ.signals t.signals := by
  cases h : φ.crossed <;> simp [table, signals, h, Table.map, Table.mirror]

@[simp] theorem cardAt_table (t : Table Int Signals Origin) (place : Slot) :
    (φ.table t).cardAt (φ.slot place) = (t.cardAt place).map φ.name := by
  cases h : φ.crossed <;> simp [table, slot, h]

/-- Two tables of the second run are equal when they agree on the sides of the first. -/
theorem ext_table {t t' : Table Int Signals Origin} (s : Side)
    (own : t'.player (φ.side s) = (t.player s).map φ.name)
    (other : t'.player (φ.side s).opponent = (t.player s.opponent).map φ.name)
    (deck : t'.deck = t.deck.map φ.name) (miracleDeck : t'.miracleDeck = t.miracleDeck.map φ.name)
    (discardPile : t'.discardPile = t.discardPile.map φ.name)
    (signals : t'.signals = φ.signals t.signals) : t' = φ.table t := by
  apply Table.ext_players
  · rw [Side.forall_iff (φ.side s), player_table, ← side_opponent, player_table, side_opponent]
    exact ⟨own, other⟩
  · rw [deck, deck_table]
  · rw [miracleDeck, miracleDeck_table]
  · rw [discardPile, discardPile_table]
  · rw [signals, signals_table]

/-! ## Searching the second table -/

/-- A search in the second table ends at the corresponding slot.  Where the sides are
crossed this needs that one card at most is searched for. -/
theorem locate_table (t : Table Int Signals Origin) (hit hit' : Origin → Bool)
    (same : ∀ o ∈ t.cards, hit' (φ.name o) = hit o)
    (unique : φ.crossed = true →
      t.cards.Nodup ∧ ∀ a ∈ t.cards, ∀ b ∈ t.cards, hit a → hit b → a = b)
    (zones : List Zone) :
    (φ.table t).locate hit' zones = (t.locate hit zones).map φ.slot := by
  cases crossed : φ.crossed with
  | false =>
      have slots : φ.slot = id := by
        funext place
        simp [slot, crossed]
      have plain : φ.table t = t.map φ.name := by
        simp [table, crossed]
      rw [plain, Table.locate_map, slots, Option.map_id_apply, Table.locate, Table.locate]
      congr 1
      apply List.find?_congr
      rintro ⟨place, o⟩ member
      exact same o (Table.mem_cards_of_cardAt (Table.mem_occupied.mp member).2)
  | true =>
      obtain ⟨distinct, one⟩ := unique crossed
      -- what the second table holds, seen from the first
      have back : ∀ place o', (φ.table t).cardAt place = some o' →
          ∃ o, t.cardAt (φ.slot place) = some o ∧ φ.name o = o' := by
        intro place o' there
        rw [← φ.slot_slot place, cardAt_table] at there
        exact Option.map_eq_some_iff.mp there
      cases found : t.locate hit zones with
      | none =>
          rw [Option.map_none, Table.locate_eq_none_iff]
          intro place o' asked there
          obtain ⟨o, here, rfl⟩ := back place o' there
          rw [same o (Table.mem_cards_of_cardAt here)]
          exact Table.locate_eq_none_iff.mp found (φ.slot place) o (by simpa using asked) here
      | some place =>
          obtain ⟨asked, o, here, passes⟩ := Table.locate_eq_some found
          have onTable := Table.mem_cards_of_cardAt here
          cases found' : (φ.table t).locate hit' zones with
          | none =>
              have fails := Table.locate_eq_none_iff.mp found' (φ.slot place) (φ.name o)
                (by simpa using asked) (by rw [cardAt_table, here, Option.map_some])
              rw [same o onTable, passes] at fails
              cases fails
          | some place' =>
              obtain ⟨-, o', there, passes'⟩ := Table.locate_eq_some found'
              obtain ⟨o₂, here₂, rfl⟩ := back place' o' there
              have onTable₂ := Table.mem_cards_of_cardAt here₂
              rw [same o₂ onTable₂] at passes'
              have eq : o₂ = o := one o₂ onTable₂ o onTable passes' passes
              subst eq
              have places : φ.slot place' = place := Table.cardAt_inj distinct here₂ here
              rw [Option.map_some, ← places, slot_slot]

/-! ## Runs in step -/

/-- The second run is in step with the first. -/
structure Matches {ρ : Type} (l r : Run ρ) : Prop where
  table : r.table = φ.table l.table
  live : ∀ o ∈ l.table.cards, φ.live o
  cards : ∀ o, φ.live o → r.cards (φ.name o) = l.cards o
  source : r.source = l.source
  log : r.log.filter φ.heard = φ.before ++ l.log.filter φ.heard

namespace Matches

variable {φ : Correspondence} {ρ : Type} {l r : Run ρ}

/-- Cards of the first run have the same values in the second. -/
theorem cards_eq (h : φ.Matches l r) {o : Origin} (onTable : o ∈ l.table.cards) :
    r.cards (φ.name o) = l.cards o :=
  h.cards o (h.live o onTable)

theorem player (h : φ.Matches l r) (s : Side) :
    r.table.player (φ.side s) = (l.table.player s).map φ.name := by
  rw [h.table, player_table]

theorem field (h : φ.Matches l r) (s : Side) :
    r.field (φ.side s) = (l.field s).map φ.name := by
  rw [Run.field, Run.player_eq, h.player, Player.fieldCards_map, Run.field, Run.player_eq]

theorem hand (h : φ.Matches l r) (s : Side) :
    (r.table.player (φ.side s)).hand = (l.table.player s).hand.map φ.name := by
  rw [h.player, Player.map]

theorem live_of_player (h : φ.Matches l r) {s : Side} {o : Origin}
    (held : o ∈ (l.table.player s).cards) : φ.live o :=
  h.live o (Table.mem_cards_of_player held)

theorem live_of_field (h : φ.Matches l r) {s : Side} {o : Origin} (held : o ∈ l.field s) :
    φ.live o :=
  h.live_of_player (List.mem_append_left _ (List.mem_append_left _ held))

theorem live_of_hand (h : φ.Matches l r) {s : Side} {o : Origin}
    (held : o ∈ (l.table.player s).hand) : φ.live o :=
  h.live_of_player (List.mem_append_right _ held)

/-- Keeping the cards that pass a test of their values. -/
theorem filter (h : φ.Matches l r) (keep : Card → Bool) {os : List Origin}
    (alive : ∀ o ∈ os, φ.live o) :
    (os.map φ.name).filter (fun o => keep (r.cards o))
      = (os.filter fun o => keep (l.cards o)).map φ.name := by
  rw [List.filter_map]
  congr 1
  apply List.filter_congr
  intro o member
  rw [Function.comp_apply, h.cards o (alive o member)]

/-- Reading the values of some cards. -/
theorem values (h : φ.Matches l r) {os : List Origin} (alive : ∀ o ∈ os, φ.live o) :
    (os.map φ.name).map r.cards = os.map l.cards := by
  rw [List.map_map]
  exact List.map_congr_left fun o member => h.cards o (alive o member)

theorem findById (h : φ.Matches l r) (distinct : φ.crossed = true → l.Distinct) (id : String)
    (zones : List Zone) : r.findById id zones = (l.findById id zones).map φ.name := by
  have located := φ.locate_table l.table (fun o => (l.cards o).instanceId == id)
    (fun o => (r.cards o).instanceId == id)
    (fun o onTable => by rw [h.cards_eq onTable])
    (fun crossed => ⟨(distinct crossed).nodup, (distinct crossed).unique id⟩) zones
  rw [Run.findById, Run.findById, Table.findCard, Table.findCard, h.table, located]
  cases l.table.locate (fun o => (l.cards o).instanceId == id) zones with
  | none => rfl
  | some place => exact φ.cardAt_table l.table place

/-- Runs in step have reached the same state, up to the exchange of colours. -/
theorem snapshot (h : φ.Matches l r) :
    r.snapshot = if φ.crossed then l.snapshot.mirror else l.snapshot := by
  have same : ∀ o ∈ l.table.cards, (r.cards ∘ φ.name) o = l.cards o := fun o onTable =>
    h.cards_eq onTable
  rw [Run.snapshot, Run.snapshot, h.table, Correspondence.table, Table.map_map]
  cases φ.crossed with
  | false =>
      simp only [Bool.false_eq_true, if_false]
      exact Table.map_congr same
  | true =>
      simp only [if_true, Table.mirror_map]
      exact Table.map_congr fun o onTable => same o (Table.mem_cards_mirror.mp onTable)

/-! ## Staying in step -/

/-- Telling differently is fine when the same events are heard. -/
theorem tell_heard (h : φ.Matches l r) {es es' : List Event}
    (same : es'.filter φ.heard = es.filter φ.heard) : φ.Matches (l.tell es) (r.tell es') := by
  refine { h with log := ?_ }
  rw [Run.tell_log, Run.tell_log, List.filter_append, List.filter_append, h.log, same,
    List.append_assoc]

theorem tell (h : φ.Matches l r) {es es' : List Event} (same : φ.crossed = false → es' = es) :
    φ.Matches (l.tell es) (r.tell es') := by
  apply h.tell_heard
  cases crossed : φ.crossed with
  | false => rw [same crossed]
  | true => rw [filter_heard crossed, filter_heard crossed]

theorem withSource (h : φ.Matches l r) (source : ρ) :
    φ.Matches { l with source } { r with source } :=
  { h with source := rfl }

theorem edit (h : φ.Matches l r) (change : Card → Card × List Event) {o : Origin}
    (alive : φ.live o) : φ.Matches (l.edit change o) (r.edit change (φ.name o)) := by
  refine { h with cards := ?_, log := ?_ }
  · intro x alive'
    rw [Run.edit_cards, Run.edit_cards, h.cards o alive, h.cards x alive']
    by_cases same : x = o
    · rw [if_pos same, if_pos (congrArg φ.name same)]
    · have other : φ.name x ≠ φ.name o := fun eq => same (φ.name_inj x o alive' alive eq)
      rw [if_neg same, if_neg other]
  · rw [Run.edit_log, Run.edit_log, List.filter_append, List.filter_append, h.log,
      h.cards o alive, List.append_assoc]

theorem visit_map (h : φ.Matches l r) (change : Card → Card × List Event) {os : List Origin}
    (alive : ∀ o ∈ os, φ.live o) :
    φ.Matches (l.visit os change) (r.visit (os.map φ.name) change) := by
  induction os generalizing l r with
  | nil => exact h
  | cons o os ih =>
      have first := h.edit change (alive o List.mem_cons_self)
      exact ih first fun x member => alive x (List.mem_cons_of_mem o member)

/-- Runs whose events are not compared stay in step when only the order of events differs. -/
theorem of_crossed (h : φ.Matches l r) (crossed : φ.crossed = true) {r' : Run ρ}
    (table : r'.table = r.table) (cards : r'.cards = r.cards) (source : r'.source = r.source) :
    φ.Matches l r' where
  table := table.trans h.table
  live := h.live
  cards o alive := by rw [cards, h.cards o alive]
  source := source.trans h.source
  log := by
    have silent := h.log
    rw [filter_heard crossed, filter_heard crossed] at silent ⊢
    exact silent

/-- Changing the same cards, in whatever order where the sides are crossed. -/
theorem visit (h : φ.Matches l r) (change : Card → Card × List Event) {os os' : List Origin}
    (alive : ∀ o ∈ os, φ.live o) (same : os'.Perm (os.map φ.name))
    (order : φ.crossed = false → os' = os.map φ.name) :
    φ.Matches (l.visit os change) (r.visit os' change) := by
  have inOrder := h.visit_map change alive
  cases crossed : φ.crossed with
  | false =>
      rw [order crossed]
      exact inOrder
  | true =>
      refine inOrder.of_crossed crossed ?_ ?_ ?_
      · rw [Run.visit_table, Run.visit_table]
      · exact Run.visit_cards_perm change r same
      · rw [Run.visit_source, Run.visit_source]

theorem modifyTable (h : φ.Matches l r)
    {f g : Table Int Signals Origin → Table Int Signals Origin}
    (table : g (φ.table l.table) = φ.table (f l.table))
    (alive : ∀ o ∈ (f l.table).cards, φ.live o) :
    φ.Matches (l.modifyTable f) (r.modifyTable g) := by
  refine { h with table := ?_, live := alive }
  rw [Run.modifyTable_table, Run.modifyTable_table, h.table, table]

/-- Changing one player in corresponding ways. -/
theorem modifyPlayer (h : φ.Matches l r) {s : Side} {k k' : Player Int Origin → Player Int Origin}
    (same : k' ((l.table.player s).map φ.name) = (k (l.table.player s)).map φ.name)
    (alive : ∀ o ∈ (k (l.table.player s)).cards, φ.live o) :
    φ.Matches (l.modifyPlayer s k) (r.modifyPlayer (φ.side s) k') := by
  refine h.modifyTable ?_ ?_
  · apply φ.ext_table s
    · rw [Table.player_modifyPlayer_self, Table.player_modifyPlayer_self, player_table, same]
    · rw [Table.player_modifyPlayer_opponent, Table.player_modifyPlayer_opponent,
        ← side_opponent, player_table]
    all_goals simp
  · intro o lies
    rcases Table.mem_cards.mp lies with ⟨s', held⟩ | ⟨p, inPile⟩
    · rcases Side.eq_or_eq_opponent s s' with rfl | rfl
      · rw [Table.player_modifyPlayer_self] at held
        exact alive o held
      · rw [Table.player_modifyPlayer_opponent] at held
        exact h.live_of_player held
    · refine h.live o (Table.mem_cards.mpr (.inr ⟨p, ?_⟩))
      cases p <;> simpa [Table.pile] using inPile

/-- Laying the piles anew in corresponding ways. -/
theorem piles (h : φ.Matches l r) {f g : Table Int Signals Origin → Table Int Signals Origin}
    (deck miracleDeck discardPile : List Origin)
    (first : f l.table = { l.table with deck, miracleDeck, discardPile })
    (second : g r.table = { r.table with
      deck := deck.map φ.name
      miracleDeck := miracleDeck.map φ.name
      discardPile := discardPile.map φ.name })
    (inDeck : ∀ o ∈ deck, φ.live o) (inMiracles : ∀ o ∈ miracleDeck, φ.live o)
    (discarded : ∀ o ∈ discardPile, φ.live o) :
    φ.Matches (l.modifyTable f) (r.modifyTable g) := by
  refine h.modifyTable ?_ ?_
  · rw [← h.table, first, second]
    apply φ.ext_table .red
    · rw [Table.player_mk, h.player]
      rfl
    · rw [Table.player_mk, ← side_opponent, h.player]
      rfl
    · rfl
    · rfl
    · rfl
    · rw [h.table, signals_table]
  · rw [first]
    intro o lies
    rcases Table.mem_cards.mp lies with ⟨s, held⟩ | ⟨p, inPile⟩
    · rw [Table.player_mk] at held
      exact h.live_of_player held
    · cases p with
      | deck => exact inDeck o inPile
      | miracleDeck => exact inMiracles o inPile
      | discardPile => exact discarded o inPile

/-- Changing the signals in corresponding ways. -/
theorem signal (h : φ.Matches l r) (change change' : Signals → Signals)
    (same : change' (φ.signals l.table.signals) = φ.signals (change l.table.signals)) :
    φ.Matches (l.modifyTable fun t => { t with signals := change t.signals })
      (r.modifyTable fun t => { t with signals := change' t.signals }) := by
  refine h.modifyTable ?_ h.live
  apply φ.ext_table .red
  · rw [Table.player_mk, player_table]
    rfl
  · rw [Table.player_mk, ← side_opponent, player_table]
    rfl
  · rw [deck_table]
  · rw [miracleDeck_table]
  · rw [discardPile_table]
  · rw [signals_table, same]

theorem deck (h : φ.Matches l r) : r.table.deck = l.table.deck.map φ.name := by
  rw [h.table, deck_table]

theorem miracleDeck (h : φ.Matches l r) :
    r.table.miracleDeck = l.table.miracleDeck.map φ.name := by
  rw [h.table, miracleDeck_table]

theorem discardPile (h : φ.Matches l r) :
    r.table.discardPile = l.table.discardPile.map φ.name := by
  rw [h.table, discardPile_table]

theorem live_of_pile (h : φ.Matches l r) (p : Pile) : ∀ o ∈ l.table.pile p, φ.live o :=
  fun o lies => h.live o (Table.mem_cards.mpr (.inr ⟨p, lies⟩))

end Matches

end Correspondence

end LaneDuel
