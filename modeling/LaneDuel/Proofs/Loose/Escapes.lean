/-
# LaneDuel.Proofs.Loose.Escapes -- how reading a state ends

Reading a state `Answers` where it gives a state, or the failure of states that tells what is
wrong with the document.  A missing field and an unknown kind or player are told in this way.
A value of a type that nothing can be read from is not: reading then ends in whatever failure
its first use has.

`State.Escapes` lists the documents for which it does, in the order of reading: players that
are no object, a player who strays, a pile that does, a selected card that is no object, and a
victory of no side.  Players are read in the order of the document, so of two that are wrong
the first decides: a strange name before a player who strays is told, and one after is not
come to.

* `State.strays_iff_escapes`: reading strays for these documents only, in the failure named.
* `State.not_escapes`: a document whose parts have the right shape is none of them.

Poles: `Example.dragon_told` (an unknown kind is told) and `Example.green_escapes` (a victory of
no side is not).

Left out are kinds and victories nested too deeply to be shown in the text of their failure.
-/
import LaneDuel.Proofs.Loose.Reading

namespace LaneDuel

set_option autoImplicit false

namespace Loose

variable {α : Type} {f : Failure}

/-- Reading gives something, or it tells what is wrong with a state. -/
def Answers (read : Except Failure α) : Prop := Reads read ∨ ∃ f, read = .error f ∧ f.OfState

theorem answers_iff {read : Except Failure α} : Answers read ↔ ∀ f, ¬ Strays read f := by
  cases read with
  | ok a => simp [Answers, Reads, Strays]
  | error f => simp [Answers, Reads, Strays]

/-! ## States -/

/-- The piles of a state in the order in which they are read. -/
def pileKeys : List String := ["deck", "miracle_deck", "discard_pile"]

/-- The states that are not read, and go untold.  What is read earlier has been read, since a
failure there, be it one that tells, ends the reading. -/
inductive State.Escapes (ms : List (String × Json)) : Failure → Prop
  | players {v : Json} (given : Json.find? ms "players" = some v) (flat : Flat v) :
    State.Escapes ms .noFields
  | player {before after : List (String × Json)} {name : String} {v : Json} {f : Failure}
    (given : Json.find? ms "players" = some (.obj (before ++ (name, v) :: after)))
    (sound : ∀ m ∈ before, Reads (State.readMember m.1 m.2))
    (side : ∃ s : Side, name = Vocabulary.word s) (escapes : Player.Escapes v f) :
    State.Escapes ms f
  | pile {v : Json} {before after : List String} {key : String} {f : Failure}
    (given : Json.find? ms "players" = some v) (players : Reads (State.readPlayers v))
    (split : pileKeys = before ++ key :: after)
    (sound : ∀ k ∈ before, Reads (Player.readCards ms k)) (row : RowEscapes false ms key f) :
    State.Escapes ms f
  /-- An empty value selects no card; any other is read as one. -/
  | selected {v w : Json} (given : Json.find? ms "players" = some v)
    (players : Reads (State.readPlayers v))
    (piles : ∀ k ∈ pileKeys, Reads (Player.readCards ms k))
    (card : Json.find? ms "selected_card" = some w) (full : w.truthy = true) (flat : Flat w) :
    State.Escapes ms .noFields
  /-- An empty value is no victory; any other has to be the word of a side. -/
  | victory {v w : Json} (given : Json.find? ms "players" = some v)
    (players : Reads (State.readPlayers v))
    (piles : ∀ k ∈ pileKeys, Reads (Player.readCards ms k))
    (selected : Reads (State.readSelected ((Json.find? ms "selected_card").getD .null)))
    (side : Json.find? ms "immediate_victory" = some w) (full : w.truthy = true)
    (other : ∀ s : Side, w ≠ .str (Vocabulary.word s)) : State.Escapes ms (.notMember "Side" w)

theorem strays_players_obj {members : List (String × Json)} :
    Strays (State.readPlayers (.obj members)) f ↔
      ∃ before m after, members = before ++ m :: after ∧
        (∀ x ∈ before, Reads (State.readMember x.1 x.2)) ∧
        (∃ side : Side, m.1 = Vocabulary.word side) ∧ Player.Escapes m.2 f := by
  simp only [← strays_readMember]
  rw [State.readPlayers, ← strays_mapM]
  -- After the members only that a side is missing is left, and that is told.
  refine strays_bind.trans (or_iff_left ?_)
  rintro ⟨players, -, strays⟩
  revert strays
  split
  · exact not_strays_ok _
  · exact not_strays_told _ _

theorem strays_readSelected {v : Json} :
    Strays (State.readSelected v) f ↔ v.truthy = true ∧ Flat v ∧ f = .noFields := by
  rw [State.readSelected]
  cases v.truthy with
  | false => simp [not_strays_ok]
  | true => simp [strays_card]

theorem strays_side {v : Json} :
    Strays (Vocabulary.ofJson "Side" v : Except Failure Side) f ↔
      (∀ s : Side, v ≠ .str (Vocabulary.word s)) ∧ f = .notMember "Side" v := by
  by_cases word : ∃ s : Side, v = .str (Vocabulary.word s)
  · obtain ⟨s, rfl⟩ := word
    rw [Vocabulary.ofJson, Vocabulary.read?_word]
    exact iff_of_false (not_strays_ok s) fun other => other.1 s rfl
  · have other : Vocabulary.ofJson "Side" v =
        (.error (.notMember "Side" v) : Except Failure Side) := by
      unfold Vocabulary.ofJson
      split
      · split
        next s read => exact absurd ⟨s, by rw [Vocabulary.word_of_read? read]⟩ word
        next => rfl
      · rfl
    rw [other, strays_error (by nofun), and_iff_right fun s same => word ⟨s, same⟩]

theorem strays_readVictory {v : Json} :
    Strays (State.readVictory v) f ↔ v.truthy = true ∧
      (∀ s : Side, v ≠ .str (Vocabulary.word s)) ∧ f = .notMember "Side" v := by
  rw [State.readVictory]
  cases v.truthy with
  | false => simp [not_strays_ok]
  | true => simp [strays_side]

/-- The piles are read one after the other, and then what comes after them. -/
theorem strays_piles {ms : List (String × Json)} {P : Prop} :
    (Strays (pileKeys.mapM (Player.readCards ms)) f ∨
        Reads (pileKeys.mapM (Player.readCards ms)) ∧ P) ↔
      Strays (Player.readCards ms "deck") f ∨ Reads (Player.readCards ms "deck") ∧
        (Strays (Player.readCards ms "miracle_deck") f ∨
          Reads (Player.readCards ms "miracle_deck") ∧
            (Strays (Player.readCards ms "discard_pile") f ∨
              Reads (Player.readCards ms "discard_pile") ∧ P)) := by
  have none : ¬ Strays (([] : List String).mapM (Player.readCards ms)) f := not_strays_ok []
  simp only [pileKeys, strays_mapM_cons, none, reads_mapM, List.forall_mem_cons]
  simp [and_or_left, and_assoc, or_assoc]

/-- The parts of a state are read in their order: the players, the piles, the rest. -/
theorem strays_state {ms : List (String × Json)} {v : Json}
    (given : Json.find? ms "players" = some v) :
    Strays (State.ofJson (.obj ms)) f ↔
      Strays (State.readPlayers v) f ∨ Reads (State.readPlayers v) ∧
        (Strays (pileKeys.mapM (Player.readCards ms)) f ∨
          Reads (pileKeys.mapM (Player.readCards ms)) ∧
            (Strays (State.readSelected ((Json.find? ms "selected_card").getD .null)) f ∨
              Reads (State.readSelected ((Json.find? ms "selected_card").getD .null)) ∧
                Strays (State.readVictory ((Json.find? ms "immediate_victory").getD .null)) f)) := by
  have parts : State.ofJson (.obj ms) = (do
    let both ← State.readPlayers v
    let deck ← Player.readCards ms "deck"
    let miracles ← Player.readCards ms "miracle_deck"
    let discarded ← Player.readCards ms "discard_pile"
    let selected ← State.readSelected ((Json.find? ms "selected_card").getD .null)
    let victory ← State.readVictory ((Json.find? ms "immediate_victory").getD .null)
    Except.ok {
      red := both.1, blue := both.2, deck := deck, miracleDeck := miracles
      discardPile := discarded
      signals := {
        turn := (Json.find? ms "turn").getD (.int 1)
        phase := (Json.find? ms "phase").getD (.str "idle")
        selected := selected
        skipToNextTurn := (Json.find? ms "skip_to_next_turn").getD (.bool false)
        immediateVictory := victory } }) := by
    rw [State.ofJson]
    simp only [given]
    rfl
  rw [parts]
  refine strays_bind_const fun both => ?_
  rw [strays_piles]
  refine strays_bind_const fun deck => strays_bind_const fun miracles =>
    strays_bind_const fun discarded => strays_bind_const fun selected => ?_
  exact strays_bind.trans (or_iff_left fun ⟨_, _, strays⟩ => not_strays_ok _ strays)

/-- A field left out is null, and so it is empty: what is not empty was given. -/
theorem find?_of_truthy {ms : List (String × Json)} {key : String}
    (full : ((Json.find? ms key).getD .null).truthy = true) :
    Json.find? ms key = some ((Json.find? ms key).getD .null) := by
  cases given : Json.find? ms key with
  | none =>
      rw [given] at full
      cases full
  | some v => rfl

namespace State

theorem players_of_flat {v : Json} (flat : Flat v) : readPlayers v = .error .noFields := by
  cases v with
  | obj players => exact absurd rfl (flat players)
  | null | bool _ | num _ | str _ | arr _ => rfl

theorem escapes_of_strays_players {ms : List (String × Json)} {v : Json}
    (given : Json.find? ms "players" = some v) (strays : Strays (readPlayers v) f) :
    Escapes ms f := by
  by_cases flat : Flat v
  · rw [players_of_flat flat, strays_error (by nofun)] at strays
    cases strays
    exact .players given flat
  · obtain ⟨players, rfl⟩ := not_flat_iff.mp flat
    obtain ⟨before, m, after, rfl, sound, side, escapes⟩ := strays_players_obj.mp strays
    exact .player given sound side escapes

theorem escapes_of_strays {ms : List (String × Json)} (h : Strays (ofJson (.obj ms)) f) :
    Escapes ms f := by
  cases given : Json.find? ms "players" with
  | none =>
      have told : ofJson (.obj ms) =
          .error (.game (.invalidState (some (Text.quote "players")) "players")) := by
        rw [ofJson]
        simp only [given]
      rw [told] at h
      exact absurd h (not_strays_told _ _)
  | some v =>
      rw [strays_state given] at h
      obtain strays | ⟨players, strays | ⟨piles, strays | ⟨selected, strays⟩⟩⟩ := h
      · exact escapes_of_strays_players given strays
      · obtain ⟨before, key, after, split, sound, strays⟩ := strays_mapM.mp strays
        exact .pile given players split sound (strays_readCards.mp strays)
      · obtain ⟨full, flat, rfl⟩ := strays_readSelected.mp strays
        exact .selected given players (reads_mapM.mp piles) (find?_of_truthy full) full flat
      · obtain ⟨full, other, rfl⟩ := strays_readVictory.mp strays
        exact .victory given players (reads_mapM.mp piles) selected (find?_of_truthy full) full
          other

theorem strays_of_escapes {ms : List (String × Json)} (h : Escapes ms f) :
    Strays (ofJson (.obj ms)) f := by
  cases h with
  | players given flat =>
      rw [strays_state given, players_of_flat flat]
      exact .inl ⟨rfl, nofun⟩
  | player given sound side escapes =>
      rw [strays_state given, strays_players_obj]
      exact .inl ⟨_, _, _, rfl, sound, side, escapes⟩
  | pile given players split sound row =>
      rw [strays_state given]
      refine .inr ⟨players, .inl (strays_mapM.mpr ⟨_, _, _, split, sound, ?_⟩)⟩
      exact strays_readCards.mpr row
  | selected given players piles card full flat =>
      rw [strays_state given, card]
      refine .inr ⟨players, .inr ⟨reads_mapM.mpr piles, .inl ?_⟩⟩
      exact strays_readSelected.mpr ⟨full, flat, rfl⟩
  | victory given players piles selected side full other =>
      rw [strays_state given, side]
      refine .inr ⟨players, .inr ⟨reads_mapM.mpr piles, .inr ⟨selected, ?_⟩⟩⟩
      exact strays_readVictory.mpr ⟨full, other, rfl⟩

/-- Reading a state strays for the documents that `Escapes` lists, and in the failure it names. -/
theorem strays_iff_escapes {ms : List (String × Json)} :
    Strays (ofJson (.obj ms)) f ↔ Escapes ms f :=
  ⟨escapes_of_strays, strays_of_escapes⟩

end State

/-! ## Documents in shape -/

/-- A row that can be gone through and whose places are objects. -/
def RowInShape (gaps : Bool) (ms : List (String × Json)) (key : String) : Prop :=
  ∀ v, Json.find? ms key = some v → Asked gaps v →
    ∃ vs, v.elements? = some vs ∧ ∀ w ∈ vs, Asked gaps w → ¬ Flat w

def Player.InShape (v : Json) : Prop :=
  ∃ ms, v = .obj ms ∧ RowInShape true ms "battlefield" ∧ RowInShape true ms "buildings" ∧
    RowInShape false ms "hand"

/-- A document whose fields, where they are given, are of the types of a state's. -/
structure State.InShape (ms : List (String × Json)) : Prop where
  players : ∀ v, Json.find? ms "players" = some v → ∃ players, v = .obj players ∧
    ∀ (side : Side) (w : Json), (Vocabulary.word side, w) ∈ players → Player.InShape w
  piles : ∀ key ∈ pileKeys, RowInShape false ms key
  selected : ∀ v, Json.find? ms "selected_card" = some v → v.truthy = true → ¬ Flat v
  victory : ∀ v, Json.find? ms "immediate_victory" = some v → v.truthy = true →
    ∃ s : Side, v = .str (Vocabulary.word s)

theorem not_rowEscapes {gaps : Bool} {ms : List (String × Json)} {key : String}
    (h : RowInShape gaps ms key) : ¬ RowEscapes gaps ms key f := by
  intro escapes
  cases escapes with
  | loose given asked flat =>
      obtain ⟨vs, held, -⟩ := h _ given asked
      cases flat.symm.trans held
  | place given asked split sound taken flat =>
      obtain ⟨vs, held, each⟩ := h _ given asked
      cases split.symm.trans held
      exact each _ (List.mem_append_right _ List.mem_cons_self) taken flat

theorem Player.not_escapes {v : Json} (h : Player.InShape v) : ¬ Player.Escapes v f := by
  obtain ⟨ms, rfl, battlefield, buildings, hand⟩ := h
  intro escapes
  cases escapes with
  | flat flat => exact flat ms rfl
  | battlefield row => exact not_rowEscapes battlefield row
  | buildings _ row => exact not_rowEscapes buildings row
  | hand _ _ row => exact not_rowEscapes hand row

namespace State

theorem not_escapes {ms : List (String × Json)} (h : InShape ms) : ¬ Escapes ms f := by
  intro escapes
  cases escapes with
  | players given flat =>
      obtain ⟨players, rfl, -⟩ := h.players _ given
      exact flat players rfl
  | player given _ side escapes =>
      obtain ⟨_, same, each⟩ := h.players _ given
      obtain ⟨s, rfl⟩ := side
      cases same
      exact Player.not_escapes (each s _ (List.mem_append_right _ List.mem_cons_self)) escapes
  | pile _ _ split _ row =>
      have listed : _ ∈ pileKeys := split ▸ List.mem_append_right _ List.mem_cons_self
      exact not_rowEscapes (h.piles _ listed) row
  | selected _ _ _ card full flat => exact h.selected _ card full flat
  | victory _ _ _ _ side full other =>
      obtain ⟨s, same⟩ := h.victory _ side full
      exact other s same

/-- **Reading a state gives a state or tells what is wrong, but for the documents listed.**
It ends in a failure that does not tell exactly for the documents of `Escapes`, with the
failure named there; a document in shape, whatever it leaves out and whatever kinds and
players it names, is none of them. -/
theorem reads_or_tells (ms : List (String × Json)) :
    (∀ f, Strays (ofJson (.obj ms)) f ↔ Escapes ms f) ∧
      (InShape ms → Answers (ofJson (.obj ms))) :=
  ⟨fun _ => strays_iff_escapes,
    fun shape => answers_iff.mpr fun _ strays => not_escapes shape (strays_iff_escapes.mp strays)⟩

/-- Blue's hand is met before red's card, which is no card: nothing is told. -/
example : State.ofJson (.obj [("players", .obj [("blue", .obj [("hand", .null)]),
    ("red", .obj [("battlefield", .arr [.obj [("card_id", .int 1)]])])])]) = .error .wrongType := rfl

end State

end Loose

namespace Example

open Loose

/-- A duel in which blue holds a card of no kind. -/
def dragonDuel : List (String × Json) := [
  ("players", .obj [
    ("red", .obj []),
    ("blue", .obj [("hand", .arr [.obj [
      ("card_id", .int 1),
      ("instance_id", .str "wyrm"),
      ("name", .str "wyrm"),
      ("kind", .str "dragon")]])])])]

theorem dragonDuel_inShape : State.InShape dragonDuel where
  players := by
    rintro v ⟨⟩
    refine ⟨_, rfl, fun side w listed => ?_⟩
    simp only [List.mem_cons, List.not_mem_nil, or_false, Prod.mk.injEq] at listed
    obtain ⟨-, rfl⟩ | ⟨-, rfl⟩ := listed
    · exact ⟨_, rfl, nofun, nofun, nofun⟩
    · refine ⟨_, rfl, nofun, nofun, ?_⟩
      rintro v ⟨⟩ -
      refine ⟨_, rfl, fun w mem _ flat => ?_⟩
      cases List.mem_singleton.mp mem
      exact flat _ rfl
  piles key mem v given := by
    simp only [pileKeys, List.mem_cons, List.not_mem_nil, or_false] at mem
    obtain rfl | rfl | rfl := mem <;> cases given
  selected := nofun
  victory := nofun

/-- The kind that is none is told. -/
theorem dragon_told :
    Answers (State.ofJson (.obj dragonDuel)) ∧
      State.ofJson (.obj dragonDuel) =
        .error (.game (.invalidState (some "'dragon' is not a valid CardKind") "kind")) :=
  ⟨(State.reads_or_tells dragonDuel).2 dragonDuel_inShape, rfl⟩

/-- A duel that green has won. -/
def greenDuel : Json := .obj [
  ("players", .obj [("red", .obj []), ("blue", .obj [])]),
  ("immediate_victory", .str "green")]

/-- That green is no side is not told. -/
theorem green_escapes :
    State.ofJson greenDuel = .error (.notMember "Side" (.str "green")) ∧
      ¬ Answers (State.ofJson greenDuel) := by
  have ends : State.ofJson greenDuel = .error (.notMember "Side" (.str "green")) := rfl
  refine ⟨ends, fun answers => answers_iff.mp answers _ ⟨ends, nofun⟩⟩

end Example

end LaneDuel
