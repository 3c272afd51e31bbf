/-
# LaneDuel.Proofs.Loose.Reading -- how reading a player ends

Reading `Strays` where it ends in a failure that does not tell what is wrong with a state
(`Failure.OfState`).  Readings in a row stray in the first that gives nothing
(`strays_bind_const`, `strays_mapM`), so what strays is found part by part: a card that is no
object (`strays_card`), a row that cannot be gone through or in which such a card is met
(`RowEscapes`), a player with such a row (`Player.Escapes`), and such a player of a side
(`strays_readMember`).
-/
import LaneDuel.Loose.State

namespace LaneDuel

set_option autoImplicit false

/-- A failure that tells what is wrong with a state. -/
inductive Failure.OfState : Failure → Prop where
  | state (message : Option String) (field : String) : OfState (.game (.invalidState message field))

namespace Loose

variable {α β : Type} {f : Failure}

/-! ## Straying -/

/-- Reading gives something. -/
def Reads (read : Except Failure α) : Prop := ∃ a, read = .ok a

/-- Reading ends in a failure that does not tell what is wrong with a state. -/
def Strays (read : Except Failure α) (f : Failure) : Prop := read = .error f ∧ ¬ f.OfState

@[simp] theorem reads_map {x : Except Failure α} {g : α → β} : Reads (x.map g) ↔ Reads x := by
  cases x <;> simp [Reads, Except.map]

theorem not_strays_ok (a : α) : ¬ Strays (.ok a) f := nofun

theorem not_strays_told (message : Option String) (field : String) :
    ¬ Strays (.error (.game (.invalidState message field)) : Except Failure α) f := by
  rintro ⟨same, other⟩
  cases same
  exact other (.state message field)

theorem strays_error {e : Failure} (other : ¬ e.OfState) :
    Strays (.error e : Except Failure α) f ↔ f = e := by
  constructor
  · rintro ⟨same, -⟩
    cases same
    rfl
  · rintro rfl
    exact ⟨rfl, other⟩

theorem strays_bind {x : Except Failure α} {g : α → Except Failure β} :
    Strays (x >>= g) f ↔ Strays x f ∨ ∃ a, x = .ok a ∧ Strays (g a) f := by
  cases x with
  | error e =>
      have ends : ((Except.error e : Except Failure α) >>= g) = .error e := rfl
      simp [Strays, ends]
  | ok a =>
      have goes : ((Except.ok a : Except Failure α) >>= g) = g a := rfl
      simp [Strays, goes]

/-- Where what follows strays whatever was read, only that something was read matters. -/
theorem strays_bind_const {x : Except Failure α} {g : α → Except Failure β} {P : Prop}
    (each : ∀ a, Strays (g a) f ↔ P) : Strays (x >>= g) f ↔ Strays x f ∨ Reads x ∧ P := by
  simp only [strays_bind, each, exists_and_right, Reads]

@[simp] theorem strays_map {x : Except Failure α} {g : α → β} : Strays (x.map g) f ↔ Strays x f := by
  cases x <;> simp [Strays, Except.map]

theorem reads_bind_const {x : Except Failure α} {g : α → Except Failure β} {P : Prop}
    (each : ∀ a, Reads (g a) ↔ P) : Reads (x >>= g) ↔ Reads x ∧ P := by
  cases x with
  | error e => exact iff_of_false nofun fun both => nomatch both.1
  | ok a => exact (each a).trans (and_iff_right ⟨a, rfl⟩).symm

theorem strays_mapM_cons {read : α → Except Failure β} {a : α} {as : List α} :
    Strays ((a :: as).mapM read) f ↔
      Strays (read a) f ∨ Reads (read a) ∧ Strays (as.mapM read) f := by
  rw [List.mapM_cons]
  refine strays_bind_const fun b => strays_bind.trans (or_iff_left ?_)
  rintro ⟨bs, -, strays⟩
  exact not_strays_ok _ strays

theorem reads_mapM {read : α → Except Failure β} {as : List α} :
    Reads (as.mapM read) ↔ ∀ a ∈ as, Reads (read a) := by
  induction as with
  | nil => exact iff_of_true ⟨[], rfl⟩ nofun
  | cons a as ih =>
      rw [List.mapM_cons, List.forall_mem_cons, ← ih]
      refine reads_bind_const fun b => (reads_bind_const fun bs => ?_).trans (and_true _).to_iff
      exact iff_of_true ⟨_, rfl⟩ trivial

/-- Going through a list strays in the first item that is not read. -/
theorem strays_mapM {read : α → Except Failure β} {as : List α} :
    Strays (as.mapM read) f ↔
      ∃ before a after, as = before ++ a :: after ∧ (∀ x ∈ before, Reads (read x)) ∧
        Strays (read a) f := by
  induction as with
  | nil =>
      refine iff_of_false (not_strays_ok []) ?_
      rintro ⟨before, a, after, split, -⟩
      simp at split
  | cons x as ih =>
      rw [strays_mapM_cons, ih]
      constructor
      · rintro (first | ⟨first, before, a, after, rfl, sound, strays⟩)
        · exact ⟨[], x, as, rfl, nofun, first⟩
        · exact ⟨x :: before, a, after, rfl, List.forall_mem_cons.mpr ⟨first, sound⟩, strays⟩
      · rintro ⟨before, a, after, split, sound, strays⟩
        cases before with
        | nil =>
            cases split
            exact .inl strays
        | cons y before =>
            cases split
            obtain ⟨first, rest⟩ := List.forall_mem_cons.mp sound
            exact .inr ⟨first, before, a, after, rfl, rest, strays⟩

/-! ## Cards -/

/-- The value has no members. -/
def Flat (v : Json) : Prop := ∀ ms, v ≠ .obj ms

theorem not_strays_required (ms : List (String × Json)) (key : String) :
    ¬ Strays (Card.required ms key) f := by
  rw [Card.required]
  split
  · exact not_strays_ok _
  · exact not_strays_told _ _

theorem not_strays_readKind (v : Json) : ¬ Strays (Card.readKind v) f := by
  rw [Card.readKind]
  split
  · exact not_strays_ok _
  · exact not_strays_told _ _

theorem not_flat_iff {v : Json} : ¬ Flat v ↔ ∃ ms, v = .obj ms := by simp [Flat]

theorem card_of_flat {v : Json} (flat : Flat v) : Card.ofJson v = .error .noFields := by
  cases v with
  | obj ms => exact absurd rfl (flat ms)
  | null | bool _ | num _ | str _ | arr _ => rfl

/-- Of a card only that it is no object goes untold. -/
theorem strays_card {v : Json} : Strays (Card.ofJson v) f ↔ Flat v ∧ f = .noFields := by
  by_cases flat : Flat v
  · rw [card_of_flat flat, strays_error (by nofun), and_iff_right flat]
  · obtain ⟨ms, rfl⟩ := not_flat_iff.mp flat
    have told : Card.ofJson (.obj ms) = (do
      let _ ← Card.required ms "card_id"
      let _ ← Card.required ms "instance_id"
      let _ ← Card.required ms "name"
      let kind ← Card.readKind (← Card.required ms "kind")
      Except.ok (Card.ofFields (fun key absent => (Json.find? ms key).getD absent) kind)) := rfl
    simp [told, flat, strays_bind, not_strays_required, not_strays_readKind, not_strays_ok]

/-! ## Rows -/

/-- The value is asked for cards; where a row may have gaps, an empty value is not. -/
def Asked (gaps : Bool) (v : Json) : Prop := gaps = true → v.truthy = true

/-- The value is read as a place of a row. -/
def ReadsPlace (gaps : Bool) (v : Json) : Prop := Asked gaps v → Reads (Card.ofJson v)

/-- The rows of a player or a state that are not read, and go untold. -/
inductive RowEscapes (gaps : Bool) (ms : List (String × Json)) (key : String) : Failure → Prop
  /-- Nothing can go through the value. -/
  | loose {v : Json} (given : Json.find? ms key = some v) (asked : Asked gaps v)
    (flat : v.elements? = none) : RowEscapes gaps ms key .wrongType
  /-- After places that are read comes one that is no object. -/
  | place {v w : Json} {before after : List Json} (given : Json.find? ms key = some v)
    (asked : Asked gaps v) (split : v.elements? = some (before ++ w :: after))
    (sound : ∀ x ∈ before, ReadsPlace gaps x) (taken : Asked gaps w) (flat : Flat w) :
    RowEscapes gaps ms key .noFields

/-- Reading a place of a row. -/
def readPlace (gaps : Bool) (v : Json) : Except Failure (Option Card) :=
  if gaps && !v.truthy then .ok none else (Card.ofJson v).map some

theorem asked_iff {gaps : Bool} {v : Json} : Asked gaps v ↔ (gaps && !v.truthy) = false := by
  cases gaps <;> simp [Asked]

theorem readsPlace_iff {gaps : Bool} {v : Json} :
    ReadsPlace gaps v ↔ Reads (readPlace gaps v) := by
  rw [ReadsPlace, asked_iff, readPlace]
  cases gaps && !v.truthy with
  | true => simp [Reads]
  | false => simp

theorem strays_readPlace {gaps : Bool} {v : Json} :
    Strays (readPlace gaps v) f ↔ Asked gaps v ∧ Flat v ∧ f = .noFields := by
  rw [asked_iff, readPlace]
  cases gaps && !v.truthy with
  | true => simp [not_strays_ok]
  | false => simp [strays_map, strays_card]

/-- Going through the places of a row strays at one that is asked for and is no object. -/
theorem strays_places {gaps : Bool} {vs : List Json} :
    Strays (vs.mapM (readPlace gaps)) f ↔
      ∃ before w after, vs = before ++ w :: after ∧ (∀ x ∈ before, ReadsPlace gaps x) ∧
        Asked gaps w ∧ Flat w ∧ f = .noFields := by
  simp only [strays_mapM, strays_readPlace, readsPlace_iff]

theorem strays_row {gaps : Bool} {ms : List (String × Json)} {key : String} {v : Json}
    (given : Json.find? ms key = some v) (asked : Asked gaps v) :
    RowEscapes gaps ms key f ↔
      match v.elements? with
      | some vs => Strays (vs.mapM (readPlace gaps)) f
      | none => f = .wrongType := by
  constructor
  · intro escapes
    cases escapes with
    | loose given' _ flat =>
        cases given.symm.trans given'
        rw [flat]
    | place given' _ split sound taken flat =>
        cases given.symm.trans given'
        rw [split]
        exact strays_places.mpr ⟨_, _, _, rfl, sound, taken, flat, rfl⟩
  · cases held : v.elements? with
    | none =>
        rintro rfl
        exact .loose given asked held
    | some vs =>
        intro strays
        obtain ⟨before, w, after, rfl, sound, taken, flat, rfl⟩ := strays_places.mp strays
        exact .place given asked held sound taken flat

theorem not_rowEscapes_of_unasked {gaps : Bool} {ms : List (String × Json)} {key : String}
    (unasked : ∀ v, Json.find? ms key = some v → ¬ Asked gaps v) : ¬ RowEscapes gaps ms key f := by
  intro escapes
  cases escapes with
  | loose given asked | place given asked => exact unasked _ given asked

theorem strays_readLanes {ms : List (String × Json)} {key : String} :
    Strays (Player.readLanes ms key) f ↔ RowEscapes true ms key f := by
  rw [Player.readLanes]
  cases given : Json.find? ms key with
  | none =>
      refine iff_of_false (not_strays_ok _) (not_rowEscapes_of_unasked fun v given' _ => ?_)
      cases given.symm.trans given'
  | some v =>
      simp only
      cases full : v.truthy with
      | false =>
          refine iff_of_false (not_strays_ok _) (not_rowEscapes_of_unasked fun w given' asked => ?_)
          cases given.symm.trans given'
          exact absurd (asked rfl) (Bool.eq_false_iff.mp full)
      | true =>
          rw [strays_row given fun _ => full, if_pos rfl]
          cases v.elements? with
          | none => exact strays_error nofun
          | some vs =>
              have place : (fun w : Json => if w.truthy then (Card.ofJson w).map some else .ok none)
                  = readPlace true := by
                funext w
                rw [readPlace]
                cases w.truthy <;> rfl
              simp only [place]
              refine strays_bind.trans (or_iff_left ?_)
              rintro ⟨lanes, -, strays⟩
              exact not_strays_ok _ strays

theorem strays_readCards {ms : List (String × Json)} {key : String} :
    Strays (Player.readCards ms key) f ↔ RowEscapes false ms key f := by
  rw [Player.readCards]
  cases given : Json.find? ms key with
  | none =>
      refine iff_of_false (not_strays_ok _) (not_rowEscapes_of_unasked fun v given' _ => ?_)
      cases given.symm.trans given'
  | some v =>
      simp only
      rw [strays_row given fun no => by cases no]
      cases v.elements? with
      | none => exact strays_error nofun
      | some vs =>
          have place : readPlace false = fun w => (Card.ofJson w).map some := rfl
          simp only [place, strays_mapM, strays_map, reads_map]

/-! ## Players -/

/-- The players that are not read, and go untold.  Rows are read in the order of the
constructors, each after rows that are read. -/
inductive Player.Escapes : Json → Failure → Prop
  | flat {v : Json} (flat : Flat v) : Player.Escapes v .noFields
  | battlefield {ms : List (String × Json)} {f : Failure}
    (row : RowEscapes true ms "battlefield" f) : Player.Escapes (.obj ms) f
  | buildings {ms : List (String × Json)} {f : Failure}
    (battlefield : Reads (Player.readLanes ms "battlefield"))
    (row : RowEscapes true ms "buildings" f) : Player.Escapes (.obj ms) f
  | hand {ms : List (String × Json)} {f : Failure}
    (battlefield : Reads (Player.readLanes ms "battlefield"))
    (buildings : Reads (Player.readLanes ms "buildings"))
    (row : RowEscapes false ms "hand" f) : Player.Escapes (.obj ms) f

theorem player_of_flat {v : Json} (flat : Flat v) : Player.ofJson v = .error .noFields := by
  cases v with
  | obj ms => exact absurd rfl (flat ms)
  | null | bool _ | num _ | str _ | arr _ => rfl

theorem strays_player {v : Json} : Strays (Player.ofJson v) f ↔ Player.Escapes v f := by
  by_cases flat : Flat v
  · rw [player_of_flat flat, strays_error (by nofun)]
    constructor
    · rintro rfl
      exact .flat flat
    · intro escapes
      cases escapes with
      | flat => rfl
      | battlefield | buildings | hand => exact absurd rfl (flat _)
  · obtain ⟨ms, rfl⟩ := not_flat_iff.mp flat
    have rows : Strays (Player.ofJson (.obj ms)) f ↔
        RowEscapes true ms "battlefield" f ∨ Reads (Player.readLanes ms "battlefield") ∧
          (RowEscapes true ms "buildings" f ∨ Reads (Player.readLanes ms "buildings") ∧
            RowEscapes false ms "hand" f) := by
      rw [Player.ofJson]
      simp only [← strays_readLanes, ← strays_readCards]
      refine strays_bind_const fun battlefield => strays_bind_const fun buildings => ?_
      exact strays_bind.trans (or_iff_left fun ⟨_, _, strays⟩ => not_strays_ok _ strays)
    rw [rows]
    constructor
    · rintro (row | ⟨battlefield, row | ⟨buildings, row⟩⟩)
      · exact .battlefield row
      · exact .buildings battlefield row
      · exact .hand battlefield buildings row
    · intro escapes
      cases escapes with
      | flat flat' => exact absurd flat' flat
      | battlefield row => exact .inl row
      | buildings battlefield row => exact .inr ⟨battlefield, .inl row⟩
      | hand battlefield buildings row => exact .inr ⟨battlefield, .inr ⟨buildings, row⟩⟩

/-- A strange name is told before the player of that name is looked at. -/
theorem strays_readMember {name : String} {v : Json} :
    Strays (State.readMember name v) f ↔
      (∃ side : Side, name = Vocabulary.word side) ∧ Player.Escapes v f := by
  rw [State.readMember]
  cases read : (Vocabulary.read? name : Option Side) with
  | none =>
      refine iff_of_false (not_strays_told _ _) ?_
      rintro ⟨⟨side, rfl⟩, -⟩
      rw [Vocabulary.read?_word] at read
      cases read
  | some side =>
      rw [and_iff_right ⟨side, (Vocabulary.word_of_read? read).symm⟩]
      simp [strays_player]

end Loose

end LaneDuel
