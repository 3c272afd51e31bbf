/-
# LaneDuel.Proofs.Table.Search -- which place a search comes to first

A search is three loops, one inside the other (`locate_eq_loops`): over the zones asked
for, over both sides, over the places of one zone.  Each of them stops at the first
member with an answer (`findSome?_first`), so the place found is the first of all by
`Slot.rank`: the position of its zone among the zones asked for, then red before blue,
then its index (`locate_eq_some_iff_first`).  A zone that is asked for twice counts by its
first position.
-/
import Mathlib.Data.Prod.Lex
import LaneDuel.Proofs.Table.Locate

namespace LaneDuel

set_option autoImplicit false

universe u v

/-- When a search of some zones comes to a slot: by the position of its zone among them,
then red before blue, then by its index. -/
def Slot.rank (zones : List Zone) (slot : Slot) : Nat ×ₗ Nat ×ₗ Nat :=
  toLex (zones.idxOf slot.zone, toLex (Side.both.idxOf slot.side, slot.index))

theorem Slot.rank_inj {zones : List Zone} {slot slot' : Slot} (asked : slot.zone ∈ zones)
    (same : slot.rank zones = slot'.rank zones) : slot = slot' := by
  obtain ⟨side, zone, index⟩ := slot
  obtain ⟨side', zone', index'⟩ := slot'
  simp only [rank, EmbeddingLike.apply_eq_iff_eq, Prod.mk.injEq] at same
  obtain ⟨zones_eq, sides_eq, rfl⟩ := same
  obtain rfl : zone = zone' := (List.idxOf_inj asked).mp zones_eq
  obtain rfl : side = side' := (List.idxOf_inj (Side.mem_both side)).mp sides_eq
  rfl

/-- The first member with an answer stands before every other one that has an answer. -/
theorem findSome?_first {κ : Type u} {β : Type v} [DecidableEq κ] {f : κ → Option β} {l : List κ}
    {b : β} (found : l.findSome? f = some b) :
    ∃ a ∈ l, f a = some b ∧ ∀ a', (f a').isSome = true → a' = a ∨ l.idxOf a < l.idxOf a' := by
  obtain ⟨before, a, after, rfl, answer, silent⟩ := List.findSome?_eq_some_iff.mp found
  have apart : ∀ {a'}, (f a').isSome = true → a' ∉ before := by
    intro a' answers listed
    rw [silent a' listed] at answers
    cases answers
  refine ⟨a, by simp, answer, fun a' answers => ?_⟩
  by_cases same : a' = a
  · exact .inl same
  · rw [List.idxOf_append_of_notMem (apart answers),
      List.idxOf_append_of_notMem (apart (answer ▸ rfl)), List.idxOf_cons_self,
      List.idxOf_cons_ne _ (Ne.symm same)]
    exact .inr (by omega)

namespace Table

variable {ν σ : Type} {α : Type u}

/-! ## Three loops -/

theorem comp_add_succ {κ : Type v} (name : Nat → κ) (start : Nat) :
    (fun i => name (start + i)) ∘ (fun i => i + 1) = fun i => name (start + 1 + i) := by
  funext i
  simp only [Function.comp_apply, Nat.add_right_comm, Nat.add_assoc]

/-- The first taken place of a row whose card passes the test, counted from `start`. -/
theorem find?_taken {κ : Type v} (name : Nat → κ) (hit : α → Bool) (lanes : List (Option α))
    (start : Nat) :
    (((lanes.zipIdx start).filterMap fun lane => lane.1.map fun c => (name lane.2, c)).find?
        fun taken => hit taken.2).map (·.1)
      = (lanes.findIdx? (·.any hit)).map fun i => name (start + i) := by
  induction lanes generalizing start with
  | nil => rfl
  | cons lane lanes ih =>
      simp only [List.zipIdx_cons, List.filterMap_cons, List.findIdx?_cons]
      cases lane with
      | none =>
          simp only [Option.map_none, ih, Option.any_none, Bool.false_eq_true, if_false,
            Option.map_map, comp_add_succ]
      | some c =>
          simp only [Option.map_some, Option.any_some, List.find?_cons]
          by_cases passes : hit c = true
          · simp only [passes, if_true, Option.map_some, Nat.add_zero]
          · simp only [passes, ih, Bool.false_eq_true, if_false, Option.map_map, comp_add_succ]

/-- A search goes through the zones, in each through the sides, in each through the places. -/
theorem locate_eq_loops (t : Table ν σ α) (hit : α → Bool) (zones : List Zone) :
    t.locate hit zones = zones.findSome? fun zone => Side.both.findSome? fun side =>
      (((t.player side).zone zone).findIdx? (·.any hit)).map (Slot.mk side zone) := by
  have row : ∀ zone side, ((t.occupiedIn zone side).find? fun taken => hit taken.2).map (·.1)
      = (((t.player side).zone zone).findIdx? (·.any hit)).map (Slot.mk side zone) := by
    intro zone side
    have taken := find?_taken (Slot.mk side zone) hit ((t.player side).zone zone) 0
    simp only [Nat.zero_add] at taken
    exact taken
  simp only [locate, occupied, List.find?_flatMap, List.map_findSome?, Function.comp_def, row]

theorem locate_eq_none_iff_each {t : Table ν σ α} {hit : α → Bool} {zones : List Zone} :
    t.locate hit zones = none ↔ ∀ zone ∈ zones, t.locate hit [zone] = none := by
  simp only [locate_eq_loops, List.findSome?_eq_none_iff, List.mem_singleton, forall_eq]

/-! ## The first of all -/

/-- A slot of one of the zones in which a card lies that passes the test. -/
def Holds (t : Table ν σ α) (hit : α → Bool) (zones : List Zone) (slot : Slot) : Prop :=
  slot.zone ∈ zones ∧ ∃ c, t.cardAt slot = some c ∧ hit c = true

/-- What lies in a slot is found by the innermost loop there, or earlier in the row. -/
theorem findIdx?_of_cardAt {t : Table ν σ α} {hit : α → Bool} {slot : Slot} {c : α}
    (there : t.cardAt slot = some c) (passes : hit c = true) :
    ∃ i ≤ slot.index,
      ((t.player slot.side).zone slot.zone).findIdx? (·.any hit) = some i := by
  rw [cardAt, Option.join_eq_some_iff] at there
  obtain ⟨inside, lane⟩ := List.getElem?_eq_some_iff.mp there
  have hits : ((t.player slot.side).zone slot.zone)[slot.index].any hit = true := by
    rw [lane, Option.any_some, passes]
  cases found : ((t.player slot.side).zone slot.zone).findIdx? (·.any hit) with
  | none =>
      have misses := List.findIdx?_eq_none_iff.mp found _ (List.getElem_mem inside)
      rw [hits] at misses
      cases misses
  | some i =>
      obtain ⟨_, -, earlier⟩ := List.findIdx?_eq_some_iff_getElem.mp found
      exact ⟨i, Nat.le_of_not_lt fun later => earlier slot.index later hits, rfl⟩

/-- No slot with a card that passes the test comes before the one found. -/
theorem rank_le_of_locate {t : Table ν σ α} {hit : α → Bool} {zones : List Zone} {slot : Slot}
    (found : t.locate hit zones = some slot) {slot' : Slot} (holds : t.Holds hit zones slot') :
    slot.rank zones ≤ slot'.rank zones := by
  obtain ⟨-, c, there, passes⟩ := holds
  obtain ⟨i, before, row⟩ := findIdx?_of_cardAt there passes
  rw [locate_eq_loops] at found
  obtain ⟨zone, -, inZone, zoneFirst⟩ := findSome?_first found
  obtain ⟨side, -, inRow, sideFirst⟩ := findSome?_first inZone
  obtain ⟨index, least, rfl⟩ := Option.map_eq_some_iff.mp inRow
  have sideAnswers : ((((t.player slot'.side).zone slot'.zone).findIdx? (·.any hit)).map
      (Slot.mk slot'.side slot'.zone)).isSome = true := by
    rw [row]
    rfl
  have zoneAnswers : (Side.both.findSome? fun side =>
      (((t.player side).zone slot'.zone).findIdx? (·.any hit)).map
        (Slot.mk side slot'.zone)).isSome = true :=
    List.findSome?_isSome_iff.mpr ⟨slot'.side, Side.mem_both _, sideAnswers⟩
  rw [Slot.rank, Slot.rank, Prod.Lex.toLex_le_toLex]
  -- loop by loop: the other slot is in a later zone, or on the other side, or further on
  obtain sameZone | laterZone := zoneFirst slot'.zone zoneAnswers
  · rw [sameZone] at row sideAnswers
    refine .inr ⟨congrArg zones.idxOf sameZone.symm, ?_⟩
    rw [Prod.Lex.toLex_le_toLex]
    obtain sameSide | laterSide := sideFirst slot'.side sideAnswers
    · rw [sameSide, least, Option.some.injEq] at row
      exact .inr ⟨congrArg Side.both.idxOf sameSide.symm, row ▸ before⟩
    · exact .inl laterSide
  · exact .inl laterZone

/-- **A search finds the first slot of all.** -/
theorem locate_eq_some_iff_first {t : Table ν σ α} {hit : α → Bool} {zones : List Zone}
    {slot : Slot} :
    t.locate hit zones = some slot ↔
      t.Holds hit zones slot ∧
        ∀ slot', t.Holds hit zones slot' → slot.rank zones ≤ slot'.rank zones := by
  constructor
  · intro found
    exact ⟨locate_eq_some found, fun slot' holds => rank_le_of_locate found holds⟩
  · rintro ⟨holds, first⟩
    obtain ⟨asked, c, there, passes⟩ := holds
    cases found : t.locate hit zones with
    | none =>
        have fails := locate_eq_none_iff.mp found slot c asked there
        rw [passes] at fails
        cases fails
    | some slot' =>
        have holds' := locate_eq_some found
        have same := le_antisymm (rank_le_of_locate found ⟨asked, c, there, passes⟩)
          (first slot' holds')
        rw [Slot.rank_inj holds'.1 same]

end Table

end LaneDuel
