/-
# LaneDuel.Proofs.Catalog.Documents -- catalogs survive their documents

The document of a catalog has each entry under its number.  Read as a raw catalog it gives
the catalog again, entry by entry `settled` (`survives_writing`): members of unchecked calls
that are null are gone, and numbers in them that are not finite are null.

Two things do not survive.  A number that is not finite is written as null, so the entry that
is read back is another one (`Example.infinite_number_lost`); and an entry in which an
unchecked call is told something nested too deeply has no document at all.

`Catalog.Sound` is what reading a raw catalog establishes pair by pair: each number once,
positive and not too long, and every entry one that was read.
-/
import LaneDuel.Proofs.Schema.Written
import LaneDuel.Proofs.Text.Integer

namespace LaneDuel

set_option autoImplicit false

/-! ## Entries -/

namespace CardEffect

/-- What holds of every call of the entry. -/
def EveryCall (e : CardEffect) (P : Call → Prop) : Prop := ∀ call ∈ e.effects, P call

variable {e : CardEffect}

theorem toJson_of_isWritable (writable : e.EveryCall fun call => call.isWritable = true) :
    e.toJson = .ok (codec.write e) := by
  rw [toJson, if_pos (List.all_eq_true.mpr writable)]

theorem isWritable_of_toJson {d : Json} (h : e.toJson = .ok d) :
    e.EveryCall fun call => call.isWritable = true := by
  rw [toJson] at h
  split at h
  · exact List.all_eq_true.mp ‹_›
  · cases h

theorem toJson_eq_ok {d : Json} (h : e.toJson = .ok d) : d = codec.write e := by
  rw [toJson_of_isWritable (isWritable_of_toJson h)] at h
  exact (Except.ok.inj h).symm

end CardEffect

namespace Catalog

/-- The raw catalog that has each entry under its number. -/
def toMembers (c : Catalog) : Except Failure (List (String × Json)) :=
  c.entries.mapM fun p => do return (toString p.1, ← p.2.toJson)

/-- The catalog with every entry settled. -/
def settled (c : Catalog) : Catalog := ⟨c.entries.map fun p => (p.1, p.2.settled)⟩

/-! ## What was read -/

def numbers (c : Catalog) : List Int := c.entries.map Prod.fst

/-- What a catalog that was read has: each number once, positive and of at most 4300 digits,
and entries that were read. -/
structure Sound (c : Catalog) : Prop where
  once : c.numbers.Nodup
  numbered : ∀ id ∈ c.numbers, 0 < id ∧ id < 10 ^ Text.digitLimit
  read : ∀ p ∈ c.entries, ∃ v, CardEffect.codec.read v = .ok p.2

theorem sound_empty : Sound empty where
  once := List.nodup_nil
  numbered _ mem := absurd mem List.not_mem_nil
  read _ mem := absurd mem List.not_mem_nil

theorem insert_eq_append {es : List (Int × CardEffect)} {id : Int} (e : CardEffect)
    (fresh : id ∉ es.map Prod.fst) : insert es id e = es ++ [(id, e)] := by
  induction es with
  | nil => rfl
  | cons p es ih =>
      obtain ⟨other, rest⟩ := List.ne_and_not_mem_of_not_mem_cons fresh
      rw [insert, if_neg (Ne.symm other), ih rest, List.cons_append]

/-- Putting an entry in changes the numbers at most by the new one, at the end. -/
theorem keys_insert (es : List (Int × CardEffect)) (id : Int) (e : CardEffect) :
    (insert es id e).map Prod.fst
      = if id ∈ es.map Prod.fst then es.map Prod.fst else es.map Prod.fst ++ [id] := by
  split
  · rename_i known
    induction es with
    | nil => exact absurd known List.not_mem_nil
    | cons p es ih =>
        rw [insert]
        split
        · rfl
        · rename_i other
          have later : id ∈ es.map Prod.fst :=
            (List.mem_cons.mp known).resolve_left (Ne.symm other)
          rw [List.map_cons, List.map_cons, ih later]
  · rename_i fresh
    rw [insert_eq_append e fresh, List.map_append]
    rfl

theorem readId_eq_ok {key : String} {id : Int} (h : readId key = .ok id) :
    0 < id ∧ id < 10 ^ Text.digitLimit := by
  simp only [readId] at h
  split at h
  · cases h
  · rename_i n read
    split at h
    · cases h
    · cases h
      exact ⟨not_le.mp ‹_›, Text.readInt?_lt read⟩

theorem Sound.register {c : Catalog} (sound : Sound c) {id : Int} {e : CardEffect} {v : Json}
    (numbered : 0 < id ∧ id < 10 ^ Text.digitLimit) (read : CardEffect.codec.read v = .ok e) :
    Sound (c.register id e) where
  once := by
    rw [numbers, Catalog.register, keys_insert]
    split
    · exact sound.once
    · rename_i fresh
      rw [List.nodup_append]
      refine ⟨sound.once, List.nodup_singleton id, fun n known m new same => fresh ?_⟩
      rwa [← List.mem_singleton.mp new, ← same]
  numbered n mem := by
    rw [numbers, Catalog.register, keys_insert] at mem
    split at mem
    · exact sound.numbered n mem
    · obtain mem | new := List.mem_append.mp mem
      · exact sound.numbered n mem
      · exact List.mem_singleton.mp new ▸ numbered
  read p mem := by
    obtain mem | same := mem_insert mem
    · exact sound.read p mem
    · exact ⟨v, same ▸ read⟩

theorem Sound.addPair {c c' : Catalog} (sound : Sound c) {pair : String × Json}
    (added : addPair c pair = .ok c') : Sound c' := by
  rw [Catalog.addPair] at added
  split at added
  · cases added
    exact sound
  · obtain ⟨id, named, added⟩ := Except.bind_eq_ok added
    obtain ⟨e, read, added⟩ := Except.bind_eq_ok added
    cases added
    exact sound.register (readId_eq_ok named) (readEntry_eq_ok read)

theorem sound_of_ofMembers {ms : List (String × Json)} {c : Catalog}
    (loaded : ofMembers ms = .ok c) : Sound c := by
  have run : ∀ (ms : List (String × Json)) {c₀ : Catalog}, Sound c₀ →
      ms.foldlM Catalog.addPair c₀ = .ok c → Sound c := by
    intro ms
    induction ms with
    | nil =>
        intro c₀ sound loaded
        cases loaded
        exact sound
    | cons pair ms ih =>
        intro c₀ sound loaded
        rw [List.foldlM_cons] at loaded
        obtain ⟨next, added, loaded⟩ := Except.bind_eq_ok loaded
        exact ih (sound.addPair added) loaded
  exact run ms sound_empty loaded

/-- The number of an entry that was read can be written. -/
theorem Sound.writable {c : Catalog} (sound : Sound c) {id : Int} {e : CardEffect}
    (found : c.get? id = some e) : Text.writable id = true := by
  obtain ⟨positive, below⟩ := sound.numbered id (List.mem_map_of_mem (mem_of_get? found))
  exact Text.writable_of_lt positive below

/-! ## What is written -/

/-- The pair of a number and an entry in a raw catalog. -/
def pairOf (p : Int × CardEffect) : String × Json := (toString p.1, CardEffect.codec.write p.2)

theorem isRemark_toString (n : Nat) : isRemark (toString (n : Int)) = false := by
  have digits := Text.isDigit_of_mem_toString (n := n)
  rw [isRemark]
  cases listed : (toString (n : Int)).toList with
  | nil => rfl
  | cons c cs =>
      have digit : c.isDigit = true := digits c (listed ▸ List.mem_cons_self)
      have other : c ≠ '_' := Text.ne_of_isDigit digit (by decide)
      simpa using other

theorem readId_toString {id : Int} (numbered : 0 < id ∧ id < 10 ^ Text.digitLimit) :
    readId (toString id) = .ok id := by
  obtain ⟨n, rfl⟩ := Int.eq_ofNat_of_zero_le numbered.1.le
  have fits : n < 10 ^ Text.digitLimit := by exact_mod_cast numbered.2
  simp only [readId, Text.readInt?_toString fits, if_neg (not_le.mpr numbered.1)]

/-- A written pair adds its entry, settled, where the number is new. -/
theorem addPair_pairOf {c : Catalog} {p : Int × CardEffect}
    (numbered : 0 < p.1 ∧ p.1 < 10 ^ Text.digitLimit) (fresh : p.1 ∉ c.numbers)
    (read : ∃ v, CardEffect.codec.read v = .ok p.2) :
    addPair c (pairOf p) = .ok ⟨c.entries ++ [(p.1, p.2.settled)]⟩ := by
  obtain ⟨id, e⟩ := p
  obtain ⟨v, read⟩ := read
  have plain : isRemark (toString id) = false := by
    obtain ⟨n, rfl⟩ := Int.eq_ofNat_of_zero_le numbered.1.le
    exact isRemark_toString n
  have again : readEntry id (CardEffect.codec.write e) = .ok e.settled := by
    rw [readEntry, CardEffect.settles_codec v e read]
  simp only [addPair, pairOf, plain, readId_toString numbered]
  refine (congrArg (· >>= fun e => pure (c.register id e)) again).trans ?_
  exact congrArg (fun es => Except.ok (Catalog.mk es)) (insert_eq_append e.settled fresh)

/-- Written pairs add their entries, settled, after what a catalog has. -/
theorem foldlM_addPair_pairOf {es : List (Int × CardEffect)} {c : Catalog}
    (once : (c.numbers ++ es.map Prod.fst).Nodup)
    (numbered : ∀ id ∈ es.map Prod.fst, 0 < id ∧ id < 10 ^ Text.digitLimit)
    (read : ∀ p ∈ es, ∃ v, CardEffect.codec.read v = .ok p.2) :
    (es.map pairOf).foldlM addPair c
      = .ok ⟨c.entries ++ es.map fun p => (p.1, p.2.settled)⟩ := by
  induction es generalizing c with
  | nil =>
      rw [List.map_nil, List.map_nil, List.append_nil]
      rfl
  | cons p es ih =>
      have fresh : p.1 ∉ c.numbers := fun known =>
        List.disjoint_of_nodup_append once known List.mem_cons_self
      have added := addPair_pairOf (numbered p.1 List.mem_cons_self) fresh
        (read p List.mem_cons_self)
      have onceMore : ((Catalog.mk (c.entries ++ [(p.1, p.2.settled)])).numbers
          ++ es.map Prod.fst).Nodup := by
        simpa [numbers] using once
      rw [List.map_cons, List.foldlM_cons, added]
      refine (ih onceMore (fun n mem => numbered n (List.mem_cons_of_mem _ mem))
        fun p mem => read p (List.mem_cons_of_mem _ mem)).trans ?_
      rw [List.append_assoc, List.singleton_append, List.map_cons]

variable {c : Catalog}

theorem toMembers_of_isWritable
    (writable : ∀ p ∈ c.entries, p.2.EveryCall fun call => call.isWritable = true) :
    c.toMembers = .ok (c.entries.map pairOf) := by
  refine mapM_eq_ok_map fun p mem => ?_
  rw [CardEffect.toJson_of_isWritable (writable p mem)]
  rfl

theorem ofMembers_pairOf (sound : Sound c) : ofMembers (c.entries.map pairOf) = .ok c.settled := by
  have once : ((empty : Catalog).numbers ++ c.entries.map Prod.fst).Nodup := sound.once
  exact foldlM_addPair_pairOf once sound.numbered sound.read

theorem numbers_settled : c.settled.numbers = c.numbers := by
  rw [numbers, settled, List.map_map]
  rfl

theorem toMembers_settled
    (writable : ∀ p ∈ c.entries, p.2.EveryCall fun call => call.isWritable = true)
    (steady : ∀ p ∈ c.entries, p.2.EveryCall Call.IsSteady) :
    c.settled.toMembers = c.toMembers := by
  rw [toMembers, settled, List.mapM_map, toMembers_of_isWritable writable]
  refine mapM_eq_ok_map fun p mem => ?_
  rw [Function.comp_apply, CardEffect.toJson_settled (steady p mem),
    CardEffect.toJson_of_isWritable (writable p mem)]
  rfl

theorem settled_eq_self (finite : ∀ p ∈ c.entries, p.2.EveryCall Call.IsFinite)
    (full : ∀ p ∈ c.entries, p.2.EveryCall Call.IsFull) : c.settled = c := by
  have entries : c.entries.map (fun p => (p.1, p.2.settled)) = c.entries := by
    refine (List.map_congr_left fun p mem => ?_).trans (List.map_id c.entries)
    rw [CardEffect.settled_eq_trimmed (finite p mem), CardEffect.trimmed_eq_self (full p mem)]
    rfl
  rw [settled, entries]

/-- **Catalogs survive their documents.**  An entry that was read has a document unless an
unchecked call in it nests too deeply.  The document is read as the entry settled, which is
the entry without the null members of its unchecked calls where their numbers are finite, and
which has the same document where none of these members is by itself a number that is not
finite.  So a catalog that was read is read again, settled, from the entries under their
numbers. -/
theorem survives_writing :
    (∀ v e, CardEffect.codec.read v = .ok e →
      ((e.EveryCall fun call => call.isWritable = true) ↔ ∃ d, e.toJson = .ok d) ∧
      ∀ d, e.toJson = .ok d →
        CardEffect.codec.read d = .ok e.settled ∧
        (e.EveryCall Call.IsFinite → e.settled = e.trimmed) ∧
        (e.EveryCall Call.IsSteady → e.settled.toJson = .ok d)) ∧
    ∀ ms c, ofMembers ms = .ok c →
      (∀ p ∈ c.entries, p.2.EveryCall fun call => call.isWritable = true) →
      ∃ written, c.toMembers = .ok written ∧ written.map Prod.fst = c.numbers.map toString ∧
        ofMembers written = .ok c.settled ∧ c.settled.cardIds = c.cardIds ∧
        ((∀ p ∈ c.entries, p.2.EveryCall Call.IsSteady) → c.settled.toMembers = .ok written) ∧
        ((∀ p ∈ c.entries, p.2.EveryCall Call.IsFinite) →
          (∀ p ∈ c.entries, p.2.EveryCall Call.IsFull) → c.settled = c) := by
  refine ⟨fun v e read => ⟨⟨fun writable => ?_, ?_⟩, fun d written => ?_⟩,
    fun ms c loaded writable => ?_⟩
  · exact ⟨_, CardEffect.toJson_of_isWritable writable⟩
  · rintro ⟨d, written⟩
    exact CardEffect.isWritable_of_toJson written
  · refine ⟨?_, CardEffect.settled_eq_trimmed, fun steady => ?_⟩
    · rw [CardEffect.toJson_eq_ok written]
      exact CardEffect.settles_codec v e read
    · rw [CardEffect.toJson_settled steady, written]
  · have written := toMembers_of_isWritable writable
    refine ⟨_, written, ?_, ofMembers_pairOf (sound_of_ofMembers loaded), ?_, fun steady => ?_,
      settled_eq_self⟩
    · rw [numbers, List.map_map, List.map_map]
      rfl
    · exact congrArg (List.mergeSort · (· ≤ ·)) numbers_settled
    · rw [toMembers_settled writable steady, written]

end Catalog

namespace Example

/-- The raw entry of a card that teleports somewhere. -/
def teleporter (place : Json) : Json := .obj [
  ("name", .str "jumper"),
  ("type", .str "battlefield"),
  ("effects", .arr [.obj [("atom", .str "teleport"), ("x", place), ("y", .null)]])]

/-- The entry with what its one call, which is not checked, is told. -/
def teleporting (members : List (String × Json)) : CardEffect where
  name := "jumper"
  kind := .battlefield
  trigger := .onPlay
  needsTarget := false
  targetFilter := none
  passive := false
  uiMode := none
  description := ""
  aura := none
  effects := [.unknown "teleport" members]

theorem read_teleporter (place : Json) :
    CardEffect.codec.read (teleporter place) = .ok (teleporting [("x", place), ("y", .null)]) :=
  rfl

/-- A raw catalog with a remark and with a number that is not in its plain writing. -/
def remarked : List (String × Json) := [("_", .str "draft"), (" +07", teleporter (.nat 3))]

/-- The teleporter comes back under the plain writing of its number and without its null. -/
theorem remarked_survives :
    CardEffect.codec.read (teleporter (.nat 3))
        = .ok (teleporting [("x", .nat 3), ("y", .null)]) ∧
      Catalog.ofMembers remarked = .ok ⟨[(7, teleporting [("x", .nat 3), ("y", .null)])]⟩ ∧
      (∃ d, (teleporting [("x", .nat 3), ("y", .null)]).toJson = .ok d ∧
        CardEffect.codec.read d = .ok (teleporting [("x", .nat 3)])) ∧
      ∃ written, Catalog.toMembers ⟨[(7, teleporting [("x", .nat 3), ("y", .null)])]⟩ = .ok written ∧
        written.map Prod.fst = ["7"] ∧
        Catalog.ofMembers written = .ok ⟨[(7, teleporting [("x", .nat 3)])]⟩ ∧
        Catalog.toMembers ⟨[(7, teleporting [("x", .nat 3)])]⟩ = .ok written := by
  have read : CardEffect.codec.read (teleporter (.nat 3))
      = .ok (teleporting [("x", .nat 3), ("y", .null)]) := rfl
  have loaded : Catalog.ofMembers remarked
      = .ok ⟨[(7, teleporting [("x", .nat 3), ("y", .null)])]⟩ := rfl
  have writable : (teleporting [("x", .nat 3), ("y", .null)]).EveryCall
      fun call => call.isWritable = true := List.forall_mem_singleton.mpr rfl
  have steady : (teleporting [("x", .nat 3), ("y", .null)]).EveryCall Call.IsSteady := by
    refine List.forall_mem_singleton.mpr ?_
    simp [Call.IsSteady, Json.nat, Json.int, Number.quotient?]
  obtain ⟨document, survives⟩ := Catalog.survives_writing.1 _ _ read
  obtain ⟨d, wrote⟩ := document.mp writable
  obtain ⟨written, members, numbers, again, -, same, -⟩ := Catalog.survives_writing.2 _ _ loaded
    (List.forall_mem_singleton.mpr writable)
  exact ⟨read, loaded, ⟨d, wrote, (survives d wrote).1⟩, written, members, numbers, again,
    same (List.forall_mem_singleton.mpr steady)⟩

/-- Lists inside lists. -/
def nested : Nat → Json
  | 0 => .arr []
  | n + 1 => .arr [nested n]

theorem nestsWithin_nested (n levels : Nat) :
    (nested n).nestsWithin levels = decide (n < levels) := by
  induction n generalizing levels with
  | zero => cases levels <;> rfl
  | succ n ih =>
      cases levels with
      | zero => rfl
      | succ levels =>
          simp only [nested, Json.nestsWithin, Json.itemsNestWithin, ih, Bool.and_true,
            Nat.add_lt_add_iff_right]

theorem toJson_nested {n : Nat} {d : Json}
    (h : (teleporting [("x", nested n), ("y", .null)]).toJson = .ok d) : n < Call.writtenLevels := by
  have writable : Call.isWritable (.unknown "teleport" [("x", nested n), ("y", .null)]) = true :=
    CardEffect.isWritable_of_toJson h _ List.mem_cons_self
  have list : (nested n).isNull = false := by cases n <;> rfl
  have told : Call.told [("x", nested n), ("y", .null)] = [("x", nested n)] := by
    simp only [Call.told, List.filter_cons, list]
    rfl
  rw [Call.isWritable, told, Json.membersNestWithin, nestsWithin_nested, Bool.and_eq_true] at writable
  exact of_decide_eq_true writable.1

/-- An infinite number comes back as null, and its null does not come back; what is nested
too deeply is not written at all. -/
theorem infinite_number_lost :
    (∃ e d e', CardEffect.codec.read (teleporter (.real (.infinite false))) = .ok e ∧
      e.toJson = .ok d ∧ CardEffect.codec.read d = .ok e' ∧ e' ≠ e.trimmed ∧
      e'.toJson ≠ .ok d) ∧
      ∃ e, CardEffect.codec.read (teleporter (nested 300)) = .ok e ∧ ∀ d, e.toJson ≠ .ok d := by
  constructor
  · refine ⟨teleporting [("x", .real (.infinite false)), ("y", .null)], _,
      teleporting [("x", .null)], rfl, rfl, rfl, ?_, ?_⟩
    · intro same
      cases congrArg CardEffect.effects same
    · intro same
      cases Except.ok.inj same
  · refine ⟨teleporting [("x", nested 300), ("y", .null)], read_teleporter _, fun d written => ?_⟩
    exact absurd (toJson_nested written) (by decide)

end Example

end LaneDuel
