/-
# LaneDuel.Proofs.Schema.Codec -- what is read survives being written

Reading is tolerant and writing has one form, so a document is not what its reading is
written as.  But what was read is read again from its own writing: a codec `Settles` to `f`
if it comes back as what `f` makes of it, where `f` is the identity for everything but calls
that were not checked.

A record is `Lawful` if it looks at its own fields only and writes them in their preferred
spellings.  Records whose fields are `Apart` can then be written one after another, since
none sees what the other one wrote.
-/
import LaneDuel.Proofs.Schema.Calls

namespace LaneDuel.Schema

set_option autoImplicit false

variable {α β : Type}

/-- What was read is read again from its own writing, as what `f` makes of it. -/
def Codec.Settles (c : Codec α) (f : α → α) : Prop :=
  ∀ v a, c.read v = .ok a → c.read (c.write a) = .ok (f a)

/-- Nothing is written as null. -/
def Codec.Solid (c : Codec α) : Prop := ∀ a, c.write a ≠ .null

/-! ## Values -/

namespace Codec

theorem wholeText_eq_ok {s : String} {read : String → Verdict α} {a : α}
    (h : wholeText s read = .ok a) : Text.hasHalf s = false ∧ read s = .ok a := by
  rw [wholeText] at h
  split at h
  · cases h
  · exact ⟨Bool.eq_false_iff.mpr ‹_›, h⟩

theorem wholeText_of_whole {s : String} (whole : Text.hasHalf s = false)
    (read : String → Verdict α) : wholeText s read = read s := by
  rw [wholeText, whole, if_neg Bool.false_ne_true]

theorem settles_text : text.Settles id := by
  intro v s read
  cases v with
  | str t =>
      cases read
      rfl
  | null | bool _ | num _ | arr _ | obj _ => cases read

theorem settles_nonEmptyText : nonEmptyText.Settles id := by
  intro v s read
  cases v with
  | str t =>
      simp only [nonEmptyText] at read
      obtain ⟨whole, filled⟩ := wholeText_eq_ok read
      split at filled
      · cases filled
      · cases filled
        simp only [nonEmptyText, wholeText_of_whole whole, if_neg ‹_›, id_eq]
  | null | bool _ | num _ | arr _ | obj _ => cases read

theorem settles_int : int.Settles id := fun _ _ _ => rfl

theorem settles_atLeast (bound : Int) : (atLeast bound).Settles id := by
  intro v n read
  simp only [atLeast] at read
  split at read
  · split at read
    · cases read
      exact if_pos ‹_›
    · cases read
  · cases read
  · cases read

theorem settles_nat : nat.Settles id := by
  intro v n _
  have counts : (atLeast 0).read (Json.int n) = .ok (n : Int) := by
    simp only [atLeast, int, Json.int, Int.natCast_nonneg, if_true]
  simp only [nat, counts, Verdict.map, Int.toNat_natCast, id_eq]

theorem settles_bool : bool.Settles id := fun _ _ _ => rfl

theorem read_write_word [Vocabulary α] [LawfulVocabulary α] (otherwise : IssueKind) (a : α) :
    (word α otherwise).read ((word α otherwise).write a) = .ok a := by
  have reads : Vocabulary.read? (Vocabulary.word a) = some a := Vocabulary.read?_word a
  simp only [word, reads]

theorem settles_word [Vocabulary α] [LawfulVocabulary α] (otherwise : IssueKind) :
    (word α otherwise).Settles id := fun _ a _ => read_write_word otherwise a

theorem all_readItems_map {c : Codec α} {f : α → α} (h : c.Settles f) {vs : List Json}
    {start : Nat} {as : List α} (read : Verdict.all (readItems c start vs) = .ok as) :
    Verdict.all (readItems c start (as.map c.write)) = .ok (as.map f) := by
  induction vs generalizing start as with
  | nil =>
      cases read
      rfl
  | cons v vs ih =>
      obtain ⟨⟨first, rest⟩, both, rfl⟩ := Verdict.map_eq_ok read
      obtain ⟨readFirst, readRest⟩ := Verdict.both_eq_ok both
      have again := h v first (Verdict.under_eq_ok readFirst)
      simp only [List.map_cons, readItems, Verdict.all, again, ih readRest]
      rfl

theorem Settles.list {c : Codec α} {f : α → α} (h : c.Settles f) :
    (Codec.list c).Settles (List.map f) := by
  intro v as read
  cases v with
  | arr vs => exact all_readItems_map h read
  | null | bool _ | num _ | str _ | obj _ => cases read

theorem settles_names : names.Settles id := by
  have texts : ∀ v as, (Codec.list text).read v = .ok as →
      (Codec.list text).read (.arr (as.map Json.str)) = .ok as := by
    intro v as read
    have again := settles_text.list v as read
    rwa [List.map_id] at again
  intro v as read
  cases v with
  | str s => exact texts (.arr [.str s]) as read
  | null => exact texts .null as read
  | bool b => exact texts (.bool b) as read
  | num n => exact texts (.num n) as read
  | arr vs => exact texts (.arr vs) as read
  | obj ms => exact texts (.obj ms) as read

theorem solid_word [Vocabulary α] (otherwise : IssueKind) : (word α otherwise).Solid :=
  fun _ => Json.noConfusion

theorem solid_names : names.Solid := fun _ => Json.noConfusion

theorem Settles.nullable {c : Codec α} (h : c.Settles id) (solid : c.Solid) :
    c.nullable.Settles id := by
  intro v a read
  cases a with
  | none => rfl
  | some a =>
      have value : ∃ b, c.read v = .ok b ∧ some b = some a := by
        cases v with
        | null => cases read
        | bool _ | num _ | str _ | arr _ | obj _ => exact Verdict.map_eq_ok read
      obtain ⟨_, value, same⟩ := value
      cases same
      have again : c.read (c.write a) = .ok a := h v a value
      have written : c.write a ≠ .null := solid a
      -- so the writing is read as a value and not as null
      simp only [Codec.nullable, again]
      rfl

end Codec

/-! ## Fields -/

namespace Field

/-- Neither field is spelled as the other one is written. -/
def Apart (f g : Field) : Prop :=
  f.preferred ≠ g.preferred ∧ f.preferred ≠ g.name ∧ f.name ≠ g.preferred

instance (f g : Field) : Decidable (f.Apart g) := inferInstanceAs (Decidable (_ ∧ _ ∧ _))

/-- None of some members is spelled as a field. -/
def Unseen (f : Field) (ms : List (String × Json)) : Prop :=
  ∀ p ∈ ms, p.1 ≠ f.preferred ∧ p.1 ≠ f.name

variable {f : Field} {ms more : List (String × Json)}

theorem find?_eq_none {key : String} (h : ∀ p ∈ ms, p.1 ≠ key) : Json.find? ms key = none :=
  List.lookup_eq_none_iff.mpr fun p mem => bne_iff_ne.mpr (h p mem).symm

theorem present?_append_left (unseen : f.Unseen more) : f.present? (ms ++ more) = f.present? ms := by
  have left : ∀ key, (∀ p ∈ more, p.1 ≠ key) → Json.find? (ms ++ more) key = Json.find? ms key := by
    intro key other
    rw [Json.find?, List.lookup_append, ← Json.find?, ← Json.find?, find?_eq_none other,
      Option.or_none]
  simp only [present?, left f.preferred fun p mem => (unseen p mem).1,
    left f.name fun p mem => (unseen p mem).2]

theorem present?_append_right (unseen : f.Unseen ms) :
    f.present? (ms ++ more) = f.present? more := by
  have right : ∀ key, (∀ p ∈ ms, p.1 ≠ key) → Json.find? (ms ++ more) key = Json.find? more key := by
    intro key other
    rw [Json.find?, List.lookup_append, ← Json.find?, ← Json.find?, find?_eq_none other,
      Option.none_or]
  simp only [present?, right f.preferred fun p mem => (unseen p mem).1,
    right f.name fun p mem => (unseen p mem).2]

theorem present?_written (v : Json) : f.present? [(f.preferred, v)] = some (f.preferred, v) := by
  simp only [present?, Json.find?, List.lookup_cons_self]

end Field

/-! ## Records -/

namespace Record

/-- The record looks at its own fields only and writes them in their preferred spellings;
what was read is read again from its own writing, as what `f` makes of it. -/
structure Lawful (r : Record α) (f : α → α) : Prop where
  looks : ∀ ms ms', (∀ field ∈ r.fields, field.present? ms = field.present? ms') →
    r.read ms = r.read ms'
  spells : ∀ a, ∀ p ∈ r.write a, ∃ field ∈ r.fields, p.1 = field.preferred
  settles : ∀ ms a, r.read ms = .ok a → r.read (r.write a) = .ok (f a)

/-- Every field of one list is apart from every field of the other. -/
def Apart (fields others : List Field) : Prop := ∀ f ∈ fields, ∀ g ∈ others, f.Apart g

instance (fields others : List Field) : Decidable (Apart fields others) :=
  inferInstanceAs (Decidable (∀ f ∈ fields, ∀ g ∈ others, f.Apart g))

variable {c : Codec α} {f : α → α} {g : β → β}

theorem lawful_nothing : nothing.Lawful id := ⟨fun _ _ _ => rfl, fun _ _ mem => absurd mem
  List.not_mem_nil, fun _ _ _ => rfl⟩

theorem lawful_required (h : c.Settles f) (field : Field) : (required field c).Lawful f where
  looks ms ms' same := by
    simp only [required, same field List.mem_cons_self]
  spells a p mem := ⟨field, List.mem_cons_self, congrArg Prod.fst (List.mem_singleton.mp mem)⟩
  settles ms a read := by
    simp only [required, Field.present?_written] at read ⊢
    split at read
    · cases read
    · rw [h _ a (Verdict.under_eq_ok read)]
      rfl

theorem lawful_defaulted (h : c.Settles f) (field : Field) {absent : α}
    (assumed : c.read (c.write absent) = .ok (f absent)) :
    (defaulted field c absent).Lawful f where
  looks ms ms' same := by
    simp only [defaulted, same field List.mem_cons_self]
  spells a p mem := ⟨field, List.mem_cons_self, congrArg Prod.fst (List.mem_singleton.mp mem)⟩
  settles ms a read := by
    simp only [defaulted, Field.present?_written] at read ⊢
    split at read
    · cases read
      rw [assumed]
      rfl
    · rw [h _ a (Verdict.under_eq_ok read)]
      rfl

theorem lawful_optional (h : c.Settles id) (solid : c.Solid) (field : Field) :
    (optional field c).Lawful id where
  looks ms ms' same := by
    simp only [optional, same field List.mem_cons_self]
  spells a p mem := by
    cases a with
    | none => exact absurd mem List.not_mem_nil
    | some a => exact ⟨field, List.mem_cons_self, congrArg Prod.fst (List.mem_singleton.mp mem)⟩
  settles ms a read := by
    cases a with
    | none => rfl
    | some a =>
        simp only [optional, Field.present?_written] at read ⊢
        split at read
        · cases read
        · have again : c.nullable.read (c.write a) = .ok (some a) :=
            h.nullable solid _ (some a) (Verdict.under_eq_ok read)
          rw [again]
          rfl

theorem lawful_constant (field : Field) (value : String) : (constant field value).Lawful id where
  looks ms ms' same := by
    simp only [constant, same field List.mem_cons_self]
  spells a p mem := ⟨field, List.mem_cons_self, congrArg Prod.fst (List.mem_singleton.mp mem)⟩
  settles ms a read := by
    simp only [constant, Field.present?_written, if_true, id_eq]

/-- A field of one record does not see what a record apart from it writes. -/
theorem Lawful.unseen {r : Record α} (h : r.Lawful f) {field : Field}
    (apart : ∀ g ∈ r.fields, g.preferred ≠ field.preferred ∧ g.preferred ≠ field.name) (a : α) :
    field.Unseen (r.write a) := by
  intro p mem
  obtain ⟨g, declared, written⟩ := h.spells a p mem
  rw [written]
  exact apart g declared

theorem Lawful.both {r : Record α} {r' : Record β} (h : r.Lawful f) (h' : r'.Lawful g)
    (apart : Apart r.fields r'.fields) : (r.both r').Lawful (Prod.map f g) where
  looks ms ms' same := by
    have first := h.looks ms ms' fun field mem => same field (List.mem_append_left _ mem)
    have second := h'.looks ms ms' fun field mem => same field (List.mem_append_right _ mem)
    simp only [Record.both, first, second]
  spells a p mem := by
    obtain mem | mem := List.mem_append.mp mem
    · obtain ⟨field, declared, written⟩ := h.spells a.1 p mem
      exact ⟨field, List.mem_append_left _ declared, written⟩
    · obtain ⟨field, declared, written⟩ := h'.spells a.2 p mem
      exact ⟨field, List.mem_append_right _ declared, written⟩
  settles ms a read := by
    obtain ⟨readFirst, readSecond⟩ := Verdict.both_eq_ok read
    -- each half looks past the members of the other one
    have first : r.read (r.write a.1 ++ r'.write a.2) = .ok (f a.1) := by
      rw [h.looks _ (r.write a.1), h.settles ms a.1 readFirst]
      intro field mem
      exact Field.present?_append_left <| h'.unseen (fun g declared =>
        ⟨(apart field mem g declared).1.symm, (apart field mem g declared).2.2.symm⟩) a.2
    have second : r'.read (r.write a.1 ++ r'.write a.2) = .ok (g a.2) := by
      rw [h'.looks _ (r'.write a.2), h'.settles ms a.2 readSecond]
      intro field mem
      exact Field.present?_append_right <| h.unseen (fun g declared =>
        ⟨(apart g declared field mem).1, (apart g declared field mem).2.1⟩) a.1
    simp only [Record.both, first, second]
    rfl

theorem Lawful.iso {r : Record α} (h : r.Lawful f) {there : α → β} {back : β → α} {g : β → β}
    (inverse : ∀ a, back (there a) = a) (moved : ∀ a, there (f a) = g (there a)) :
    (r.iso there back).Lawful g where
  looks ms ms' same := congrArg (Verdict.map there) (h.looks ms ms' same)
  spells b p mem := h.spells (back b) p mem
  settles ms b read := by
    obtain ⟨a, readAs, rfl⟩ := Verdict.map_eq_ok read
    have again := h.settles ms a readAs
    simp only [Record.iso, inverse, again, Verdict.map, moved]

/-- What is written has no member that no field accounts for. -/
theorem Lawful.noExtras_write {r : Record α} (h : r.Lawful f) (a : α) :
    noExtras r.fields (r.write a) = .ok () := by
  have none : extras r.fields (r.write a) = [] := by
    rw [extras, List.filter_eq_nil_iff]
    rintro ⟨k, v⟩ mem
    obtain ⟨field, declared, written⟩ := h.spells a (k, v) mem
    have there : (Json.find? (r.write a) field.preferred).isSome := by
      rw [Json.find?, List.lookup_isSome_iff]
      exact ⟨(k, v), mem, by simpa using written.symm⟩
    obtain ⟨w, found⟩ := Option.isSome_iff_exists.mp there
    have key : k ∈ keys r.fields (r.write a) := by
      refine List.mem_filterMap.mpr ⟨field, declared, ?_⟩
      simp only [Field.present?, found, Option.map_some]
      exact congrArg some written.symm
    simp [key]
  simp only [noExtras, none]

theorem Lawful.codec {r : Record α} (h : r.Lawful f) : r.codec.Settles f := by
  intro v a read
  cases v with
  | obj ms =>
      obtain ⟨p, both, rfl⟩ := Verdict.map_eq_ok read
      have again := h.settles ms p.1 (Verdict.both_eq_ok both).1
      simp only [Record.codec, again, h.noExtras_write p.1]
      rfl
  | null | bool _ | num _ | str _ | arr _ => cases read

theorem solid_codec (r : Record α) : r.codec.Solid := fun _ => Json.noConfusion

end Record

end LaneDuel.Schema
