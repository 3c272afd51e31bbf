/-
# LaneDuel.Proofs.Schema.Spelling -- the same document in another spelling

A field goes by two spellings, and two documents may differ in which of them they use.  A
`Leeway` says how far the spelling of a document is free: which documents are respellings of
each other, and which have both spellings of a field in one object.  An object may respell
the fields that it declares, one spelling of each (`Respelled`), and the documents of those
fields as far as their own leeway goes.

A codec `Follows` a leeway if it reads respellings alike and nothing that has both spellings
of a field.  Alike means that they come to equal values, or to the same issues in the same
order at the same places (`SamePlace`): the path of an issue is told in the keys that the
document uses, so it is respelled with it.

* `Record.Follows.codec`: a record follows the leeway of its fields if no key spells two of
  them.  In a respelling the same members count (`counts_respelled`), one after another, so
  the same are looked at and the same are left over.
-/
import Mathlib.Data.List.Find
import Mathlib.Data.List.Forall2
import LaneDuel.Proofs.Schema.Calls

namespace LaneDuel.Schema

set_option autoImplicit false

/-! ## Spellings of a field -/

abbrev Members := List (String × Json)

namespace Field

/-- The key is a spelling of the field. -/
def Spells (f : Field) (key : String) : Prop := key = f.preferred ∨ key = f.name

instance (f : Field) (key : String) : Decidable (f.Spells key) :=
  inferInstanceAs (Decidable (_ ∨ _))

/-- Both spellings of the field stand among some members. -/
structure Doubled (f : Field) (ms : Members) : Prop where
  differ : f.preferred ≠ f.name
  preferred : f.preferred ∈ ms.map Prod.fst
  name : f.name ∈ ms.map Prod.fst

/-- The spelling that counts among some members: the name only where the preferred spelling is
not there. -/
def Counts (f : Field) (ms : Members) (key : String) : Prop :=
  key = f.preferred ∨ key = f.name ∧ f.preferred ∉ ms.map Prod.fst

instance (f : Field) (ms : Members) (key : String) : Decidable (f.Counts ms key) :=
  inferInstanceAs (Decidable (_ ∨ _))

variable {f : Field} {ms : Members}

theorem Counts.spells {key : String} (counts : f.Counts ms key) : f.Spells key :=
  counts.imp_right And.left

/-- Unless both spellings are there, each that is there counts. -/
theorem counts_iff_spells (single : ¬ f.Doubled ms) {key : String} (there : key ∈ ms.map Prod.fst) :
    f.Counts ms key ↔ f.Spells key := by
  refine ⟨Counts.spells, ?_⟩
  rintro (rfl | rfl)
  · exact .inl rfl
  · by_cases same : f.preferred = f.name
    · exact .inl same.symm
    · exact .inr ⟨rfl, fun preferred => single ⟨same, preferred, there⟩⟩

theorem find?_key (ms : Members) (key : String) :
    ms.find? (fun p => p.1 == key) = (Json.find? ms key).map fun v => (key, v) := by
  induction ms with
  | nil => rfl
  | cons p ms ih =>
      obtain ⟨k, v⟩ := p
      by_cases here : k = key
      · simp [Json.find?, here]
      · have other : (key == k) = false := beq_eq_false_iff_ne.mpr (Ne.symm here)
        simpa [Json.find?, List.lookup_cons, here, other] using ih

theorem find?_eq_none_iff {key : String} : Json.find? ms key = none ↔ key ∉ ms.map Prod.fst := by
  simp only [Json.find?, List.lookup_eq_none_iff, bne_iff_ne, List.mem_map, not_exists, not_and]
  exact forall₂_congr fun p _ => ne_comm

theorem mem_keys_of_find? {key : String} {v : Json} (found : Json.find? ms key = some v) :
    key ∈ ms.map Prod.fst := by
  by_contra missing
  cases (find?_eq_none_iff.mpr missing).symm.trans found

/-- The member of a field is the first whose key counts. -/
theorem present?_eq_find? : f.present? ms = ms.find? fun p => decide (f.Counts ms p.1) := by
  rw [present?]
  cases found : Json.find? ms f.preferred with
  | some v =>
      have there := mem_keys_of_find? found
      have counts : (fun p : String × Json => decide (f.Counts ms p.1))
          = fun p => p.1 == f.preferred := by
        funext p
        simp [Counts, there, beq_eq_decide]
      rw [counts, find?_key, found]
      rfl
  | none =>
      have missing := find?_eq_none_iff.mp found
      have counts : ∀ p ∈ ms, decide (f.Counts ms p.1) = (p.1 == f.name) := by
        intro p mem
        have other : p.1 ≠ f.preferred := fun same => missing (same ▸ List.mem_map_of_mem mem)
        simp [Counts, other, missing, beq_eq_decide]
      rw [List.find?_congr counts, find?_key]

theorem counts_of_present? {p : String × Json} (found : f.present? ms = some p) :
    p ∈ ms ∧ f.Counts ms p.1 := by
  rw [present?_eq_find?] at found
  exact ⟨List.mem_of_find?_eq_some found, by simpa using List.find?_some found⟩

theorem present?_of_find? (single : ¬ f.Doubled ms) {key : String} (spells : f.Spells key)
    {v : Json} (found : Json.find? ms key = some v) : f.present? ms = some (key, v) := by
  rw [present?]
  cases preferred : Json.find? ms f.preferred with
  | some w =>
      obtain rfl : f.preferred = key := by
        obtain rfl | rfl := spells
        · rfl
        · by_contra differ
          exact single ⟨differ, mem_keys_of_find? preferred, mem_keys_of_find? found⟩
      rw [preferred] at found
      rw [Option.some.inj found]
  | none =>
      obtain rfl : key = f.name := by
        refine spells.resolve_left ?_
        rintro rfl
        cases preferred.symm.trans found
      rw [found]
      rfl

/-- One spelling counts. -/
theorem Counts.unique {key key' : String} (counts : f.Counts ms key) (counts' : f.Counts ms key')
    (there : key ∈ ms.map Prod.fst) (there' : key' ∈ ms.map Prod.fst) : key = key' := by
  obtain rfl | ⟨rfl, missing⟩ := counts <;> obtain rfl | ⟨rfl, missing'⟩ := counts'
  · rfl
  · exact absurd there missing'
  · exact absurd there' missing
  · rfl

end Field

/-- No key spells two of the fields. -/
def Separate (fields : List Field) : Prop :=
  ∀ f ∈ fields, ∀ g ∈ fields, f = g ∨ ¬ f.Spells g.preferred ∧ ¬ f.Spells g.name

instance (fields : List Field) : Decidable (Separate fields) :=
  inferInstanceAs (Decidable (∀ f ∈ fields, ∀ g ∈ fields, _))

theorem Separate.unique {fields : List Field} (separate : Separate fields) {f g : Field}
    (declared : f ∈ fields) (declared' : g ∈ fields) {key : String} (spells : f.Spells key)
    (spells' : g.Spells key) : f = g := by
  obtain same | ⟨preferred, name⟩ := separate f declared g declared'
  · exact same
  · obtain rfl | rfl := spells'
    · exact absurd spells preferred
    · exact absurd spells name

/-! ## Places in two documents -/

/-- The paths lead to the same place in two documents: the same items of lists, and members of
objects that stand at the same position.  A call names its tag on the way. -/
inductive SamePlace : Json → Json → List Step → List Step → Prop where
  | same (v : Json) (path : List Step) : SamePlace v v path path
  | here (v v' : Json) : SamePlace v v' [] []
  | item {vs vs' : List Json} {n : Nat} {w w' : Json} {p p' : List Step} (left : vs[n]? = some w)
    (right : vs'[n]? = some w') (rest : SamePlace w w' p p') :
    SamePlace (.arr vs) (.arr vs') (.index n :: p) (.index n :: p')
  | member {ms ms' : Members} {k k' : String} {w w' : Json} {p p' : List Step}
    (paired : ((k, w), (k', w')) ∈ ms.zip ms') (rest : SamePlace w w' p p') :
    SamePlace (.obj ms) (.obj ms') (.key k :: p) (.key k' :: p')
  | absent {ms ms' : Members} {k : String} (left : Json.find? ms k = none)
    (right : Json.find? ms' k = none) : SamePlace (.obj ms) (.obj ms') [.key k] [.key k]
  | tag {v v' : Json} {name : String} {p p' : List Step} (named : v.get? "atom" = some (.str name))
    (rest : SamePlace v v' p p') : SamePlace v v' (.key name :: p) (.key name :: p')

/-- Two issues of the same kind at the same place. -/
structure Issue.Alike (v v' : Json) (i i' : Issue) : Prop where
  kind : i.kind = i'.kind
  place : SamePlace v v' i.path i'.path

/-- Two documents come to the same: to equal values, to the same issues in the same order at
the same places, or to nothing. -/
inductive Verdict.Agree {α : Type} (v v' : Json) : Verdict α → Verdict α → Prop where
  | ok (a : α) : Agree v v' (.ok a) (.ok a)
  | refused {is is' : List Issue} (alike : List.Forall₂ (Issue.Alike v v') is is') :
    Agree v v' (.refused is) (.refused is')
  | untenable : Agree v v' .untenable .untenable

namespace Verdict.Agree

variable {α β : Type} {v v' w w' : Json} {x x' : Verdict α} {y y' : Verdict β}

theorem refl (v : Json) (x : Verdict α) : Agree v v x x := by
  cases x with
  | ok a => exact .ok a
  | refused is => exact .refused (List.forall₂_same.mpr fun i _ => ⟨rfl, .same v i.path⟩)
  | untenable => exact .untenable

theorem map (h : Agree v v' x x') (f : α → β) : Agree v v' (x.map f) (x'.map f) := by
  cases h with
  | ok a => exact .ok (f a)
  | refused alike => exact .refused alike
  | untenable => exact .untenable

theorem both (h : Agree v v' x x') (h' : Agree v v' y y') :
    Agree v v' (x.both y) (x'.both y') := by
  cases h with
  | ok a =>
      cases h' with
      | ok b => exact .ok (a, b)
      | refused alike => exact .refused alike
      | untenable => exact .untenable
  | refused alike =>
      cases h' with
      | ok b => exact .refused alike
      | refused alike' => exact .refused (List.rel_append alike alike')
      | untenable => exact .untenable
  | untenable => exact .untenable

/-- What two parts come to, told of the documents in which they stand at the same place. -/
theorem under (h : Agree w w' x x') {s s' : Step}
    (leads : ∀ p p', SamePlace w w' p p' → SamePlace v v' (s :: p) (s' :: p')) :
    Agree v v' (x.under s) (x'.under s') := by
  cases h with
  | ok a => exact .ok a
  | refused alike =>
      refine .refused ?_
      rw [List.forall₂_map_left_iff, List.forall₂_map_right_iff]
      exact alike.imp fun _ _ i => ⟨i.kind, leads _ _ i.place⟩
  | untenable => exact .untenable

theorem ok_iff (h : Agree v v' x x') (a : α) : x = .ok a ↔ x' = .ok a := by
  cases h <;> simp

theorem untenable_iff (h : Agree v v' x x') : x = .untenable ↔ x' = .untenable := by
  cases h <;> simp

theorem exists_refused (h : Agree v v' x x') {is : List Issue} (refused : x = .refused is) :
    ∃ is', x' = .refused is' ∧ List.Forall₂ (Issue.Alike v v') is is' := by
  subst refused
  cases h with
  | refused alike => exact ⟨_, rfl, alike⟩

end Verdict.Agree

/-! ## Leeways -/

/-- A related pair of members: the same member, or a field that is declared, in the same
spelling unless only one is used, its documents related in turn. -/
inductive Respelled (fields : List Field) (inside : Field → Json → Json → Prop)
    (ms ms' : Members) : String × Json → String × Json → Prop where
  | kept (p : String × Json) : Respelled fields inside ms ms' p p
  | declared {f : Field} {k k' : String} {w w' : Json} (declared : f ∈ fields) (spells : f.Spells k)
    (spells' : f.Spells k') (single : k = k' ∨ ¬ f.Doubled ms ∧ ¬ f.Doubled ms')
    (within : inside f w w') : Respelled fields inside ms ms' (k, w) (k', w')

/-- How far the spelling of a document is free. -/
structure Leeway where
  Respells : Json → Json → Prop
  Doubles : Json → Prop
  refl : ∀ v, Respells v v
  null : ∀ v v', Respells v v' → (v = .null ↔ v' = .null)
  solid : ¬ Doubles .null

namespace Leeway

/-- No other spelling. -/
def none : Leeway where
  Respells := Eq
  Doubles _ := False
  refl _ := rfl
  null := by
    rintro v _ rfl
    rfl
  solid := id

/-- The spelling of the fields that an object declares. -/
def object (fields : List Field) (inside : Field → Leeway) : Leeway where
  Respells v v' := v = v' ∨ ∃ ms ms', v = .obj ms ∧ v' = .obj ms' ∧
    List.Forall₂ (Respelled fields (fun f => (inside f).Respells) ms ms') ms ms'
  Doubles v := ∃ ms, v = .obj ms ∧ ∃ f ∈ fields, f.Doubled ms ∨
    ∃ key w, f.Spells key ∧ Json.find? ms key = some w ∧ (inside f).Doubles w
  refl _ := .inl rfl
  null := by
    rintro v v' (rfl | ⟨ms, ms', rfl, rfl, -⟩)
    · rfl
    · simp
  solid := by
    rintro ⟨ms, isObject, -⟩
    cases isObject

/-- The spelling of each item of a list. -/
def list (l : Leeway) : Leeway where
  Respells v v' := v = v' ∨ ∃ vs vs', v = .arr vs ∧ v' = .arr vs' ∧ List.Forall₂ l.Respells vs vs'
  Doubles v := ∃ vs, v = .arr vs ∧ ∃ w ∈ vs, l.Doubles w
  refl _ := .inl rfl
  null := by
    rintro v v' (rfl | ⟨vs, vs', rfl, rfl, -⟩)
    · rfl
    · simp
  solid := by
    rintro ⟨vs, isList, -⟩
    cases isList

end Leeway

/-- The codec reads respellings alike, and nothing that has both spellings of a field. -/
structure Codec.Follows {α : Type} (c : Codec α) (l : Leeway) : Prop where
  agrees : ∀ v v', l.Respells v v' → (c.read v).Agree v v' (c.read v')
  single : ∀ v, l.Doubles v → ∀ a, c.read v ≠ .ok a

namespace Codec

variable {α : Type} {c : Codec α} {l : Leeway}

theorem follows_none (c : Codec α) : c.Follows .none where
  agrees := by
    rintro v _ rfl
    exact .refl v (c.read v)
  single _ doubles := doubles.elim

theorem nullable_read {v : Json} (value : v ≠ .null) :
    c.nullable.read v = (c.read v).map some := by
  cases v with
  | null => exact absurd rfl value
  | bool _ | num _ | str _ | arr _ | obj _ => rfl

theorem Follows.nullable (h : c.Follows l) : c.nullable.Follows l where
  agrees v v' respells := by
    by_cases null : v = .null
    · obtain rfl := (l.null v v' respells).mp null
      subst null
      exact .refl _ _
    · have null' : v' ≠ .null := mt (l.null v v' respells).mpr null
      rw [nullable_read null, nullable_read null']
      exact (h.agrees v v' respells).map some
  single v doubles a read := by
    have value : v ≠ .null := fun null => l.solid (null ▸ doubles)
    rw [nullable_read value] at read
    obtain ⟨b, read, -⟩ := Verdict.map_eq_ok read
    exact h.single v doubles b read

/-- Some items of a list, and those of the other list from the same position on. -/
theorem Follows.readItems (h : c.Follows l) {all all' vs vs' : List Json}
    (respelled : List.Forall₂ l.Respells vs vs') {start : Nat}
    (left : ∀ n, vs[n]? = all[start + n]?) (right : ∀ n, vs'[n]? = all'[start + n]?) :
    Verdict.Agree (.arr all) (.arr all') (.all (readItems c start vs))
      (.all (readItems c start vs')) := by
  induction respelled generalizing start with
  | nil => exact .ok []
  | @cons w w' vs vs' first _ ih =>
      have first : Verdict.Agree (.arr all) (.arr all') ((c.read w).under (.index start))
          ((c.read w').under (.index start)) :=
        (h.agrees w w' first).under fun _ _ place => .item (left 0).symm (right 0).symm place
      have left' : ∀ n, vs[n]? = all[start + 1 + n]? := fun n => by
        simpa [Nat.add_assoc, Nat.add_comm 1] using left (n + 1)
      have right' : ∀ n, vs'[n]? = all'[start + 1 + n]? := fun n => by
        simpa [Nat.add_assoc, Nat.add_comm 1] using right (n + 1)
      have rest := ih left' right'
      exact (first.both rest).map _

theorem exists_of_all_readItems {vs : List Json} {start : Nat} {as : List α}
    (read : Verdict.all (Codec.readItems c start vs) = .ok as) : ∀ v ∈ vs, ∃ a, c.read v = .ok a := by
  induction vs generalizing start as with
  | nil => exact fun v mem => absurd mem List.not_mem_nil
  | cons v vs ih =>
      obtain ⟨⟨first, rest⟩, both, rfl⟩ := Verdict.map_eq_ok read
      obtain ⟨readFirst, readRest⟩ := Verdict.both_eq_ok both
      exact List.forall_mem_cons.mpr ⟨⟨first, Verdict.under_eq_ok readFirst⟩, ih readRest⟩

theorem Follows.list (h : c.Follows l) : (Codec.list c).Follows l.list where
  agrees v v' respells := by
    obtain rfl | ⟨vs, vs', rfl, rfl, items⟩ := respells
    · exact .refl _ _
    · exact h.readItems items (fun n => by rw [Nat.zero_add]) fun n => by rw [Nat.zero_add]
  single v doubles as read := by
    obtain ⟨vs, rfl, w, mem, doubles⟩ := doubles
    obtain ⟨a, read⟩ := exists_of_all_readItems read w mem
    exact h.single w doubles a read

end Codec

/-! ## Fields -/

namespace Field

variable {α : Type}

/-- The field is left out of some members and of others, or its members stand at the same
position and their documents are respellings. -/
inductive SeenAlike (f : Field) (l : Leeway) (ms ms' : Members) : Prop where
  | absent (left : f.present? ms = none) (right : f.present? ms' = none)
  | there {k k' : String} {w w' : Json} (left : f.present? ms = some (k, w))
    (right : f.present? ms' = some (k', w')) (paired : ((k, w), (k', w')) ∈ ms.zip ms')
    (respells : l.Respells w w')

/-- What a field comes to, `absent` where it is left out. -/
def judge (f : Field) (c : Codec α) (absent : Verdict α) (ms : Members) : Verdict α :=
  match f.present? ms with
  | none => absent
  | some (k, v) => (c.read v).under (.key k)

variable {f : Field} {c : Codec α} {l : Leeway} {ms ms' : Members}

theorem judge_agrees (h : c.Follows l) (seen : f.SeenAlike l ms ms') {absent : Verdict α}
    (same : f.present? ms = none → f.present? ms' = none →
      Verdict.Agree (.obj ms) (.obj ms') absent absent) :
    Verdict.Agree (.obj ms) (.obj ms') (f.judge c absent ms) (f.judge c absent ms') := by
  cases seen with
  | absent left right =>
      simp only [judge, left, right]
      exact same left right
  | there left right paired respells =>
      simp only [judge, left, right]
      exact (h.agrees _ _ respells).under fun _ _ place => .member paired place

theorem judge_ne_ok (h : c.Follows l) {k : String} {w : Json} (there : f.present? ms = some (k, w))
    (doubles : l.Doubles w) (absent : Verdict α) (a : α) : f.judge c absent ms ≠ .ok a := by
  intro read
  simp only [judge, there] at read
  exact h.single w doubles a (Verdict.under_eq_ok read)

theorem present?_plain (name : String) (ms : Members) :
    (plain name).present? ms = (Json.find? ms name).map fun v => (name, v) := by
  simp only [present?, plain]
  cases Json.find? ms name <;> rfl

theorem find?_of_present?_none (missing : f.present? ms = none) :
    Json.find? ms f.preferred = none := by
  cases found : Json.find? ms f.preferred with
  | none => rfl
  | some v =>
      rw [present?, found] at missing
      cases missing

end Field

/-! ## Records -/

/-- The record reads members alike whose fields are seen alike, and no member of a field that
has both spellings of a field of its own. -/
structure Record.Follows {α : Type} (r : Record α) (inside : Field → Leeway) : Prop where
  agrees : ∀ ms ms', (∀ f ∈ r.fields, f.SeenAlike (inside f) ms ms') →
    Verdict.Agree (.obj ms) (.obj ms') (r.read ms) (r.read ms')
  single : ∀ ms, ∀ f ∈ r.fields, ∀ k w, f.present? ms = some (k, w) → (inside f).Doubles w →
    ∀ a, r.read ms ≠ .ok a

namespace Record

variable {α β : Type} {c : Codec α} {l : Leeway} {inside : Field → Leeway} {f : Field}

theorem follows_nothing : nothing.Follows inside where
  agrees _ _ _ := .ok ()
  single _ _ mem := absurd mem List.not_mem_nil

/-- A record of one field, `absent` where it is left out. -/
theorem follows_of_judge {r : Record α} {absent : Verdict α} (one : r.fields = [f])
    (judges : ∀ ms, r.read ms = f.judge c absent ms) (h : c.Follows (inside f))
    (same : ∀ {ms ms' : Members}, f.present? ms = none → f.present? ms' = none →
      Verdict.Agree (.obj ms) (.obj ms') absent absent) : r.Follows inside where
  agrees _ _ seen := by
    rw [one, List.forall_mem_singleton] at seen
    rw [judges, judges]
    exact Field.judge_agrees h seen same
  single ms := by
    rw [one, List.forall_mem_singleton]
    intro k w there doubles a
    rw [judges]
    exact Field.judge_ne_ok h there doubles absent a

theorem follows_required (h : c.Follows l) (here : inside f = l) :
    (required f c).Follows inside := by
  refine follows_of_judge rfl (fun _ => rfl) (here ▸ h) fun left right => ?_
  have place := SamePlace.absent (Field.find?_of_present?_none left)
    (Field.find?_of_present?_none right)
  exact .refused (.cons ⟨rfl, place⟩ .nil)

theorem follows_defaulted (h : c.Follows l) (here : inside f = l) (absent : α) :
    (defaulted f c absent).Follows inside :=
  follows_of_judge rfl (fun _ => rfl) (here ▸ h) fun _ _ => .ok absent

theorem follows_optional (h : c.Follows l) (here : inside f = l) :
    (optional f c).Follows inside :=
  follows_of_judge rfl (fun _ => rfl) (here ▸ h.nullable) fun _ _ => .ok Option.none

/-- The one value of a constant field. -/
def literal (value : String) : Codec Unit where
  read
    | .str s => if s = value then .ok () else .fault .notLiteral
    | _ => .fault .notLiteral
  write _ := .str value

theorem follows_constant (here : inside f = .none) (value : String) :
    (constant f value).Follows inside := by
  have judges : ∀ ms, (constant f value).read ms = f.judge (literal value) (.ok ()) ms := by
    intro ms
    simp only [constant, Field.judge]
    cases f.present? ms with
    | none => rfl
    | some p =>
        obtain ⟨k, v⟩ := p
        cases v with
        | str s =>
            simp only [literal]
            split <;> rfl
        | null | bool _ | num _ | arr _ | obj _ => rfl
  exact follows_of_judge rfl judges (here ▸ (literal value).follows_none) fun _ _ => .ok ()

theorem Follows.both {r : Record α} {r' : Record β} (h : r.Follows inside)
    (h' : r'.Follows inside) : (r.both r').Follows inside where
  agrees ms ms' seen := by
    obtain ⟨first, second⟩ := List.forall_mem_append.mp seen
    exact (h.agrees ms ms' first).both (h'.agrees ms ms' second)
  single ms f mem k w there doubles p read := by
    obtain ⟨readFirst, readSecond⟩ := Verdict.both_eq_ok read
    obtain mem | mem := List.mem_append.mp mem
    · exact h.single ms f mem k w there doubles p.1 readFirst
    · exact h'.single ms f mem k w there doubles p.2 readSecond

theorem Follows.iso {r : Record α} (h : r.Follows inside) (there : α → β) (back : β → α) :
    (r.iso there back).Follows inside where
  agrees ms ms' seen := (h.agrees ms ms' seen).map there
  single ms f mem k w found doubles b read := by
    obtain ⟨a, read, -⟩ := Verdict.map_eq_ok read
    exact h.single ms f mem k w found doubles a read

end Record

/-! ## Objects -/

theorem rel_find? {α β : Type} {R : α → β → Prop} {P : α → Bool} {Q : β → Bool} {as : List α}
    {bs : List β} (related : List.Forall₂ R as bs) (same : ∀ a b, R a b → P a = Q b) :
    Option.Rel R (as.find? P) (bs.find? Q) := by
  induction related with
  | nil => exact .none
  | @cons a b as bs first _ ih =>
      rw [List.find?_cons, List.find?_cons, same a b first]
      cases Q b with
      | true => exact .some first
      | false => exact ih

theorem exists_mem_iff {α β : Type} {R : α → β → Prop} {P : α → Prop} {Q : β → Prop} {as : List α}
    {bs : List β} (related : List.Forall₂ R as bs) (same : ∀ a b, R a b → (P a ↔ Q b)) :
    (∃ a ∈ as, P a) ↔ ∃ b ∈ bs, Q b := by
  induction related with
  | nil => simp
  | cons first _ ih => simp only [List.exists_mem_cons_iff, same _ _ first, ih]

namespace Respelled

variable {fields : List Field} {within : Field → Json → Json → Prop} {ms ms' : Members}
  {p p' : String × Json} {f : Field}

theorem spells_iff (separate : Separate fields) (h : Respelled fields within ms ms' p p')
    (mem : f ∈ fields) : f.Spells p.1 ↔ f.Spells p'.1 := by
  cases h with
  | kept p => rfl
  | declared declared spells spells' _ _ =>
      constructor
      · intro first
        obtain rfl := separate.unique mem declared first spells
        exact spells'
      · intro second
        obtain rfl := separate.unique mem declared second spells'
        exact spells

/-- A field of which both spellings are used is not respelled. -/
theorem key_iff_of_doubled (separate : Separate fields)
    (h : Respelled fields within ms ms' p p') (mem : f ∈ fields)
    (doubled : f.Doubled ms ∨ f.Doubled ms') {key : String} (spells : f.Spells key) :
    p.1 = key ↔ p'.1 = key := by
  have same : f.Spells p.1 → p.1 = p'.1 := by
    intro first
    cases h with
    | kept p => rfl
    | declared declared spells' _ single _ =>
        obtain rfl := separate.unique mem declared first spells'
        exact single.resolve_right fun neither => doubled.elim neither.1 neither.2
  constructor
  · intro first
    rw [← same (first ▸ spells), first]
  · intro second
    rw [same ((h.spells_iff separate mem).mpr (second ▸ spells)), second]

theorem within_of_spells (separate : Separate fields)
    (h : Respelled fields within ms ms' p p') (mem : f ∈ fields) (spells : f.Spells p.1)
    (refl : ∀ v, within f v v) : within f p.2 p'.2 := by
  cases h with
  | kept p => exact refl p.2
  | declared declared spells' _ _ related =>
      obtain rfl := separate.unique mem declared spells spells'
      exact related

end Respelled

section Objects

variable {fields : List Field} {inside : Field → Leeway} {ms ms' : Members}

/-- The members of the same position, each pair respelled. -/
abbrev Paired (fields : List Field) (inside : Field → Leeway) (ms ms' : Members)
    (p p' : String × Json) : Prop :=
  (p, p') ∈ ms.zip ms' ∧ Respelled fields (fun f => (inside f).Respells) ms ms' p p'

theorem forall₂_paired
    (respelled : List.Forall₂ (Respelled fields (fun f => (inside f).Respells) ms ms') ms ms') :
    List.Forall₂ (Paired fields inside ms ms') ms ms' :=
  List.forall₂_iff_zip.mpr
    ⟨respelled.length_eq, fun mem => ⟨mem, (List.forall₂_iff_zip.mp respelled).2 mem⟩⟩

variable (separate : Separate fields)
  (respelled : List.Forall₂ (Paired fields inside ms ms') ms ms')

include separate respelled

/-- **What counts.**  In a respelling the same members count for a field. -/
theorem counts_respelled {f : Field} (mem : f ∈ fields) {p p' : String × Json}
    (pair : Paired fields inside ms ms' p p') : f.Counts ms p.1 ↔ f.Counts ms' p'.1 := by
  by_cases doubled : f.Doubled ms ∨ f.Doubled ms'
  -- with both spellings in use the field keeps its keys, and the same spelling is preferred
  · have keys : ∀ q q', Paired fields inside ms ms' q q' → ∀ key, f.Spells key →
        (q.1 = key ↔ q'.1 = key) :=
      fun q q' pair key spells => pair.2.key_iff_of_doubled separate mem doubled spells
    have preferred : f.preferred ∈ ms.map Prod.fst ↔ f.preferred ∈ ms'.map Prod.fst := by
      simp only [List.mem_map]
      exact exists_mem_iff respelled fun q q' pair => keys q q' pair _ (.inl rfl)
    rw [Field.Counts, Field.Counts, keys p p' pair _ (.inl rfl), keys p p' pair _ (.inr rfl),
      preferred]
  -- with one in use it counts, whichever it is
  · rw [not_or] at doubled
    obtain ⟨left, right⟩ := List.of_mem_zip pair.1
    rw [Field.counts_iff_spells doubled.1 (List.mem_map_of_mem left),
      Field.counts_iff_spells doubled.2 (List.mem_map_of_mem right),
      pair.2.spells_iff separate mem]

/-- A declared field is seen alike in a respelling. -/
theorem seenAlike_of_respelled {f : Field} (mem : f ∈ fields) :
    f.SeenAlike (inside f) ms ms' := by
  have found := rel_find? (P := fun p => decide (f.Counts ms p.1))
    (Q := fun p => decide (f.Counts ms' p.1)) respelled fun p p' pair =>
      decide_eq_decide.mpr (counts_respelled separate respelled mem pair)
  rw [← Field.present?_eq_find?, ← Field.present?_eq_find?] at found
  generalize left : f.present? ms = seen at found
  generalize right : f.present? ms' = seen' at found
  cases found with
  | none => exact .absent left right
  | some pair =>
      have spells := (Field.counts_of_present? left).2.spells
      exact .there left right pair.1
        (pair.2.within_of_spells separate mem spells (inside f).refl)

end Objects

namespace Record

variable {fields : List Field} {inside : Field → Leeway} {ms ms' : Members}

theorem mem_keys_iff {p : String × Json} (mem : p ∈ ms) :
    p.1 ∈ keys fields ms ↔ ∃ f ∈ fields, f.Counts ms p.1 := by
  have there : p.1 ∈ ms.map Prod.fst := List.mem_map_of_mem mem
  simp only [keys, List.mem_filterMap, Option.map_eq_some_iff]
  refine exists_congr fun f => and_congr_right fun _ => ?_
  constructor
  · rintro ⟨q, found, same⟩
    exact same ▸ (Field.counts_of_present? found).2
  · intro counts
    cases found : f.present? ms with
    | none =>
        rw [Field.present?_eq_find?, List.find?_eq_none] at found
        exact absurd (decide_eq_true counts) (found p mem)
    | some q =>
        obtain ⟨mem', counts'⟩ := Field.counts_of_present? found
        exact ⟨q, rfl, counts'.unique counts (List.mem_map_of_mem mem') there⟩

theorem extras_eq_filter :
    extras fields ms = ms.filter fun p => decide (¬ ∃ f ∈ fields, f.Counts ms p.1) := by
  refine List.filter_congr fun p mem => ?_
  rw [Bool.eq_iff_iff, Bool.not_eq_true', decide_eq_true_iff, ← mem_keys_iff mem]
  simp

/-- The same members are left over in a respelling. -/
theorem noExtras_respelled (separate : Separate fields)
    (respelled : List.Forall₂ (Paired fields inside ms ms') ms ms') :
    Verdict.Agree (.obj ms) (.obj ms') (noExtras fields ms) (noExtras fields ms') := by
  have spare : List.Forall₂ (Paired fields inside ms ms') (extras fields ms) (extras fields ms') := by
    rw [extras_eq_filter, extras_eq_filter]
    refine List.rel_filter (fun p p' pair => ?_) respelled
    simp only [decide_eq_true_iff]
    exact not_congr (exists_congr fun f => and_congr_right fun mem =>
      counts_respelled separate respelled mem pair)
  rw [noExtras, noExtras]
  generalize extras fields ms = more at spare
  generalize extras fields ms' = more' at spare
  cases spare with
  | nil => exact .ok ()
  | cons first rest =>
      refine .refused ?_
      rw [List.forall₂_map_left_iff, List.forall₂_map_right_iff]
      exact (List.Forall₂.cons first rest).imp fun p p' pair =>
        ⟨rfl, .member pair.1 (.here p.2 p'.2)⟩

/-- Of two spellings of a field one is left over. -/
theorem noExtras_of_doubled (separate : Separate fields) {f : Field} (mem : f ∈ fields)
    (doubled : f.Doubled ms) : noExtras fields ms ≠ .ok () := by
  obtain ⟨p, there, name⟩ := List.mem_map.mp doubled.name
  have spare : p ∈ extras fields ms := by
    rw [extras_eq_filter, List.mem_filter, decide_eq_true_iff]
    refine ⟨there, ?_⟩
    rintro ⟨g, declared, counts⟩
    rw [name] at counts
    obtain rfl := separate.unique declared mem counts.spells (.inr rfl)
    obtain same | ⟨-, missing⟩ := counts
    · exact doubled.differ same.symm
    · exact missing doubled.preferred
  intro none
  rw [noExtras] at none
  split at none
  · rename_i empty
    rw [empty] at spare
    exact absurd spare List.not_mem_nil
  · cases none

variable {α : Type} {r : Record α}

theorem Follows.codec (h : r.Follows inside) (separate : Separate r.fields) :
    r.codec.Follows (.object r.fields inside) where
  agrees v v' respells := by
    obtain rfl | ⟨ms, ms', rfl, rfl, respelled⟩ := respells
    · exact .refl _ _
    · have paired := forall₂_paired respelled
      have fields := h.agrees ms ms' fun f mem => seenAlike_of_respelled separate paired mem
      exact (fields.both (noExtras_respelled separate paired)).map Prod.fst
  single v doubles a read := by
    obtain ⟨ms, rfl, f, mem, doubles⟩ := doubles
    obtain ⟨⟨b, _⟩, both, rfl⟩ := Verdict.map_eq_ok read
    obtain ⟨readFields, none⟩ := Verdict.both_eq_ok both
    by_cases doubled : f.Doubled ms
    · exact noExtras_of_doubled separate mem doubled none
    · obtain ⟨key, w, spells, found, doubles⟩ := doubles.resolve_left doubled
      exact h.single ms f mem key w (Field.present?_of_find? doubled spells found) doubles b
        readFields

end Record

end LaneDuel.Schema
