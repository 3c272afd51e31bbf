/-
# LaneDuel.Proofs.Loose.Names -- what names mean

A library is *derived* when it comes from the standard one by giving names to kinds and
by taking names away, where the word of a kind never comes to mean another kind
(`Library.Derived`).  In a derived library a checked call is built as it is or not at all
(`Derived.build_known`).  An unchecked call by a new name is built from raw members; the
calls *fit* where those have the types that their effects need (`Library.Fits`), and then
whatever is built has an effect on typed data (`Derived.carries`).
-/
import LaneDuel.Proofs.Loose.Perform
import LaneDuel.Proofs.Schema.Calls

namespace LaneDuel.Loose

set_option autoImplicit false

/-! ## Lists of pairs -/

theorem lookup_filter {α : Type} (ps : List (String × α)) (name other : String) :
    (ps.filter (·.1 != name)).lookup other = if other = name then none else ps.lookup other := by
  induction ps with
  | nil => simp
  | cons p ps ih =>
      obtain ⟨key, a⟩ := p
      by_cases met : other = key
      · subst met
        by_cases gone : other = name
        · simpa [gone] using ih
        · simp [gone]
      · have apart : (other == key) = false := beq_eq_false_iff_ne.mpr met
        by_cases gone : key = name
        · subst gone
          simp [List.lookup_cons, ih, met, apart]
        · simp [gone, List.lookup_cons, apart, ih]

theorem eq_map_of_mapM_some {α β : Type} {f : α → Option β} {g : β → α}
    (back : ∀ a b, f a = some b → a = g b) {as : List α} {bs : List β}
    (gathered : as.mapM f = some bs) : as = bs.map g := by
  induction as generalizing bs with
  | nil =>
      cases gathered
      rfl
  | cons a as ih =>
      rw [List.mapM_cons] at gathered
      obtain ⟨b, first, gathered⟩ := Option.bind_eq_some_iff.mp gathered
      obtain ⟨rest, others, whole⟩ := Option.bind_eq_some_iff.mp gathered
      cases whole
      rw [List.map_cons, ← back a b first, ← ih others]

namespace Library

/-! ## Meanings -/

theorem kind?_register (l : Library) (name : String) (k : Option AtomKind) (other : String) :
    (l.register name k).kind? other = if other = name then k else l.kind? other := by
  rw [kind?, register, List.lookup_append, lookup_filter]
  split
  · rename_i same
    rw [same, List.lookup_cons_self]
    rfl
  · rename_i differ
    rw [List.lookup_cons, beq_eq_false_iff_ne.mpr differ, List.lookup_nil, Option.or_none]
    rfl

theorem kind?_unregister (l : Library) (name other : String) :
    (l.unregister name).kind? other = if other = name then none else l.kind? other := by
  rw [kind?, unregister, lookup_filter]
  split <;> rfl

theorem kind?_ofChecked (l : LaneDuel.Library) (k : AtomKind) :
    (ofChecked l).kind? k.word = if l.has k then some k else none := by
  rw [kind?, ofChecked, LaneDuel.Library.has]
  induction l.kinds with
  | nil => rfl
  | cons k' kinds ih =>
      rw [List.map_cons, List.lookup_cons, List.contains_cons]
      cases same : k == k' with
      | true =>
          rw [beq_iff_eq.mp same, beq_self_eq_true]
          rfl
      | false =>
          have apart : (k.word == k'.word) = false := by
            rw [beq_eq_false_iff_ne] at same ⊢
            exact fun words => same (LawfulVocabulary.word_inj k k' words)
          rw [apart]
          exact ih

theorem kind?_apart (l : LaneDuel.Library) {name : String}
    (apart : ∀ k : AtomKind, k.word ≠ name) : (ofChecked l).kind? name = none := by
  have absent : (ofChecked l).names.lookup name = none := by
    rw [List.lookup_eq_none_iff]
    intro p mem
    obtain ⟨k, -, rfl⟩ := List.mem_map.mp mem
    exact bne_iff_ne.mpr (apart k).symm
  rw [kind?, absent]
  rfl

/-! ## Derived libraries -/

/-- A library that comes from the standard one.  Names are given to kinds and taken
away; what is a kind's word means this kind when it is given a meaning again. -/
inductive Derived : Library → Prop
  | standard : Derived .standard
  | register {l : Library} (derived : Derived l) {name : String} {k : AtomKind}
      (own : ∀ k' : AtomKind, k'.word = name → k' = k) : Derived (l.register name (some k))
  | unregister {l : Library} (derived : Derived l) (name : String) : Derived (l.unregister name)

/-- The word of a kind means no other kind. -/
theorem Derived.kind?_word {l : Library} (derived : Derived l) {k k' : AtomKind}
    (means : l.kind? k.word = some k') : k' = k := by
  induction derived with
  | standard =>
      rw [Library.standard, kind?_ofChecked] at means
      split at means
      · cases means
        rfl
      · cases means
  | register derived own ih =>
      rw [kind?_register] at means
      split at means
      · rename_i same
        cases means
        exact (own k same).symm
      · exact ih means
  | unregister derived name ih =>
      rw [kind?_unregister] at means
      split at means
      · cases means
      · exact ih means

/-! ## Building -/

theorem retell_kind (a : Atom) : Meaning.retell a.kind a = some (.checked a) := by
  cases a <;> rfl

/-- What is built of a checked call is the call. -/
theorem Derived.build_known {l : Library} (derived : Derived l) {a : Atom} {x : Executor}
    (built : l.build (.known a) = .ok x) : x = .checked a := by
  rw [build, Call.name] at built
  split at built
  · cases built
  · rename_i k means
    cases derived.kind?_word means
    rw [Meaning.build, retell_kind] at built
    cases built
    rfl

theorem build_unknown {l : Library} {name : String} {ms : List (String × Json)} {x : Executor}
    (built : l.build (.unknown name ms) = .ok x) :
    ∃ k u, l.kind? name = some k ∧ Raw.ofMembers? k ms = some u ∧ x = .unchecked u := by
  rw [build, Call.name] at built
  split at built
  · cases built
  · rename_i k means
    split at built
    · cases built
    · rename_i found
      obtain ⟨u, fits, rfl⟩ := Option.map_eq_some_iff.mp found
      cases built
      exact ⟨k, u, means, fits, rfl⟩

/-- In a checked library a checked call is built as it is, and no other call is. -/
theorem build_ofChecked (l : LaneDuel.Library) {call : Call} (apart : call.Apart) :
    (ofChecked l).build call
      = match l.atom? call with
        | some a => .ok (.checked a)
        | none => .error .unknown := by
  cases call with
  | unknown name ms =>
      rw [build, Call.name, kind?_apart l apart]
      rfl
  | known a =>
      rw [build, Call.name, kind?_ofChecked, LaneDuel.Library.atom?]
      cases l.has a.kind with
      | false => rfl
      | true => simp only [if_true, Meaning.build, retell_kind]

/-- A library that is a checked one gives every kind its own word. -/
theorem eq_of_check? {library : Library} {l : LaneDuel.Library}
    (checked : library.check? = some l) : library = ofChecked l := by
  obtain ⟨kinds, gathered, whole⟩ := Option.bind_eq_some_iff.mp checked
  cases whole
  have own : ∀ p k', (do let k ← p.2; if k.word == p.1 then some k else none) = some k' →
      p = ((k' : AtomKind).word, some k') := by
    rintro ⟨name, k⟩ k' own
    obtain ⟨k, rfl, own⟩ := Option.bind_eq_some_iff.mp own
    split at own
    · rename_i same
      cases own
      have word : k'.word = name := beq_iff_eq.mp same
      rw [word]
    · cases own
  rw [ofChecked, ← eq_map_of_mapM_some own gathered]

/-! ## What effects are told -/

variable (l : Library) (ρ : Type) [RandomSource ρ] (calls : List Call)

/-- Where an unchecked call means a kind and its members are named after the parameters,
they have the types that the effect needs. -/
def Fits : Prop :=
  ∀ name ms, .unknown name ms ∈ calls → ∀ k, l.kind? name = some k →
    ∀ u, Raw.ofMembers? k ms = some u → (u.effect? ρ).isSome

/-- Whatever of some calls can be built has an effect on typed data. -/
def Carries : Prop := ∀ call ∈ calls, ∀ x, l.build call = .ok x → (x.effect? ρ).isSome

variable {l ρ calls}

theorem Derived.carries (derived : Derived l) (fits : l.Fits ρ calls) : l.Carries ρ calls := by
  intro call mem x built
  cases call with
  | known a =>
      rw [derived.build_known built]
      rfl
  | unknown name ms =>
      obtain ⟨k, u, means, told, rfl⟩ := build_unknown built
      exact fits name ms mem k means u told

end Library

end LaneDuel.Loose
