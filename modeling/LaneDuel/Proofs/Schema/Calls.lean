/-
# LaneDuel.Proofs.Schema.Calls -- what a validated catalog can ask for

A reader `Yields` a property when everything it reads has it.  Readers of lists, fields
and records pass on what the readers of their parts yield, so a property of calls is one
of every entry of a catalog that was read (`Catalog.yields_of_ofMembers`).

The property at hand is `Call.Apart`: a call whose parameters were not checked is made by
a name that is no kind's word.
-/
import Mathlib.Data.List.Nodup
import LaneDuel.Catalog.Basic

namespace LaneDuel

set_option autoImplicit false

/-! ## Words of kinds -/

instance : LawfulVocabulary AtomKind where
  mem_members k := by cases k <;> decide
  word_inj k k' same := by
    have words : (AtomKind.all.map AtomKind.word).Nodup := by decide
    have all : ∀ k : AtomKind, k ∈ AtomKind.all := fun k => by cases k <;> decide
    exact List.inj_on_of_nodup_map words (all k) (all k') same

/-! ## Readers -/

theorem Except.bind_eq_ok {ε α β : Type} {x : Except ε α} {f : α → Except ε β} {b : β}
    (h : (x >>= f) = .ok b) : ∃ a, x = .ok a ∧ f a = .ok b := by
  cases x with
  | error e => cases h
  | ok a => exact ⟨a, rfl, h⟩

theorem Except.bind_eq_error {ε α β : Type} {x : Except ε α} {f : α → Except ε β} {e : ε}
    (h : (x >>= f) = .error e) : x = .error e ∨ ∃ a, x = .ok a ∧ f a = .error e := by
  cases x with
  | error e' =>
      cases h
      exact .inl rfl
  | ok a => exact .inr ⟨a, rfl, h⟩

section Lists

variable {ε α β : Type} {f : α → Except ε β}

theorem mapM_eq_ok_map {g : α → β} {as : List α} (each : ∀ a ∈ as, f a = .ok (g a)) :
    as.mapM f = .ok (as.map g) := by
  induction as with
  | nil => rfl
  | cons a as ih =>
      rw [List.mapM_cons, each a List.mem_cons_self,
        ih fun a mem => each a (List.mem_cons_of_mem _ mem)]
      rfl

/-- What was written item by item is read item by item. -/
theorem mapM_map_eq_ok {g : β → α} {bs : List β} (each : ∀ b ∈ bs, f (g b) = .ok b) :
    (bs.map g).mapM f = .ok bs := by
  rw [List.mapM_map, mapM_eq_ok_map (f := f ∘ g) (g := id) each, List.map_id]

theorem forall₂_of_mapM_eq_ok {as : List α} {bs : List β} (h : as.mapM f = .ok bs) :
    List.Forall₂ (fun a b => f a = .ok b) as bs := by
  induction as generalizing bs with
  | nil =>
      cases h
      exact .nil
  | cons a as ih =>
      rw [List.mapM_cons] at h
      obtain ⟨b, first, h⟩ := Except.bind_eq_ok h
      obtain ⟨rest, others, h⟩ := Except.bind_eq_ok h
      cases h
      exact .cons first (ih others)

/-- What every reading has, all that was read has. -/
theorem forall_mem_of_mapM_eq_ok {P : β → Prop} (yields : ∀ a b, f a = .ok b → P b)
    {as : List α} {bs : List β} (h : as.mapM f = .ok bs) : ∀ b ∈ bs, P b := by
  have read := forall₂_of_mapM_eq_ok h
  clear h
  induction read with
  | nil => exact fun b mem => absurd mem List.not_mem_nil
  | cons first _ ih => exact List.forall_mem_cons.mpr ⟨yields _ _ first, ih⟩

/-- A run of steps fails in its first step that does. -/
theorem foldlM_eq_error {σ : Type} {step : σ → α → Except ε σ} {as : List α} {s : σ} {e : ε}
    (h : as.foldlM step s = .error e) :
    ∃ before a after t, as = before ++ a :: after ∧ before.foldlM step s = .ok t ∧
      step t a = .error e := by
  induction as generalizing s with
  | nil => cases h
  | cons a as ih =>
      rw [List.foldlM_cons] at h
      obtain here | ⟨next, stepped, later⟩ := Except.bind_eq_error h
      · exact ⟨[], a, as, s, rfl, rfl, here⟩
      · obtain ⟨before, b, after, t, rfl, ran, failed⟩ := ih later
        refine ⟨a :: before, b, after, t, rfl, ?_, failed⟩
        rw [List.foldlM_cons, stepped]
        exact ran

end Lists

namespace Schema

variable {α β : Type}

namespace Verdict

theorem under_eq_ok {step : Step} {v : Verdict α} {a : α} (h : v.under step = .ok a) :
    v = .ok a := by
  cases v <;> simp_all [under]

theorem map_eq_ok {f : α → β} {v : Verdict α} {b : β} (h : v.map f = .ok b) :
    ∃ a, v = .ok a ∧ f a = b := by
  cases v <;> simp_all [map]

theorem both_eq_ok {v : Verdict α} {w : Verdict β} {p : α × β} (h : v.both w = .ok p) :
    v = .ok p.1 ∧ w = .ok p.2 := by
  cases v <;> cases w <;> simp_all [both]
  rw [← h]
  exact ⟨rfl, rfl⟩

theorem mem_of_all_eq_ok {vs : List (Verdict α)} {as : List α} (h : all vs = .ok as) :
    ∀ a ∈ as, .ok a ∈ vs := by
  induction vs generalizing as with
  | nil =>
      cases h
      exact fun a mem => absurd mem List.not_mem_nil
  | cons v vs ih =>
      obtain ⟨⟨first, rest⟩, read, rfl⟩ := map_eq_ok h
      obtain ⟨readFirst, readRest⟩ := both_eq_ok read
      intro a mem
      obtain rfl | mem := List.mem_cons.mp mem
      · rw [← readFirst]
        exact List.mem_cons_self
      · exact List.mem_cons_of_mem v (ih readRest a mem)

end Verdict

/-- Everything that is read has a property. -/
def Codec.Yields (c : Codec α) (P : α → Prop) : Prop := ∀ v a, c.read v = .ok a → P a

/-- Everything that is read from members has a property. -/
def Record.Yields (r : Record α) (P : α → Prop) : Prop := ∀ ms a, r.read ms = .ok a → P a

namespace Codec.Yields

variable {c : Codec α} {P : α → Prop}

theorem of_readItems (h : c.Yields P) {start : Nat} {vs : List Json} {a : α}
    (mem : .ok a ∈ readItems c start vs) : P a := by
  induction vs generalizing start with
  | nil => exact absurd mem List.not_mem_nil
  | cons v vs ih =>
      obtain read | mem := List.mem_cons.mp mem
      · exact h v a (Verdict.under_eq_ok read.symm)
      · exact ih mem

theorem list (h : c.Yields P) : (Codec.list c).Yields fun as => ∀ a ∈ as, P a := by
  intro v as read a mem
  cases v with
  | arr vs => exact h.of_readItems (Verdict.mem_of_all_eq_ok read a mem)
  | null | bool _ | num _ | str _ | obj _ => cases read

end Codec.Yields

namespace Record.Yields

variable {r : Record α} {r' : Record β} {P : α → Prop} {Q : β → Prop}

theorem defaulted {c : Codec α} (h : c.Yields P) (f : Field) {absent : α} (left : P absent) :
    (Record.defaulted f c absent).Yields P := by
  intro ms a read
  simp only [Record.defaulted] at read
  split at read
  · cases read
    exact left
  · exact h _ a (Verdict.under_eq_ok read)

theorem both_snd (h : r'.Yields Q) : (r.both r').Yields fun p => Q p.2 :=
  fun _ _ read => h _ _ (Verdict.both_eq_ok read).2

theorem iso (h : r.Yields P) {f : α → β} {g : β → α} (kept : ∀ a, P a → Q (f a)) :
    (r.iso f g).Yields Q := by
  intro ms b read
  obtain ⟨a, readAs, rfl⟩ := Verdict.map_eq_ok read
  exact kept a (h ms a readAs)

theorem codec (h : r.Yields P) : r.codec.Yields P := by
  intro v a read
  cases v with
  | obj ms =>
      obtain ⟨p, both, rfl⟩ := Verdict.map_eq_ok read
      exact h ms p.1 (Verdict.both_eq_ok both).1
  | null | bool _ | num _ | str _ | arr _ => cases read

end Record.Yields

end Schema

open Schema

/-! ## Calls -/

/-- A call with unchecked parameters is not made by the word of a kind. -/
def Call.Apart : Call → Prop
  | .known _ => True
  | .unknown name _ => ∀ k : AtomKind, k.word ≠ name

namespace Call

/-- An unchecked call keeps the name that it was read by. -/
theorem readUnknown_eq_ok {v : Json} {c : Call} (read : readUnknown v = .ok c) :
    ∃ name ms, c = .unknown name ms ∧ v.get? "atom" = some (.str name) := by
  cases v with
  | obj ms =>
      simp only [readUnknown] at read
      split at read
      · cases read
      · rename_i name found
        cases read
        exact ⟨name, _, rfl, found⟩
      · cases read
  | null | bool _ | num _ | str _ | arr _ => cases read

theorem yields_apart : codec.Yields Apart := by
  intro v c readCall
  simp only [codec, read] at readCall
  split at readCall
  · cases readCall
  · cases readCall
  · rename_i s named
    split at readCall
    · obtain ⟨p, -, rfl⟩ := Verdict.map_eq_ok readCall
      trivial
    · rename_i wordless
      obtain ⟨name, ms, rfl, named'⟩ := readUnknown_eq_ok (Verdict.under_eq_ok readCall)
      rw [named] at named'
      cases named'
      intro k same
      have reads : Vocabulary.read? k.word = some k := Vocabulary.read?_word k
      rw [same, wordless] at reads
      cases reads
  · rename_i nameless
    obtain ⟨name, ms, rfl, named'⟩ := readUnknown_eq_ok (Verdict.under_eq_ok readCall)
    exact absurd named' (nameless name)

end Call

theorem CardEffect.yields_apart :
    CardEffect.codec.Yields fun e => ∀ call ∈ e.effects, call.Apart := by
  have effects := Record.Yields.defaulted Call.yields_apart.list (.plain "effects")
    fun _ mem => absurd mem List.not_mem_nil
  have body : bodyRecord.Yields fun b => ∀ call ∈ b.2.2.2.2, call.Apart :=
    effects.both_snd.both_snd.both_snd.both_snd
  exact (body.both_snd.iso fun _ apart => apart).codec

namespace Catalog

variable {P : CardEffect → Prop}

theorem mem_insert {es : List (Int × CardEffect)} {id : Int} {e : CardEffect}
    {p : Int × CardEffect} (mem : p ∈ insert es id e) : p ∈ es ∨ p.2 = e := by
  induction es with
  | nil => exact .inr (congrArg Prod.snd (List.mem_singleton.mp mem))
  | cons q es ih =>
      rw [insert] at mem
      split at mem
      · obtain rfl | mem := List.mem_cons.mp mem
        · exact .inr rfl
        · exact .inl (List.mem_cons_of_mem q mem)
      · obtain rfl | mem := List.mem_cons.mp mem
        · exact .inl List.mem_cons_self
        · exact (ih mem).imp_left (List.mem_cons_of_mem q)

theorem readEntry_eq_ok {id : Int} {v : Json} {e : CardEffect} (read : readEntry id v = .ok e) :
    CardEffect.codec.read v = .ok e := by
  rw [readEntry] at read
  split at read
  · cases read
    assumption
  · cases read
  · cases read

theorem addPair_yields (reads : CardEffect.codec.Yields P) {c c' : Catalog} {pair : String × Json}
    (all : ∀ p ∈ c.entries, P p.2) (added : addPair c pair = .ok c') :
    ∀ p ∈ c'.entries, P p.2 := by
  rw [addPair] at added
  split at added
  · cases added
    exact all
  · obtain ⟨id, -, added⟩ := Except.bind_eq_ok added
    obtain ⟨e, read, added⟩ := Except.bind_eq_ok added
    cases added
    intro p mem
    obtain mem | same := mem_insert mem
    · exact all p mem
    · rw [same]
      exact reads pair.2 e (readEntry_eq_ok read)

theorem foldlM_addPair_yields (reads : CardEffect.codec.Yields P) {ms : List (String × Json)}
    {c c' : Catalog} (all : ∀ p ∈ c.entries, P p.2) (loaded : ms.foldlM addPair c = .ok c') :
    ∀ p ∈ c'.entries, P p.2 := by
  induction ms generalizing c with
  | nil =>
      cases loaded
      exact all
  | cons pair ms ih =>
      rw [List.foldlM_cons] at loaded
      obtain ⟨next, added, loaded⟩ := Except.bind_eq_ok loaded
      exact ih (addPair_yields reads all added) loaded

theorem mem_of_get? {c : Catalog} {id : Int} {e : CardEffect} (found : c.get? id = some e) :
    (id, e) ∈ c.entries := by
  obtain ⟨before, after, split, -⟩ := List.lookup_eq_some_iff.mp found
  rw [split]
  exact List.mem_append_right _ List.mem_cons_self

/-- What reading yields of every entry holds of every entry of a catalog that was read. -/
theorem yields_of_ofMembers (reads : CardEffect.codec.Yields P)
    {ms : List (String × Json)} {c : Catalog} (loaded : ofMembers ms = .ok c) {id : Int}
    {e : CardEffect} (found : c.get? id = some e) : P e :=
  foldlM_addPair_yields reads (fun _ none => absurd none List.not_mem_nil) loaded _
    (mem_of_get? found)

end Catalog

end LaneDuel
