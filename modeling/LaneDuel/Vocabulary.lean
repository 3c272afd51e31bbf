/-
# LaneDuel.Vocabulary -- closed sets of words

Sides, kinds, zones and scopes are written as fixed words.  A type with such a
spelling says so once, as an instance of `Vocabulary`: its members in their
standing order and the word of each.  Reading is a search for the member with
the given word, so a reader and a writer of the same type cannot disagree.

* `Vocabulary.read?_word` -- in a lawful vocabulary a written member reads back.
* `Vocabulary.word_of_read?` -- what reads as a member is that member's word.
-/

namespace LaneDuel

set_option autoImplicit false

/-- A finite type whose members are written as words. -/
class Vocabulary (α : Type) where
  members : List α
  word : α → String

/-- Every member is listed, and no two members share a word. -/
class LawfulVocabulary (α : Type) [Vocabulary α] : Prop where
  mem_members : ∀ a : α, a ∈ Vocabulary.members (α := α)
  word_inj : ∀ a b : α, Vocabulary.word a = Vocabulary.word b → a = b

namespace Vocabulary

variable {α : Type} [Vocabulary α]

/-- The member written as `s`, if there is one.  Case and blanks count. -/
def read? (s : String) : Option α :=
  (members (α := α)).find? fun a => word a == s

theorem word_of_read? {s : String} {a : α} (h : read? s = some a) : word a = s := by
  simpa using List.find?_some h

theorem read?_word [LawfulVocabulary α] (a : α) : read? (word a) = some a := by
  cases h : (read? (word a) : Option α) with
  | none =>
    have := List.find?_eq_none.mp h a (LawfulVocabulary.mem_members a)
    simp at this
  | some b => rw [LawfulVocabulary.word_inj b a (word_of_read? h)]

end Vocabulary

end LaneDuel
