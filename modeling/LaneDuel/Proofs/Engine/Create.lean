/-
# LaneDuel.Proofs.Engine.Create -- which catalog a created engine asks

Two engines answer alike (`Setup.AnswersAs`) if they list the same cards, play every card to
the same end with the same words, and say the same of targets and of bonuses.  An engine that
is created with a catalog should answer as one that is put together from it.

It does so where the catalog has an entry, and then no other catalog is looked for.  A catalog
without entries is taken for none at all: the engine that is created with it is the one that
is created without, and asks the catalog of the settings (`create_asks_given`,
`Example.empty_catalog_replaced`).
-/
import LaneDuel.Engine.Create
import LaneDuel.Loose.Watch
import LaneDuel.Proofs.Engine.ValidTarget
import LaneDuel.Proofs.Schema.Calls

namespace LaneDuel

set_option autoImplicit false

/-- Two engines answer alike, each in the words of its phrasebook, to values of any type. -/
structure Setup.AnswersAs (a b : Setup) : Prop where
  configured : a.engine.catalog.cardIds = b.engine.catalog.cardIds
  needs : ∀ cardId, a.engine.needsTarget cardId = b.engine.needsTarget cardId
  filters : ∀ cardId, a.engine.targetFilter cardId = b.engine.targetFilter cardId
  plays : ∀ {ρ : Type} [RandomSource ρ] (tracing listening : Bool) (cardId : Json)
    (inv : Loose.Invocation) (s : Loose.State) (source : ρ),
    (Loose.Engine.ofChecked a.engine).watch ⟨tracing, a.book, listening⟩ cardId inv s source
      = (Loose.Engine.ofChecked b.engine).watch ⟨tracing, b.book, listening⟩ cardId inv s source
  targets : ∀ (cardId : Json) (target : Option Loose.Card) (s : Loose.State)
    (acting : Option Json),
    (Loose.Engine.ofChecked a.engine).isValidTarget cardId target s acting
      = (Loose.Engine.ofChecked b.engine).isValidTarget cardId target s acting
  bonuses : ∀ (cardId : Json) (s : Loose.State),
    (Loose.Engine.ofChecked a.engine).passiveBonus cardId s
      = (Loose.Engine.ofChecked b.engine).passiveBonus cardId s

theorem Setup.AnswersAs.refl (a : Setup) : a.AnswersAs a :=
  ⟨rfl, fun _ => rfl, fun _ => rfl, fun _ _ _ _ _ _ => rfl, fun _ _ _ _ => rfl, fun _ _ => rfl⟩

namespace Catalog

theorem length_cardIds (c : Catalog) : c.cardIds.length = c.size := by
  rw [cardIds, List.length_mergeSort, List.length_map, size]

theorem eq_empty_of_size {c : Catalog} (none : c.size = 0) : c = empty :=
  congrArg Catalog.mk (List.length_eq_zero_iff.mp none)

end Catalog

namespace Engine

variable (s : Settings) (levels : Nat) (files : Files) (book : Phrasebook)

/-- An engine with the catalog that is chosen, once there is a phrasebook for the settings. -/
theorem create_eq_ok {given : Option Catalog} {setup : Setup}
    (created : create s levels files book given = .ok setup) :
    book.use s.locale = .ok setup.book ∧
      chooseCatalog s levels files given = .ok setup.engine.catalog ∧
      setup = ⟨⟨setup.engine.catalog, .standard⟩, setup.book⟩ := by
  obtain ⟨words, spoken, created⟩ := Except.bind_eq_ok created
  obtain ⟨catalog, chosen, created⟩ := Except.bind_eq_ok created
  cases created
  exact ⟨spoken, chosen, rfl⟩

/-- With an entry in it, the given catalog is all that is needed beside the words. -/
theorem create_of_entries {c : Catalog} (entries : c.size ≠ 0) :
    create s levels files book (some c)
      = (book.use s.locale).map fun words => ⟨⟨c, .standard⟩, words⟩ := by
  simp only [create, chooseCatalog, if_neg entries]
  cases book.use s.locale <;> rfl

theorem create_of_no_entries {c : Catalog} (none : c.size = 0) :
    create s levels files book (some c) = create s levels files book Option.none := by
  simp only [create, chooseCatalog, if_pos none]

/-- **The catalog that is asked.**  A given catalog with an entry is the one that is asked,
whatever the catalog of the settings is; one without entries counts as none given.  So the
engine answers as one put together from the given catalog exactly where that has an entry, or
where the catalog of the settings has none either. -/
theorem create_asks_given (c : Catalog) :
    (c.size ≠ 0 → create s levels files book (some c)
        = (book.use s.locale).map fun words => ⟨⟨c, .standard⟩, words⟩) ∧
      (c.size = 0 → create s levels files book (some c) = create s levels files book none) ∧
      ∀ setup, create s levels files book (some c) = .ok setup →
        book.use s.locale = .ok setup.book ∧
        (setup.AnswersAs ⟨⟨c, .standard⟩, setup.book⟩ ↔
          c.size ≠ 0 ∨ s.catalog levels files = .ok .empty) := by
  refine ⟨create_of_entries s levels files book, create_of_no_entries s levels files book,
    fun setup created => ?_⟩
  obtain ⟨spoken, chosen, assembled⟩ := create_eq_ok s levels files book created
  refine ⟨spoken, ?_⟩
  by_cases none : c.size = 0
  · simp only [chooseCatalog, if_pos none] at chosen
    simp only [none, ne_eq, not_true_eq_false, false_or]
    constructor
    · intro alike
      have sizes : setup.engine.catalog.size = c.size := by
        rw [← Catalog.length_cardIds, alike.configured, Catalog.length_cardIds]
      rw [chosen, Catalog.eq_empty_of_size (sizes.trans none)]
    · intro nothing
      rw [chosen] at nothing
      rw [assembled, Except.ok.inj nothing, Catalog.eq_empty_of_size none]
      exact .refl _
  · simp only [chooseCatalog, if_neg none] at chosen
    refine iff_of_true ?_ (.inl none)
    rw [assembled, ← Except.ok.inj chosen]
    exact .refl _

end Engine

namespace Example

open Engine

/-- The settings where no variable is set. -/
def unset : Settings := .ofEnvironment []

/-- An engine that is created with a catalog of one card asks it. -/
theorem seeker_asked :
    let c := (seeking (onField .opponent)).catalog
    ∃ setup, create unset 900 (.ofList []) (.standard .english) (some c) = .ok setup ∧
      setup.AnswersAs ⟨⟨c, .standard⟩, .standard .chinese⟩ := by
  intro c
  obtain ⟨asked, -, alike⟩ := create_asks_given unset 900 (.ofList []) (.standard .english) c
  have created := asked (by decide)
  exact ⟨_, created, (alike _ created).2.mpr (.inl (by decide))⟩

/-- With a catalog that has no entries, all cards of the bundled one can be played. -/
theorem empty_catalog_replaced :
    ∃ setup, create unset 900 (.ofList []) (.standard .chinese) (some .empty) = .ok setup ∧
      setup.engine.catalog.cardIds ≠ Catalog.empty.cardIds ∧
      ¬ setup.AnswersAs ⟨⟨.empty, .standard⟩, setup.book⟩ := by
  have others : Catalog.bundled.cardIds ≠ Catalog.empty.cardIds := by
    intro same
    have sizes := congrArg List.length same
    rw [Catalog.length_cardIds, Catalog.length_cardIds] at sizes
    revert sizes
    decide
  exact ⟨⟨⟨.bundled, .standard⟩, .standard .chinese⟩, rfl, others, fun alike =>
    others alike.configured⟩

end Example

end LaneDuel
