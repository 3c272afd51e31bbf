/-
# LaneDuel.Engine.Create -- an engine from the settings

The standard way to an engine: the standard library, the locale of the settings,
and the given catalog.  A catalog without entries counts as none, and the one of
the settings is used instead.
-/
import LaneDuel.Engine.Basic
import LaneDuel.Settings

namespace LaneDuel

set_option autoImplicit false

/-- An engine with the phrasebook it speaks by. -/
structure Setup where
  engine : Engine
  book : Phrasebook

namespace Engine

/-- The catalog to use when `given` was passed. -/
def chooseCatalog (s : Settings) (levels : Nat) (files : Files) (given : Option Catalog) :
    Except Failure Catalog :=
  match given with
  | some c => if c.size = 0 then s.catalog levels files else .ok c
  | none => s.catalog levels files

def create (s : Settings) (levels : Nat) (files : Files) (book : Phrasebook)
    (given : Option Catalog) : Except Failure Setup := do
  let book ← book.use s.locale
  let catalog ← chooseCatalog s levels files given
  return ⟨⟨catalog, .standard⟩, book⟩

end Engine

end LaneDuel
