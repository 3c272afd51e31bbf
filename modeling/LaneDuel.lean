import LaneDuel.Engine.Create
import LaneDuel.Journal.Diary
import LaneDuel.Journal.Live
import LaneDuel.Journal.Recorder
import LaneDuel.Loose.Edit
import LaneDuel.Loose.Engine
import LaneDuel.Loose.Start
import LaneDuel.Loose.Watch
import LaneDuel.Main
import LaneDuel.Proofs.Table.Basic
import LaneDuel.Proofs.Table.Locate
import LaneDuel.Proofs.Effect.Run
import LaneDuel.Proofs.Random
import LaneDuel.Proofs.Effect.Edits
import LaneDuel.Proofs.Effect.Conservation
import LaneDuel.Proofs.Effect.Moves
import LaneDuel.Proofs.Engine.Conservation
import LaneDuel.Proofs.Engine.BoundTarget
import LaneDuel.Proofs.Effect.Correspondence
import LaneDuel.Proofs.Effect.Target
import LaneDuel.Proofs.Effect.InStep
import LaneDuel.Proofs.Engine.InStep
import LaneDuel.Proofs.Engine.Composition
import LaneDuel.Proofs.Engine.Mirror
import LaneDuel.Proofs.Engine.Stops
import LaneDuel.Proofs.Engine.ValidTarget
import LaneDuel.Proofs.Effect.Shrinking
import LaneDuel.Proofs.Effect.Limits
import LaneDuel.Proofs.Engine.Limits
import LaneDuel.Proofs.Effect.Log
import LaneDuel.Proofs.Engine.Reach
import LaneDuel.Proofs.Schema.Calls
import LaneDuel.Proofs.Loose.Typed
import LaneDuel.Proofs.Loose.Watch
import LaneDuel.Proofs.Loose.Classification
import LaneDuel.Proofs.Loose.Values
import LaneDuel.Proofs.Loose.Does
import LaneDuel.Proofs.Loose.Targets
import LaneDuel.Proofs.Loose.Cards
import LaneDuel.Proofs.Loose.Players
import LaneDuel.Proofs.Loose.Removal
import LaneDuel.Proofs.Loose.Hands
import LaneDuel.Proofs.Loose.Perform
import LaneDuel.Proofs.Loose.Names
import LaneDuel.Proofs.Loose.Returns
import LaneDuel.Proofs.Loose.Parallel
import LaneDuel.Proofs.Loose.Parallel.Cards
import LaneDuel.Proofs.Loose.Parallel.Moves
import LaneDuel.Proofs.Loose.Course
import LaneDuel.Proofs.Loose.Handles
import LaneDuel.Proofs.Loose.Diagnostics
import LaneDuel.Proofs.Loose.Skipping
import LaneDuel.Proofs.Loose.Documents
import LaneDuel.Proofs.Loose.Reading
import LaneDuel.Proofs.Loose.Escapes
import LaneDuel.Proofs.Schema.Codec
import LaneDuel.Proofs.Schema.Written
import LaneDuel.Proofs.Catalog.Documents
import LaneDuel.Proofs.Catalog.Load
import LaneDuel.Proofs.Command.Markup
import LaneDuel.Proofs.Command.Validate
import LaneDuel.Proofs.Effect.Accounts
import LaneDuel.Proofs.Effect.Tells
import LaneDuel.Proofs.Effect.Marks
import LaneDuel.Proofs.Effect.Traffic
import LaneDuel.Proofs.Engine.Ledger
import LaneDuel.Proofs.Engine.Frame
import LaneDuel.Proofs.Engine.FirstAttack
import LaneDuel.Proofs.Engine.Vitals
import LaneDuel.Proofs.Atom.Lanes
import LaneDuel.Proofs.Atom.HellLord
import LaneDuel.Proofs.Atom.Cascade
import LaneDuel.Proofs.Atom.Decks
import LaneDuel.Proofs.Atom.Exchange
import LaneDuel.Proofs.Atom.Filters
import LaneDuel.Proofs.Atom.Amounts
import LaneDuel.Proofs.Atom.Removal
import LaneDuel.Proofs.Atom.Repetition
import LaneDuel.Proofs.Catalog.Kept
import LaneDuel.Proofs.Schema.Spelling
import LaneDuel.Proofs.Schema.Respelling
import LaneDuel.Proofs.Effect.Races
import LaneDuel.Proofs.Engine.Races
import LaneDuel.Proofs.Engine.Create
import LaneDuel.Proofs.Shuffle
import LaneDuel.Proofs.Table.Search
import LaneDuel.Proofs.Loose.Lookup
