import Skirmish.Amount
import Skirmish.Board
import Skirmish.Board.Area
import Skirmish.Board.Edit
import Skirmish.Board.Fault
import Skirmish.Bundle
import Skirmish.Cascade
import Skirmish.Casting
import Skirmish.Config
import Skirmish.Config.File
import Skirmish.Content.Discovery
import Skirmish.Content.Document
import Skirmish.Content.Field
import Skirmish.Content.Files
import Skirmish.Content.Path
import Skirmish.Content.Reference
import Skirmish.Content.Rendering
import Skirmish.Data
import Skirmish.Data.Faults
import Skirmish.Data.Values
import Skirmish.Definition
import Skirmish.Effect
import Skirmish.Entity
import Skirmish.Entity.Id
import Skirmish.Entity.Type
import Skirmish.Event
import Skirmish.Fault
import Skirmish.Game
import Skirmish.Grid.Coords
import Skirmish.Grid.Size
import Skirmish.Layers
import Skirmish.Layers.Text
import Skirmish.Log
import Skirmish.Registry
import Skirmish.Ron
import Skirmish.Ron.Text
import Skirmish.Scopes
import Skirmish.Target
import Skirmish.Text.Blank
import Skirmish.Text.Extending
import Skirmish.Text.Hex
import Skirmish.Text.Quoted
import Skirmish.Text.Unprintable
import Skirmish.Tile
import Skirmish.Tile.Type
import Skirmish.Toml.Document
import Skirmish.Toml.Scalar
import Skirmish.Toml.Table
import Skirmish.Toml.Text
import Skirmish.Turns
import Skirmish.World
import Skirmish.World.Operations
import Skirmish.Proofs.Tile.Sound
import Skirmish.Proofs.Board.Views
import Skirmish.Proofs.Board.Occupancy
import Skirmish.Proofs.World.Steps
import Skirmish.Proofs.Arena.Traces
import Skirmish.Proofs.Casting.Traced
import Skirmish.Proofs.Game.Runs
import Skirmish.Proofs.Log.Replay
import Skirmish.Proofs.Turns.Order
import Skirmish.Proofs.Arena.Cascades
import Skirmish.Proofs.Casting.Closed
import Skirmish.Proofs.Game.Answers
import Skirmish.Proofs.Game.Identity
import Skirmish.Proofs.Game.Limits
import Skirmish.Proofs.Game.Health
import Skirmish.Proofs.Turns.Fairness
import Skirmish.Proofs.Casting.Scoped
import Skirmish.Proofs.Content.Discovery
import Skirmish.Proofs.Content.Reachable
import Skirmish.Proofs.Content.Entries
import Skirmish.Proofs.Bundle.Validation
import Skirmish.Proofs.Bundle.Flaws
import Skirmish.Proofs.Content.Mentions
import Skirmish.Proofs.Bundle.Rendering
import Skirmish.Proofs.Content.Faithful
import Skirmish.Proofs.Bundle.Faithful
import Skirmish.Proofs.Bundle.Paths
import Skirmish.Proofs.World.Guises
import Skirmish.Proofs.Arena.Guises
import Skirmish.Proofs.Casting.Guises
import Skirmish.Proofs.Game.Types
import Skirmish.Proofs.Apart
import Skirmish.Proofs.Arena.Members
import Skirmish.Proofs.Casting.Members
import Skirmish.Proofs.Board.Area
import Skirmish.Proofs.Board.Edits
import Skirmish.Proofs.Board.Undo
import Skirmish.Proofs.Board.Ghosts
import Skirmish.Proofs.Arena.Blows
import Skirmish.Proofs.Casting.Areas
import Skirmish.Proofs.Game.AreaDamage
import Skirmish.Proofs.Casting.Bindings
import Skirmish.Proofs.Game.Errors
import Skirmish.Proofs.Casting.Atomic
import Skirmish.Proofs.Game.Displacement
import Skirmish.Proofs.Amount.Totals
import Skirmish.Content.Intake
import Skirmish.Proofs.Board.Addresses
import Skirmish.Proofs.Content.Queue
import Skirmish.Proofs.Content.Components
import Skirmish.Proofs.Content.Texts
import Skirmish.Proofs.Bundle.Texts
