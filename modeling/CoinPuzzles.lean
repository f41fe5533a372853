import CoinPuzzles.Block.CoinInfo
import CoinPuzzles.Block.Generator
import CoinPuzzles.Bytes.Basic
import CoinPuzzles.Bytes.Digits
import CoinPuzzles.Bytes.Hex
import CoinPuzzles.Cat.Memo
import CoinPuzzles.Cat.Mint
import CoinPuzzles.Cat.Puzzle
import CoinPuzzles.Coin.Basic
import CoinPuzzles.Coin.Document
import CoinPuzzles.Command.Invocation
import CoinPuzzles.Command.Options
import CoinPuzzles.Command.Run
import CoinPuzzles.Command.Surroundings
import CoinPuzzles.Curve.Compressed
import CoinPuzzles.Curve.Field
import CoinPuzzles.Curve.HashToCurve
import CoinPuzzles.Curve.Point
import CoinPuzzles.Digest.Sha256
import CoinPuzzles.Files.Path
import CoinPuzzles.Files.Tree
import CoinPuzzles.Funding.Plan
import CoinPuzzles.Main
import CoinPuzzles.Number.Binary64
import CoinPuzzles.Number.DecimalText
import CoinPuzzles.Number.Numeral
import CoinPuzzles.Order.Lexicographic
import CoinPuzzles.Program.Assembly
import CoinPuzzles.Program.Basic
import CoinPuzzles.Program.Codec
import CoinPuzzles.Program.Curry
import CoinPuzzles.Program.TreeHash
import CoinPuzzles.Proofs.Block.Amounts
import CoinPuzzles.Proofs.Block.Entries
import CoinPuzzles.Proofs.Block.References
import CoinPuzzles.Proofs.Block.Reports
import CoinPuzzles.Proofs.Block.WorkerPool
import CoinPuzzles.Proofs.Bytes.BigEndian
import CoinPuzzles.Proofs.Bytes.HexDigits
import CoinPuzzles.Proofs.Bytes.HexGrammar
import CoinPuzzles.Proofs.Bytes.TwosComplement
import CoinPuzzles.Proofs.Cat.Commitment
import CoinPuzzles.Proofs.Cat.Construction
import CoinPuzzles.Proofs.Cat.Inspection
import CoinPuzzles.Proofs.Cat.Layout
import CoinPuzzles.Proofs.Cat.Linkage
import CoinPuzzles.Proofs.Cat.Merging
import CoinPuzzles.Proofs.Coin.Faults
import CoinPuzzles.Proofs.Coin.Identity
import CoinPuzzles.Proofs.Coin.Interchange
import CoinPuzzles.Proofs.Coin.Printing
import CoinPuzzles.Proofs.Coin.Reading
import CoinPuzzles.Proofs.Coin.Triples
import CoinPuzzles.Proofs.Command.CombineBundles
import CoinPuzzles.Proofs.Digest.Evaluation
import CoinPuzzles.Proofs.Funding.Cover
import CoinPuzzles.Proofs.Funding.LeastPlan
import CoinPuzzles.Proofs.Funding.Ordering
import CoinPuzzles.Proofs.Funding.Repetition
import CoinPuzzles.Proofs.Funding.Selection
import CoinPuzzles.Proofs.Number.Magnitude
import CoinPuzzles.Proofs.Number.Numerals
import CoinPuzzles.Proofs.Number.WholePart
import CoinPuzzles.Proofs.Order.Sorting
import CoinPuzzles.Proofs.Outcome
import CoinPuzzles.Proofs.Program.AssemblyAtoms
import CoinPuzzles.Proofs.Program.AssemblyLevels
import CoinPuzzles.Proofs.Program.AssemblyText
import CoinPuzzles.Proofs.Program.Collisions
import CoinPuzzles.Proofs.Program.CurryShape
import CoinPuzzles.Proofs.Program.Encoding
import CoinPuzzles.Proofs.Program.HashBinding
import CoinPuzzles.Proofs.Program.HashEvaluation
import CoinPuzzles.Proofs.Program.Parts
import CoinPuzzles.Proofs.Program.Spelling
import CoinPuzzles.Proofs.Puzzle.Canonical
import CoinPuzzles.Proofs.Puzzle.Comparison
import CoinPuzzles.Proofs.Puzzle.Interchange
import CoinPuzzles.Proofs.Puzzle.KeyParameter
import CoinPuzzles.Proofs.Puzzle.Leaves
import CoinPuzzles.Proofs.Puzzle.PuzzleText
import CoinPuzzles.Proofs.Puzzle.Recognition
import CoinPuzzles.Proofs.Puzzle.Shape
import CoinPuzzles.Proofs.Runner.Outputs
import CoinPuzzles.Proofs.Runner.Session
import CoinPuzzles.Proofs.Settings.Precedence
import CoinPuzzles.Proofs.Settings.Refusals
import CoinPuzzles.Proofs.Settings.Usable
import CoinPuzzles.Proofs.Signing.Bundles
import CoinPuzzles.Proofs.Signing.CoinMessages
import CoinPuzzles.Proofs.Signing.Conditions
import CoinPuzzles.Proofs.Signing.Exactness
import CoinPuzzles.Proofs.Signing.Grouping
import CoinPuzzles.Proofs.Signing.SchemeLaws
import CoinPuzzles.Proofs.Signing.Splitting
import CoinPuzzles.Proofs.Template.Catalogue
import CoinPuzzles.Proofs.Template.Construction
import CoinPuzzles.Proofs.Template.Registered
import CoinPuzzles.Proofs.Text.Trimming
import CoinPuzzles.Proofs.Value.JsonNesting
import CoinPuzzles.Proofs.Value.JsonNumbers
import CoinPuzzles.Proofs.Value.JsonPieces
import CoinPuzzles.Proofs.Value.JsonReadBack
import CoinPuzzles.Proofs.Value.Scalars
import CoinPuzzles.Puzzle.KeyParam
import CoinPuzzles.Puzzle.Node
import CoinPuzzles.Puzzle.Simplify
import CoinPuzzles.Runner.Backend
import CoinPuzzles.Runner.Session
import CoinPuzzles.Settings.Basic
import CoinPuzzles.Settings.Load
import CoinPuzzles.Settings.Url
import CoinPuzzles.Signing.Aggregate
import CoinPuzzles.Signing.Context
import CoinPuzzles.Signing.Scheme
import CoinPuzzles.Signing.Spends
import CoinPuzzles.Template.Catalogue
import CoinPuzzles.Template.Names
import CoinPuzzles.Template.Registry
import CoinPuzzles.Text.Blank
import CoinPuzzles.Text.Cased
import CoinPuzzles.Text.Changes
import CoinPuzzles.Text.DecimalDigit
import CoinPuzzles.Text.Lowercase
import CoinPuzzles.Text.Printable
import CoinPuzzles.Text.Quoted
import CoinPuzzles.Text.Search
import CoinPuzzles.Text.Utf8
import CoinPuzzles.Value.Basic
import CoinPuzzles.Value.Calendar
import CoinPuzzles.Value.JsonReader
import CoinPuzzles.Value.JsonWriter
import CoinPuzzles.Yaml.Cursor
import CoinPuzzles.Yaml.Plain
import CoinPuzzles.Yaml.Reader
import CoinPuzzles.Yaml.Scalar
