import Externs.Assoc
import Externs.Command
import Externs.Command.Arguments
import Externs.Command.FileTree
import Externs.Command.Usage
import Externs.Declaration
import Externs.Declaration.Block
import Externs.Descriptor
import Externs.Descriptor.Rendering
import Externs.Document
import Externs.Document.Layout
import Externs.Document.Session
import Externs.Environment
import Externs.Json
import Externs.Json.Lexeme
import Externs.Json.Reader
import Externs.Json.Wording
import Externs.Kind
import Externs.Log
import Externs.Log.Routing
import Externs.Log.Session
import Externs.Main
import Externs.Malformed
import Externs.Node
import Externs.Node.Ingestion
import Externs.Node.Walk
import Externs.Number.Binary64
import Externs.Number.Integer
import Externs.Number.Shortest
import Externs.Settings
import Externs.Settings.Dotenv
import Externs.Settings.Loading
import Externs.Text.Blank
import Externs.Text.Cased
import Externs.Text.CodePoint
import Externs.Text.ControlSequence
import Externs.Text.LetterCase
import Externs.Text.Pattern
import Externs.Text.Printable
import Externs.Text.Quoted
import Externs.Text.Similarity
import Externs.Text.Utf8
import Externs.Proofs.Below
import Externs.Proofs.KindTag
import Externs.Proofs.Pass
import Externs.Proofs.Mapping
import Externs.Proofs.Overlay
import Externs.Proofs.Reference
import Externs.Proofs.Positions
import Externs.Proofs.Validation
import Externs.Proofs.Completeness
import Externs.Proofs.Cutting
import Externs.Proofs.Files
import Externs.Proofs.ShownPaths
import Externs.Proofs.FailedRuns
import Externs.Proofs.CheckedRuns
import Externs.Proofs.Walked
import Externs.Proofs.Soundness
import Externs.Proofs.Marks
import Externs.Proofs.Slots
import Externs.Proofs.Drops
import Externs.Proofs.Erasure
import Externs.Proofs.OneLine
import Externs.Proofs.Decoding
import Externs.Proofs.BlockReading
import Externs.Proofs.TemplateMark
import Externs.Proofs.Frozen
import Externs.Proofs.Locality
import Externs.Proofs.Replacement
import Externs.Proofs.Rearrangement
import Externs.Proofs.NullFields
import Externs.Proofs.Spellings
import Externs.Proofs.Annotations
import Externs.Proofs.IngestedTypes
import Externs.Proofs.TreeShape
import Externs.Proofs.ControlSequences
import Externs.Proofs.RunResults
import Externs.Proofs.LogRuns
import Externs.Proofs.SettingResults
import Externs.Proofs.Precedence
import Externs.Proofs.EffectiveSettings
