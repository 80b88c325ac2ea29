import TomeSql.Main
import TomeSql.Host.Machine
import TomeSql.Proofs.Batch.Listing
import TomeSql.Proofs.Text.Numerals
import TomeSql.Proofs.LineEndings
import TomeSql.Proofs.Run.Agreement
import TomeSql.Proofs.Run.Effects
import TomeSql.Proofs.Schema.Surroundings
import TomeSql.Proofs.Script.Layout
import TomeSql.Proofs.Script.Warnings
import TomeSql.Proofs.Script.Rerun
import TomeSql.Proofs.Script.Template
import TomeSql.Proofs.Batch.Decoding
import TomeSql.Proofs.Batch.Failure
import TomeSql.Proofs.Batch.Steps
import TomeSql.Proofs.Batch.Numbering
import TomeSql.Proofs.Batch.BlankLevel
import TomeSql.Proofs.Batch.Placeholders
import TomeSql.Proofs.Text.Decomposition
import TomeSql.Proofs.Batch.Comments
import TomeSql.Proofs.Schema.Extraction
import TomeSql.Proofs.Schema.Overrun
import TomeSql.Proofs.Text.BrokenParts
import TomeSql.Proofs.Text.Lossy
import TomeSql.Proofs.Run.Damage
import TomeSql.Proofs.Batch.Padding
