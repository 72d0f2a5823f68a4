import CobolSubset.Command.Line
import CobolSubset.Json.Options
import CobolSubset.Main
import CobolSubset.Target.RustTokens
import CobolSubset.Files.Tree
import CobolSubset.Proofs.Grammar
import CobolSubset.Proofs.Scanner
import CobolSubset.Proofs.Cutting
import CobolSubset.Proofs.Lexeme
import CobolSubset.Proofs.Reprint
import CobolSubset.Proofs.ShapeContract
import CobolSubset.Proofs.ViablePrefix
import CobolSubset.Proofs.Concatenation
import CobolSubset.Proofs.Layout
import CobolSubset.Proofs.Spelling
import CobolSubset.Proofs.Refusal
import CobolSubset.Proofs.FaultOrder
import CobolSubset.Proofs.Decoding
import CobolSubset.Proofs.Paths
import CobolSubset.Proofs.Interleaving
import CobolSubset.Proofs.BatchRun
import CobolSubset.Proofs.SharedState
import CobolSubset.Proofs.TreeEdits
import CobolSubset.Proofs.Influence
import CobolSubset.Proofs.Embedding
import CobolSubset.Proofs.LineFeeds
import CobolSubset.Proofs.FileNames
import CobolSubset.Proofs.JobEffect
import CobolSubset.Proofs.OutputPaths
import CobolSubset.Proofs.Sources
import CobolSubset.Proofs.BatchEffect
import CobolSubset.Proofs.RustNames
import CobolSubset.Proofs.WordRules
import CobolSubset.Proofs.Numerals
import CobolSubset.Proofs.TreeText
import CobolSubset.Proofs.TypeRemarks
import CobolSubset.Proofs.AllOrNothing
import CobolSubset.Proofs.QueryTokens
import CobolSubset.Proofs.AddedRules
import CobolSubset.Proofs.Figures
import CobolSubset.Proofs.JavaNames
import CobolSubset.Proofs.JsonForms
import CobolSubset.Proofs.HiddenNames
import CobolSubset.Proofs.Reports
