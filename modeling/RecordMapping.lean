import RecordMapping.Cache.Interleaving
import RecordMapping.Command.Program
import RecordMapping.Log.Transcript
import RecordMapping.Main
import RecordMapping.Outline.Library
import RecordMapping.Proofs.CacheSlots
import RecordMapping.Proofs.ConfiguredRules
import RecordMapping.Proofs.CsvTables
import RecordMapping.Proofs.FileRules
import RecordMapping.Proofs.FingerprintEncoding
import RecordMapping.Proofs.Presence
import RecordMapping.Proofs.Projection
import RecordMapping.Proofs.RuleSets
import RecordMapping.Proofs.SharedProjectors
import RecordMapping.Proofs.Signatures
import RecordMapping.Proofs.Strictness
import RecordMapping.Proofs.Traversal
import RecordMapping.Proofs.TypedTargets
import RecordMapping.Proofs.WrittenRules
import RecordMapping.Row.Csv.Cursor
import RecordMapping.Row.Memory
import RecordMapping.RulesFile
import RecordMapping.Text.PrintableTable
import RecordMapping.Text.Table
import RecordMapping.Proofs.CacheContents
import RecordMapping.Proofs.CallerSteps
import RecordMapping.Proofs.SingleFlight
import RecordMapping.Proofs.RefusedFiles
import RecordMapping.Proofs.ResumedStreams
import RecordMapping.Proofs.Positions
import RecordMapping.Proofs.Reports
import RecordMapping.Proofs.TableCommands
import RecordMapping.Proofs.TextFailures
import RecordMapping.Proofs.EmptySlots
import RecordMapping.Proofs.NamedColumns
import RecordMapping.Proofs.PropertyOrder
import RecordMapping.Proofs.JsonSpelling
import RecordMapping.Proofs.JsonText
import RecordMapping.Proofs.PrintedRecords
import RecordMapping.Proofs.Numerals
import RecordMapping.Proofs.ExactDoubles
import RecordMapping.Proofs.Rounding
import RecordMapping.Proofs.ShortestDigits
import RecordMapping.Proofs.IntegerReading
import RecordMapping.Proofs.WideNaturals
import RecordMapping.Proofs.ConversionErrors
import RecordMapping.Proofs.DocumentNumbers
import RecordMapping.Proofs.ReadingError
import RecordMapping.Proofs.ValueDocuments
import RecordMapping.Proofs.TextDetours
import RecordMapping.Proofs.RecordCells
import RecordMapping.Proofs.WalkedRows
import RecordMapping.Proofs.IndexHistories
import RecordMapping.Proofs.HeaderNames
import RecordMapping.Proofs.IndexedRows
import RecordMapping.Proofs.OneAfterAnother
