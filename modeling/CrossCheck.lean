import CrossCheck.Main
import CrossCheck.Proofs.Sequences
import CrossCheck.Proofs.Comparison
import CrossCheck.Proofs.Actions
import CrossCheck.Proofs.Examinations
import CrossCheck.Proofs.Observation
import CrossCheck.Proofs.ErrorStop
import CrossCheck.Proofs.Slots
import CrossCheck.Proofs.Verdict
import CrossCheck.Proofs.ReportModes
import CrossCheck.Proofs.LabelLine
import CrossCheck.Proofs.Tokens
import CrossCheck.Proofs.ModeAgreement
import CrossCheck.Proofs.LabelRoundTrip
import CrossCheck.Proofs.Layering
import CrossCheck.Proofs.Interleaving
import CrossCheck.Proofs.LabelledPass
import CrossCheck.Proofs.JsonGrammar
import CrossCheck.Proofs.JsonReading
import CrossCheck.Proofs.JsonReport
import CrossCheck.Proofs.DirectoryRun
import CrossCheck.Proofs.Switches
import CrossCheck.Proofs.FirstLine
import CrossCheck.Proofs.Filing
import CrossCheck.Proofs.TokenPositions
import CrossCheck.Proofs.CharacterBytes
import CrossCheck.Proofs.OsStrings
import CrossCheck.Proofs.Selection
import CrossCheck.Proofs.Listing
import CrossCheck.Proofs.Replacement
import CrossCheck.Proofs.LineDecoding
import CrossCheck.Proofs.Pieces
import CrossCheck.Proofs.Recasing
import CrossCheck.Proofs.Layout
import CrossCheck.Proofs.Words
import CrossCheck.Proofs.RunErrors
import CrossCheck.Proofs.CommandLines
import CrossCheck.Proofs.NormalExtensions
import CrossCheck.Proofs.Suffixes
import CrossCheck.Proofs.FieldByField
import CrossCheck.Proofs.ReportReading
import CrossCheck.Proofs.ExchangedRoles
import CrossCheck.Proofs.DocumentKeys
import CrossCheck.Proofs.DocumentLayers
import CrossCheck.Proofs.FaultyFiles
