import ClaimLedger.BlockIndex.Config
import ClaimLedger.BlockIndex.Service
import ClaimLedger.Codec.Field
import ClaimLedger.Transaction.Amounts
import ClaimLedger.Transaction.Filters
import ClaimLedger.Workspace
import ClaimLedger.Proofs.ScriptGrammar
import ClaimLedger.Proofs.Segwit
import ClaimLedger.Proofs.ClaimEditing
import ClaimLedger.Proofs.FailedSigning
import ClaimLedger.Proofs.Preimage
import ClaimLedger.Proofs.SignatureForms
import ClaimLedger.Proofs.Verification
import ClaimLedger.Proofs.ClaimReading
import ClaimLedger.Proofs.SignedOutputs
import ClaimLedger.Proofs.SignThenVerify
import ClaimLedger.Proofs.ClaimNormalForm
import ClaimLedger.Proofs.Payloads
import ClaimLedger.Proofs.Regeneration
import ClaimLedger.Proofs.Looking
import ClaimLedger.Proofs.BlindEdits
import ClaimLedger.Proofs.Unnoticed
import ClaimLedger.Proofs.TransactionNormalForm
import ClaimLedger.Proofs.Streams
import ClaimLedger.Proofs.UnrelatedEdits
import ClaimLedger.Proofs.ClaimRewriting
import ClaimLedger.Proofs.SignedMessages
import ClaimLedger.Proofs.SignatureSchemes
import ClaimLedger.Proofs.Workers
import ClaimLedger.Proofs.IndexService
import ClaimLedger.Proofs.ServedQueries
import ClaimLedger.Proofs.GraphHistory
import ClaimLedger.Proofs.LiveWorkers
import ClaimLedger.Proofs.ClaimLookup
import ClaimLedger.Proofs.AscendingEntries
import ClaimLedger.Proofs.MemoryAnswers
import ClaimLedger.Proofs.IndexAnswers
import ClaimLedger.Proofs.Takeovers
import ClaimLedger.Proofs.ScriptPositions
import ClaimLedger.Proofs.PrivateNotes
import ClaimLedger.Proofs.Inputless
import ClaimLedger.Proofs.ScriptOffsets
import ClaimLedger.Proofs.RunningTotals
import ClaimLedger.Proofs.Sizes
import ClaimLedger.Proofs.Abandons
import ClaimLedger.Proofs.Resigning
import ClaimLedger.Proofs.MirroredSignatures
import ClaimLedger.Proofs.SignatureVerdicts
import ClaimLedger.Proofs.ChannelKeys
import ClaimLedger.Proofs.LegacyDigests
import ClaimLedger.Proofs.OrdinalDays
import ClaimLedger.Proofs.BlockDates
import ClaimLedger.Proofs.StoredBlocks
import ClaimLedger.Proofs.InputScripts
import ClaimLedger.Proofs.Consumption
import ClaimLedger.Proofs.ReadingWork
import ClaimLedger.Proofs.ClaimIds
import ClaimLedger.Proofs.TypedStreams
import ClaimLedger.Proofs.Hexadecimal
import ClaimLedger.Proofs.ReadingParts
import ClaimLedger.Proofs.ReadingPlaces
