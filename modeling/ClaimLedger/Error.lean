import ClaimLedger.Outpoint
import ClaimLedger.Text.Characters
import ClaimLedger.Text.Utf8

/-! Why an operation is refused. Errors are grouped by what went wrong with the
data, the reference, the claim or the signature; each carries the facts its
message names, and `Error.message` is the only place where they are worded. -/
namespace ClaimLedger

/-- Text fields of a claim message. -/
inductive TextField where
  | streamTitle
  | streamDescription
  | feeCurrency
  | channelTitle
  deriving DecidableEq

/-- Data that does not have the form or the range it must have. -/
inductive Malformation where
  | shortRead (wanted offset remaining : Nat)
  | lengthOverrun (length remaining : Nat)
  | claimHashLength (length : Nat)
  | claimIdText (text : String) (fault : Hex.Fault)
  | transactionText (fault : Hex.Fault)
  | trailingAfterTransaction (count : Nat)
  | trailingAfterMessage (count : Nat)
  | fieldText (field : TextField) (fault : Utf8.Fault)
  | claimNameText (fault : Utf8.Fault)
  | feeFlag (flag : UInt8)
  | claimKind (kind : UInt8)
  | claimEnvelope (envelope : UInt8)
  | purchaseStart
  | outputAmount (amount : Nat)
  | outputIndex (index count : Nat)
  | inputIndex (index count : Nat)
  | amountOverflow
  | secretKey
  | addressDigit (digit : Char)
  | pushTooLarge (length : Nat)
  | refused (reason : String)
  deriving DecidableEq

/-- Outputs that cannot be used for what was asked. -/
inductive Unsupported where
  | notSpendable
  | noPayeeAddress
  | notReturnData
  deriving DecidableEq

/-- References that lead nowhere. -/
inductive Unresolved where
  | detachedOutput
  | detachedClaim
  | spentAmount (spends : Outpoint)
  | spentScript (index : Nat) (spends : Outpoint)
  | digestAnchor
  | signingAnchor
  deriving DecidableEq

/-- Annotations an operation needs. -/
inductive AnnotationNeed where
  | isMyInput
  | isMyOutput
  deriving DecidableEq

/-- Claims that are asked for and not there. -/
inductive MissingClaim where
  | claimId
  | claimName
  | payload
  | signerNotChannel
  | notChannel
  deriving DecidableEq

/-- Signatures and keys that are missing or do not hold. -/
inductive SignatureFault where
  | noChannel
  | unsigned
  | notPublicKeyInfo
  | publicKeyPoint
  | rawLength (length : Nat)
  | scalars
  | encoding
  | verification
  deriving DecidableEq

/-- Failures of the worker behind the block index. -/
inductive WorkerFault where
  | stopped
  | droppedQuery
  | panicked
  deriving DecidableEq

/-- Why an operation is refused. -/
inductive Error where
  | malformed (cause : Malformation)
  | unsupportedOutput (cause : Unsupported)
  | unresolvedReference (cause : Unresolved)
  | annotationMissing (needed : AnnotationNeed)
  | noClaim (cause : MissingClaim)
  | invalidSignature (cause : SignatureFault)
  | missingPrivateKey
  | alreadyOpen
  | notOpen
  | worker (cause : WorkerFault)
  | database
  deriving DecidableEq

def Hex.Fault.message : Hex.Fault → String
  | .oddLength => "Odd number of digits"
  | .invalidDigit byte index =>
    s!"Invalid character {Quoted.char (Char.ofNat byte.toNat)} at position {index}"

def Utf8.Fault.message (fault : Utf8.Fault) : String :=
  match fault.broken with
  | some length => s!"invalid utf-8 sequence of {length} bytes from index {fault.validUpTo}"
  | none => s!"incomplete utf-8 byte sequence from index {fault.validUpTo}"

def TextField.name : TextField → String
  | .streamTitle => "stream title"
  | .streamDescription => "stream description"
  | .feeCurrency => "fee currency"
  | .channelTitle => "channel title"

def Malformation.message : Malformation → String
  | .shortRead wanted offset remaining =>
    s!"attempted to read {wanted} bytes at offset {offset} with only {remaining} remaining"
  | .lengthOverrun length remaining =>
    s!"length prefix {length} exceeds the {remaining} remaining bytes"
  | .claimHashLength length => s!"claim hash must be 20 bytes, got {length}"
  | .claimIdText text fault =>
    "invalid claim id " ++ Quoted.text text ++ ": " ++ fault.message
  | .transactionText fault => "invalid transaction hex: " ++ fault.message
  | .trailingAfterTransaction count => s!"{count} trailing bytes after transaction"
  | .trailingAfterMessage count => s!"{count} trailing bytes after claim message"
  | .fieldText field fault => "invalid utf-8 in " ++ field.name ++ ": " ++ fault.message
  | .claimNameText fault => "claim name is not utf-8: " ++ fault.message
  | .feeFlag flag => s!"invalid fee flag {flag.toNat}"
  | .claimKind kind => s!"unknown claim kind {kind.toNat}"
  | .claimEnvelope envelope => "unknown claim envelope 0x" ++ Hex.encode [envelope]
  | .purchaseStart => "purchase data lacks start byte"
  | .outputAmount amount => s!"output amount {amount} exceeds the signed 64-bit range"
  | .outputIndex index count => s!"output {index} out of range ({count} outputs)"
  | .inputIndex index count => s!"input {index} out of range ({count} inputs)"
  | .amountOverflow => "amount sum overflows"
  | .secretKey => "invalid channel secret key: malformed or out-of-range secret key"
  | .addressDigit digit =>
    "invalid address: invalid base58 character 0x" ++ String.ofList (Nat.toDigits 16 digit.toNat)
  | .pushTooLarge length =>
    s!"script push too large: attempt to prepare {length} bytes to be pushed into script but the limit is 2^32-1"
  | .refused reason => reason

def Unsupported.message : Unsupported → String
  | .notSpendable => "only pay-to-pubkey-hash outputs can be spent"
  | .noPayeeAddress => "legacy signature needs a payee address"
  | .notReturnData => "output does not carry return data"

def Unresolved.message : Unresolved → String
  | .detachedOutput => "output is not attached to a transaction"
  | .detachedClaim => "claim hash of an output not attached to a transaction"
  | .spentAmount spends => "cannot resolve output " ++ spends.text ++ " to get amount"
  | .spentScript index spends =>
    s!"input {index} spends unresolved output " ++ spends.text
  | .digestAnchor => "signature digest needs the first input of the transaction"
  | .signingAnchor => "claim signing needs at least one input"

def AnnotationNeed.name : AnnotationNeed → String
  | .isMyInput => "is_my_input"
  | .isMyOutput => "is_my_output"

def MissingClaim.message : MissingClaim → String
  | .claimId => "no claim id associated with output"
  | .claimName => "output has no claim name"
  | .payload => "only claim name and update outputs carry a claim"
  | .signerNotChannel => "signing output is not a channel"
  | .notChannel => "output is not a channel claim"

def SignatureFault.message : SignatureFault → String
  | .noChannel => "claim names no signing channel"
  | .unsigned => "claim is not signed"
  | .notPublicKeyInfo => "public key is not a secp256k1 SubjectPublicKeyInfo"
  | .publicKeyPoint => "invalid public key point: malformed public key"
  | .rawLength length => s!"expected a 64-byte signature, got {length}"
  | .scalars => "invalid signature scalars: malformed signature"
  | .encoding => "invalid DER signature: malformed signature"
  | .verification => "signature failed verification"

def WorkerFault.message : WorkerFault → String
  | .stopped => "block index worker has stopped"
  | .droppedQuery => "block index worker dropped the query"
  | .panicked => "block index worker panicked"

/-- The text shown for an error. -/
def Error.message : Error → String
  | .malformed cause => "malformed data: " ++ cause.message
  | .unsupportedOutput cause => "unsupported output: " ++ cause.message
  | .unresolvedReference cause => "unresolved reference: " ++ cause.message
  | .annotationMissing needed => "missing annotation: " ++ needed.name ++ " is not set"
  | .noClaim cause => "no claim: " ++ cause.message
  | .invalidSignature cause => "invalid signature: " ++ cause.message
  | .missingPrivateKey => "channel has no private key to sign with"
  | .alreadyOpen => "block index is already open"
  | .notOpen => "block index is not open"
  | .worker cause => "worker failure: " ++ cause.message
  | .database => "database failure"

/-- A sequence succeeds when its parts do. -/
theorem Error.bind_ok_iff {α β : Type} {first : Except Error α} {next : α → Except Error β}
    {result : β} :
    first >>= next = .ok result ↔ ∃ value, first = .ok value ∧ next value = .ok result := by
  cases first with
  | error cause => simp [Bind.bind, Except.bind]
  | ok value => simp [Bind.bind, Except.bind]

end ClaimLedger
