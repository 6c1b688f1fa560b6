import ClaimLedger.Output.Edit
import ClaimLedger.Transaction.Parse
import ClaimLedger.Transaction.Signing

/-! Everything that can happen to a transaction after it was made or read: the
operations, what each does, and the transactions that runs of them reach. An
operation that fails may still have changed the transaction. -/
namespace ClaimLedger.Transaction

inductive Operation where
  | addInputs (inputs : List Input)
  | addOutputs (outputs : List Output)
  | setVersion (version : UInt32)
  | setLocktime (locktime : UInt32)
  | setHeight (height : Int)
  | setStatus (position : Int) (isVerified : Bool)
  | invalidate
  | annotate (index : Nat) (edit : Annotations → Annotations)
  | modify (index : Nat) (edit : EStateM Error Output Unit)
  | sign (index : Nat) (channel : Output) (anchor : Option Bytes)
  | clear (index : Nat)
  | installKey (index : Nat) (fresh : ChannelKey)
  | look (index : Nat) (how : Output.Read)
  | ordinalDay (ledger : Ledger)

/-- One operation: what went wrong, if anything did, and the transaction after
it. -/
def Operation.perform (op : Operation) (tx : Transaction) : EStateM.Result Error Transaction Unit :=
  match op with
  | .addInputs inputs => .ok () (tx.addInputs inputs)
  | .addOutputs outputs => .ok () (tx.addOutputs outputs)
  | .setVersion version => .ok () (tx.setVersion version)
  | .setLocktime locktime => .ok () (tx.setLocktime locktime)
  | .setHeight height => .ok () (tx.setHeight height)
  | .setStatus position isVerified => .ok () (tx.setStatus position isVerified)
  | .invalidate => .ok () tx.invalidate
  | .annotate index edit => .ok () (tx.editAnnotations index edit)
  | .modify index edit => modifyOutput index edit tx
  | .sign index channel anchor => signOutput index channel anchor tx
  | .clear index => clearOutputSignature index tx
  | .installKey index fresh =>
    match installChannelKey index fresh tx with
    | .ok _ tx => .ok () tx
    | .error cause tx => .error cause tx
  | .look index how => .ok () (tx.afterRead index how)
  | .ordinalDay ledger => .ok () (tx.ordinalDay ledger).2

/-- The transaction after an operation, whether or not it failed. -/
def apply (tx : Transaction) (op : Operation) : Transaction :=
  match op.perform tx with
  | .ok _ tx => tx
  | .error _ tx => tx

/-- The transaction after operations in order. -/
def run (tx : Transaction) (ops : List Operation) : Transaction :=
  ops.foldl apply tx

/-- Transactions that are new, or read from some place in some bytes, or reached
from such by operations. -/
inductive Reachable : Transaction → Prop where
  | new (version locktime : UInt32) : Reachable (Transaction.new version locktime)
  | parsed {before after : Cursor} {tx : Transaction}
      (accepted : read before = .ok tx after) : Reachable tx
  | operated {tx : Transaction} (earlier : Reachable tx) (op : Operation) :
      Reachable (tx.apply op)

end ClaimLedger.Transaction
