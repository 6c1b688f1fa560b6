import ClaimLedger.Bytes.Basic
import ClaimLedger.Bytes.Text

/-! Names for transactions and their outputs. A transaction is named by its hash
together with the height it was seen at; an output by the transaction hash and
its position. Hashes are kept in wire order and shown reversed. -/
namespace ClaimLedger

/-- The largest position an output can be named by is one less than this. -/
def positionLimit : Nat := 0x100000000

/-- A transaction hash shown as text: the bytes reversed, in hexadecimal. -/
def txidText (hash : Hash256) : String :=
  Hex.encode hash.reverse.toList

/-- A transaction as its inputs and outputs refer to it. -/
structure TxRef where
  hash : Hash256
  height : Int
  deriving DecidableEq

namespace TxRef

/-- The reference of coinbase inputs, which spend nothing. -/
def null : TxRef := ⟨FixedBytes.zeros 32, -1⟩

def id (ref : TxRef) : String := txidText ref.hash

/-- Only the hash decides; the height of a null reference is arbitrary. -/
def isNull (ref : TxRef) : Bool := ref.hash = FixedBytes.zeros 32

end TxRef

/-- An output by transaction hash and position, without the output itself. -/
structure Outpoint where
  txid : Hash256
  position : UInt32
  deriving DecidableEq

namespace Outpoint

/-- The transaction id, a colon, and the position. -/
def text (point : Outpoint) : String :=
  txidText point.txid ++ ":" ++ toString point.position.toNat

/-- The wire form: hash bytes, then the position, least significant byte first. -/
def wire (point : Outpoint) : FixedBytes 36 :=
  ⟨point.txid.toList ++ leBytes 4 point.position.toNat, by
    simp [point.txid.length_toList]⟩

/-- Hashes are compared byte by byte in wire order, then positions. -/
def order (a b : Outpoint) : Ordering :=
  (compareOfLessAndEq a.txid.toList b.txid.toList).then
    (compareOfLessAndEq a.position b.position)

end Outpoint

/-- The place of an input or output inside the transaction that owns it. -/
structure Attachment where
  owner : TxRef
  position : UInt32
  deriving DecidableEq

/-- The outpoint at a place. -/
def Attachment.outpoint (place : Attachment) : Outpoint :=
  ⟨place.owner.hash, place.position⟩

end ClaimLedger
