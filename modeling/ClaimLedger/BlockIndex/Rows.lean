import ClaimLedger.Error
import ClaimLedger.Text.Utf8

/-! The records of a block index and the rows its queries answer with. Hashes
and names are the bytes the node stores. Numbers are exact; an index that keeps
them in signed words answers alike as long as no running total of a file leaves
the words, which is what `Memory.blockFilesInWords?` watches. -/
namespace ClaimLedger.BlockIndex

/-- A block as the node recorded it. -/
structure BlockRecord where
  file : Int
  dataOffset : Int
  height : Int
  hash : Bytes
  txCount : Int
  status : Int
  deriving DecidableEq

/-- The heights in the life of a claim. -/
structure Lifecycle where
  creation : Int
  update : Int
  valid : Int
  activation : Int
  expiration : Int
  deriving DecidableEq

/-- A claim as the node recorded it. -/
structure ClaimRecord where
  claimHash : Bytes
  name : Bytes
  txHash : Bytes
  position : Int
  amount : Int
  heights : Lifecycle
  deriving DecidableEq

/-- A claim took control of a name at a height. -/
structure TakeoverRecord where
  name : Bytes
  height : Int
  claimHash : Bytes
  deriving DecidableEq

/-- Everything that is recorded, in the order it was added. -/
structure Records where
  blocks : List BlockRecord
  claims : List ClaimRecord
  takeovers : List TakeoverRecord
  deriving DecidableEq

/-- Totals over the stored blocks of a file. -/
structure BlockFile where
  file : Int
  blocks : Int
  txs : Int
  maxHeight : Int
  deriving DecidableEq

/-- A block inside its file. -/
structure BlockInFile where
  dataOffset : Int
  height : Int
  hash : Bytes
  txs : Int
  deriving DecidableEq

/-- The claim in control of a name. -/
structure ClaimtrieEntry where
  name : Bytes
  claimHash : Bytes
  takeoverHeight : Int
  heights : Lifecycle
  deriving DecidableEq

structure ClaimRow where
  claimHash : Bytes
  txHash : Bytes
  position : Int
  amount : Int
  heights : Lifecycle
  deriving DecidableEq

/-- The bit with the given weight, for negative numbers too. -/
def hasBit (weight n : Int) : Bool :=
  n / weight % 2 = 1

/-- Blocks count once both their data and their undo data are on disk. -/
def BlockRecord.isStored (block : BlockRecord) : Bool :=
  hasBit 1 block.status && hasBit 4 block.status

/-- The name as text, as far as it is text. -/
def ClaimtrieEntry.nameText (entry : ClaimtrieEntry) : String :=
  Utf8.decodeLossy entry.name

def BlockInFile.ofRecord (block : BlockRecord) : BlockInFile :=
  ⟨block.dataOffset, block.height, block.hash, block.txCount⟩

def ClaimRow.ofRecord (claim : ClaimRecord) : ClaimRow :=
  ⟨claim.claimHash, claim.txHash, claim.position, claim.amount, claim.heights⟩

/-- What can be asked of an index. -/
inductive Query where
  | blockFiles (file above : Option Int)
  | blocksInFile (file above : Int)
  | claimtrie
  | claims
  deriving DecidableEq

/-- The rows that answer a query. -/
inductive Rows where
  | blockFiles (rows : List BlockFile)
  | blocksInFile (rows : List BlockInFile)
  | claimtrie (rows : List ClaimtrieEntry)
  | claims (rows : List ClaimRow)
  deriving DecidableEq

/-- The filter of a file query: it applies only when both a file and a height
are given. -/
def fileFilter (file above : Option Int) (block : BlockRecord) : Bool :=
  match file, above with
  | some file, some above => block.file = file && above < block.height
  | _, _ => true

end ClaimLedger.BlockIndex
