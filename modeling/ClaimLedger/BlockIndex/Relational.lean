import ClaimLedger.BlockIndex.Rows

/-! Answering queries by their relational meaning: select, join, group,
aggregate and order whole lists of rows. Rows of a group that has the maximum
aggregated take their other columns from the first row that attains it. -/
namespace ClaimLedger.BlockIndex.Relational

/-- The keys of a list of rows, each once. -/
def distinct {α : Type} [DecidableEq α] : List α → List α
  | [] => []
  | a :: rest => a :: (distinct rest).filter fun b => b ≠ a

/-- The groups of rows with equal keys, in the order of the keys. -/
def groupBy {α κ : Type} [DecidableEq κ] (le : κ → κ → Bool) (key : α → κ) (rows : List α) :
    List (κ × List α) :=
  ((distinct (rows.map key)).mergeSort le).map fun k => (k, rows.filter fun row => key row = k)

/-- The greatest value of a column; zero for no rows. -/
def maximum {α : Type} (column : α → Int) : List α → Int
  | [] => 0
  | row :: rest => rest.foldl (fun m row => max m (column row)) (column row)

/-- Stored blocks under a filter, grouped by file: their number, the sum of
their transactions and their greatest height. -/
def blockFiles (records : Records) (file above : Option Int) : List BlockFile :=
  let rows := records.blocks.filter fun block => block.isStored && fileFilter file above block
  (groupBy (· ≤ ·) BlockRecord.file rows).map fun group =>
    ⟨group.1, group.2.length, (group.2.map BlockRecord.txCount).foldr (· + ·) 0,
      maximum BlockRecord.height group.2⟩

/-- The stored blocks of a file above a height, ordered by offset. -/
def blocksInFile (records : Records) (file above : Int) : List BlockInFile :=
  let rows := records.blocks.filter fun block =>
    block.file = file && above < block.height && block.isStored
  (rows.mergeSort fun a b => a.dataOffset ≤ b.dataOffset).map BlockInFile.ofRecord

/-- Takeovers joined with the claims of the same hash. -/
def joined (records : Records) : List (TakeoverRecord × ClaimRecord) :=
  records.takeovers.flatMap fun takeover =>
    (records.claims.filter fun claim => claim.claimHash = takeover.claimHash).map
      fun claim => (takeover, claim)

/-- The row of a group of joined rows: the greatest height, and the other columns
of a row that has it. -/
def entryOfGroup? (name : Bytes) (rows : List (TakeoverRecord × ClaimRecord)) :
    Option ClaimtrieEntry :=
  let height := maximum (fun row => row.1.height) rows
  if height = 0 then none
  else (rows.find? fun row => row.1.height = height).map fun row =>
    ⟨name, row.1.claimHash, height, row.2.heights⟩

/-- Joined rows grouped by name; groups whose greatest height is zero are left
out. -/
def claimtrie (records : Records) : List ClaimtrieEntry :=
  (groupBy (· ≤ ·) (fun row => row.1.name) (joined records)).filterMap fun group =>
    entryOfGroup? group.1 group.2

def claims (records : Records) : List ClaimRow :=
  records.claims.map ClaimRow.ofRecord

def answer (records : Records) : Query → Rows
  | .blockFiles file above => .blockFiles (blockFiles records file above)
  | .blocksInFile file above => .blocksInFile (blocksInFile records file above)
  | .claimtrie => .claimtrie (claimtrie records)
  | .claims => .claims (claims records)

end ClaimLedger.BlockIndex.Relational
