import ClaimLedger.BlockIndex.Rows

/-! Answering queries from records in memory, by one pass over them. Totals and
takeovers accumulate in lists that stay sorted by file number or by name. -/
namespace ClaimLedger.BlockIndex.Memory

/-- Counts a block into the totals of its file. -/
def countBlock (block : BlockRecord) : List BlockFile → List BlockFile
  | [] => [⟨block.file, 1, block.txCount, block.height⟩]
  | total :: rest =>
    if block.file < total.file then ⟨block.file, 1, block.txCount, block.height⟩ :: total :: rest
    else if block.file = total.file then
      ⟨total.file, total.blocks + 1, total.txs + block.txCount,
        max total.maxHeight block.height⟩ :: rest
    else total :: countBlock block rest

/-- Totals of stored blocks for each file, in the order of file numbers. -/
def blockFiles (records : Records) (file above : Option Int) : List BlockFile :=
  let blocks := (records.blocks.filter BlockRecord.isStored).filter (fileFilter file above)
  blocks.foldl (fun totals block => countBlock block totals) []

/-- The stored blocks of a file above a height, in the order of their offsets. -/
def blocksInFile (records : Records) (file above : Int) : List BlockInFile :=
  let blocks := records.blocks.filter fun block =>
    block.file = file && above < block.height && block.isStored
  (blocks.map BlockInFile.ofRecord).mergeSort fun a b => a.dataOffset ≤ b.dataOffset

/-- The row of a takeover by a known claim. -/
def entryOf (takeover : TakeoverRecord) (claim : ClaimRecord) : ClaimtrieEntry :=
  ⟨takeover.name, takeover.claimHash, takeover.height, claim.heights⟩

/-- Enters a takeover of a name; a later one at the same height does not
replace an earlier one. -/
def enterTakeover (entry : ClaimtrieEntry) : List ClaimtrieEntry → List ClaimtrieEntry
  | [] => [entry]
  | current :: rest =>
    if entry.name < current.name then entry :: current :: rest
    else if entry.name = current.name then
      (if current.takeoverHeight < entry.takeoverHeight then entry else current) :: rest
    else current :: enterTakeover entry rest

/-- The latest takeover of each name among those by known claims, in the order
of names. Names whose latest takeover is at height zero are left out. -/
def claimtrie (records : Records) : List ClaimtrieEntry :=
  let known := records.takeovers.filterMap fun takeover =>
    (records.claims.find? fun claim => claim.claimHash = takeover.claimHash).map
      (entryOf takeover)
  (known.foldl (fun entries entry => enterTakeover entry entries) []).filter
    fun entry => entry.takeoverHeight ≠ 0

def claims (records : Records) : List ClaimRow :=
  records.claims.map ClaimRow.ofRecord

def answer (records : Records) : Query → Rows
  | .blockFiles file above => .blockFiles (blockFiles records file above)
  | .blocksInFile file above => .blocksInFile (blocksInFile records file above)
  | .claimtrie => .claimtrie (claimtrie records)
  | .claims => .claims (claims records)

end ClaimLedger.BlockIndex.Memory
