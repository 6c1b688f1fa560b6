import Mathlib.Algebra.Order.BigOperators.Group.List
import Mathlib.Data.Int.Bitwise
import Mathlib.Data.List.Permutation
import ClaimLedger.Ledger
import ClaimLedger.Proofs.IndexAnswers

/-! The two queries about blocks tell of the same blocks: those whose data and undo data are on
disk. One lists the blocks of a file above a height, the other has their totals. Both are described
here by the blocks recorded, whatever they are: blocks may share files, offsets and heights, and
heights and status words may be negative. -/
namespace ClaimLedger.BlockIndex

/-! ## Blocks on disk -/

theorem hasBit_two_pow (bit : Nat) (n : Int) : hasBit (2 ^ bit) n = n.testBit bit := by
  cases n with
  | ofNat n =>
    simp only [hasBit, Int.testBit, Nat.testBit_eq_decide_div_mod_eq, Int.ofNat_eq_natCast]
    norm_cast
  | negSucc n =>
    have pos : (0 : Int) < 2 ^ bit := Int.pow_pos (by decide)
    have quotient : (n : Int).ediv (2 ^ bit) = ((n / 2 ^ bit : Nat) : Int) := by norm_cast
    rw [hasBit, Int.negSucc_ediv _ pos, quotient, Int.testBit, Nat.testBit_eq_decide_div_mod_eq,
      ← decide_not, decide_eq_decide]
    omega

/-- The status of the block has the bits for its data and for its undo data. -/
def BlockRecord.OnDisk (block : BlockRecord) : Prop :=
  block.status.testBit 0 = true ∧ block.status.testBit 2 = true

instance (block : BlockRecord) : Decidable block.OnDisk := by
  unfold BlockRecord.OnDisk
  infer_instance

theorem BlockRecord.isStored_eq (block : BlockRecord) : block.isStored = decide block.OnDisk := by
  have data : hasBit 1 block.status = block.status.testBit 0 := hasBit_two_pow 0 block.status
  have undo : hasBit 4 block.status = block.status.testBit 2 := hasBit_two_pow 2 block.status
  rw [Bool.eq_iff_iff, decide_eq_true_iff, isStored, data, undo, Bool.and_eq_true, OnDisk]

/-- The blocks on disk in a file, in the order in which they were added. -/
def Records.onDisk (records : Records) (file : Int) : List BlockRecord :=
  records.blocks.filter fun block => block.OnDisk ∧ block.file = file

/-- Those above a height. -/
def Records.onDiskAbove (records : Records) (file above : Int) : List BlockRecord :=
  (records.onDisk file).filter fun block => above < block.height

variable {records : Records}

theorem Records.within_eq (file above : Int) :
    records.within file above = records.onDiskAbove file above := by
  simp only [Records.within, onDiskAbove, onDisk, List.filter_filter, BlockRecord.isStored_eq]
  congr 1
  funext block
  grind

/-! ## Listing blocks -/

/-- Items with the same key stay in the order they had. -/
theorem filter_mergeSort_key {α κ : Type} [LE κ] [DecidableLE κ] [DecidableEq κ]
    [Std.IsLinearOrder κ] (key : α → κ) (items : List α) (k : κ) :
    (items.mergeSort fun a b => key a ≤ key b).filter (key · = k) =
      items.filter (key · = k) := by
  have tied : (items.filter (key · = k)).Pairwise fun a b => decide (key a ≤ key b) = true := by
    refine List.pairwise_of_forall_mem_list fun a memberA b memberB => ?_
    have keyA : key a = k := of_decide_eq_true (List.mem_filter.mp memberA).2
    have keyB : key b = k := of_decide_eq_true (List.mem_filter.mp memberB).2
    exact decide_eq_true (keyA ▸ keyB ▸ Std.le_refl _)
  have kept : (items.filter (key · = k)).Sublist (items.mergeSort fun a b => key a ≤ key b) :=
    List.sublist_mergeSort (fun a b c => by simpa using fun less less' => Std.le_trans less less')
      (fun a b => by simpa using Std.le_total) tied List.filter_sublist
  have kept := kept.filter (key · = k)
  rw [List.filter_filter] at kept
  simp only [Bool.and_self] at kept
  exact (kept.eq_of_length ((List.mergeSort_perm _ _).filter _).length_eq.symm).symm

/-! ## Totals -/

/-- The row has the totals of a file over a list of rows. -/
structure BlockFile.TotalsOf (total : BlockFile) (file : Int) (rows : List BlockInFile) : Prop where
  file : total.file = file
  blocks : total.blocks = rows.length
  txs : total.txs = (rows.map BlockInFile.txs).sum
  highest : ∃ row ∈ rows, row.height = total.maxHeight
  limit : ∀ row ∈ rows, row.height ≤ total.maxHeight

theorem BlockFile.totalsOf_total (file : Int) {blocks : List BlockRecord} (nonempty : blocks ≠ []) :
    (total file blocks).TotalsOf file (blocks.map BlockInFile.ofRecord) where
  file := rfl
  blocks := by rw [List.length_map, total]
  txs := by rw [List.map_map]; rfl
  highest := by
    obtain ⟨block, member, attains⟩ := Relational.maximum_attained BlockRecord.height nonempty
    exact ⟨.ofRecord block, List.mem_map_of_mem member, attains⟩
  limit := List.forall_mem_map.mpr fun block member =>
    Relational.le_maximum BlockRecord.height member

theorem BlockFile.TotalsOf.perm {total : BlockFile} {file : Int} {rows others : List BlockInFile}
    (totals : total.TotalsOf file rows) (same : rows.Perm others) :
    total.TotalsOf file others where
  file := totals.file
  blocks := totals.blocks.trans (congrArg Nat.cast same.length_eq)
  txs := totals.txs.trans (same.map _).sum_eq
  highest := by
    obtain ⟨row, member, attains⟩ := totals.highest
    exact ⟨row, same.mem_iff.mp member, attains⟩
  limit row member := totals.limit row (same.mem_iff.mpr member)

namespace Memory

theorem perm_blocksInFile (file above : Int) :
    (blocksInFile records file above).Perm
      ((records.onDiskAbove file above).map BlockInFile.ofRecord) := by
  rw [← records.within_eq]
  exact List.mergeSort_perm _ _

theorem blocksInFile_eq_nil_iff (file above : Int) :
    blocksInFile records file above = [] ↔ records.onDiskAbove file above = [] := by
  rw [← List.length_eq_zero_iff, (perm_blocksInFile file above).length_eq, List.length_map,
    List.length_eq_zero_iff]

/-- Blocks at one offset are listed as they were added. -/
theorem filter_blocksInFile (file above offset : Int) :
    (blocksInFile records file above).filter (·.dataOffset = offset) =
      ((records.onDiskAbove file above).map BlockInFile.ofRecord).filter
        (·.dataOffset = offset) := by
  rw [← records.within_eq]
  exact filter_mergeSort_key BlockInFile.dataOffset _ offset

/-- With both filters there is one row at most. -/
theorem mem_blockFiles_filtered {file above : Int} {total : BlockFile} :
    total ∈ blockFiles records (some file) (some above) ↔
      records.onDiskAbove file above ≠ [] ∧
        total = .total file (records.onDiskAbove file above) := by
  have counted : records.counted (some file) (some above) = records.onDiskAbove file above := by
    simp only [Records.counted, Records.onDiskAbove, Records.onDisk, List.filter_filter, fileFilter,
      BlockRecord.isStored_eq]
    congr 1
    funext block
    grind
  have ofFile : ∀ block ∈ records.onDiskAbove file above, block.file = file := by
    simp [Records.onDiskAbove, Records.onDisk]
  rw [enumerates_blockFiles.listed, Records.IsTotal, counted]
  by_cases same : total.file = file
  · rw [same, List.filter_eq_self.mpr fun block member => decide_eq_true (ofFile block member)]
  · rw [List.filter_eq_nil_iff.mpr fun block member there =>
      same ((of_decide_eq_true there).symm.trans (ofFile block member))]
    constructor
    · exact fun listed => absurd rfl listed.1
    · rintro ⟨-, rfl⟩
      exact absurd rfl same

theorem blockFiles_filtered_eq_nil_iff (file above : Int) :
    blockFiles records (some file) (some above) = [] ↔ records.onDiskAbove file above = [] := by
  rw [List.eq_nil_iff_forall_not_mem]
  simp only [mem_blockFiles_filtered, not_and]
  constructor
  · intro unlisted
    by_contra stored
    exact unlisted _ stored rfl
  · exact fun empty total stored => absurd empty stored

theorem blockFiles_filtered {file above : Int} (stored : records.onDiskAbove file above ≠ []) :
    blockFiles records (some file) (some above) =
      [.total file (records.onDiskAbove file above)] := by
  refine enumerates_blockFiles.unique ⟨List.pairwise_singleton _ _, fun total => ?_⟩
  rw [List.mem_singleton, ← enumerates_blockFiles.listed, mem_blockFiles_filtered]
  exact (and_iff_right stored).symm

/-- With one filter at most, no block on disk is left out. -/
theorem mem_blockFiles_unfiltered {file above : Option Int} (partly : file = none ∨ above = none)
    {total : BlockFile} :
    total ∈ blockFiles records file above ↔
      records.onDisk total.file ≠ [] ∧ total = .total total.file (records.onDisk total.file) := by
  have counted : (records.counted file above).filter (·.file = total.file) =
      records.onDisk total.file := by
    have unfiltered (block : BlockRecord) : fileFilter file above block = true := by
      rcases partly with rfl | rfl
      · rfl
      · cases file <;> rfl
    simp only [Records.counted, Records.onDisk, List.filter_filter, unfiltered,
      BlockRecord.isStored_eq]
    congr 1
    funext block
    grind
  rw [enumerates_blockFiles.listed, Records.IsTotal, counted]

theorem exists_total_iff {file above : Option Int} (partly : file = none ∨ above = none)
    (other : Int) :
    (∃ total ∈ blockFiles records file above, total.file = other) ↔
      ∃ block ∈ records.blocks, block.OnDisk ∧ block.file = other := by
  have onDisk : (∃ block ∈ records.blocks, block.OnDisk ∧ block.file = other) ↔
      records.onDisk other ≠ [] := by
    simp [Records.onDisk, List.filter_eq_nil_iff]
  simp only [onDisk, mem_blockFiles_unfiltered partly]
  constructor
  · rintro ⟨total, ⟨stored, -⟩, rfl⟩
    exact stored
  · exact fun stored => ⟨.total other (records.onDisk other), ⟨stored, rfl⟩, rfl⟩

/-! ## Both queries -/

/-- The blocks listed are those on disk in the file above the height, in the order of their
offsets, and as they were added where offsets are the same. With the same two filters the totals
are those of what is listed, or there are none if nothing is. With one filter at most there is one
row for each file with a block on disk, in the order of the files, over all blocks on disk in it. -/
theorem block_queries_agree (records : Records) (file above : Int) :
    let stored := (records.onDiskAbove file above).map BlockInFile.ofRecord
    let rows := blocksInFile records file above
    (rows.Perm stored ∧ rows.Pairwise (·.dataOffset ≤ ·.dataOffset) ∧
      ∀ offset, rows.filter (·.dataOffset = offset) = stored.filter (·.dataOffset = offset)) ∧
    ((blockFiles records (some file) (some above) = [] ↔ rows = []) ∧
      (rows ≠ [] → ∃ total : BlockFile,
        blockFiles records (some file) (some above) = [total] ∧ total.TotalsOf file rows)) ∧
    ∀ fileGiven heightGiven : Option Int, fileGiven = none ∨ heightGiven = none →
      let totals := blockFiles records fileGiven heightGiven
      totals.Pairwise (·.file < ·.file) ∧
      (∀ other, (∃ total ∈ totals, total.file = other) ↔
        ∃ block ∈ records.blocks, block.OnDisk ∧ block.file = other) ∧
      ∀ total ∈ totals,
        total.TotalsOf total.file ((records.onDisk total.file).map BlockInFile.ofRecord) := by
  intro stored rows
  have permuted : rows.Perm stored := perm_blocksInFile file above
  have empty : rows = [] ↔ records.onDiskAbove file above = [] := blocksInFile_eq_nil_iff file above
  refine ⟨⟨permuted, pairwise_mergeSort_key _ _, filter_blocksInFile file above⟩,
    ⟨?_, fun listed => ?_⟩, fun fileGiven heightGiven partly =>
      ⟨enumerates_blockFiles.ascending, exists_total_iff partly, fun total member => ?_⟩⟩
  · rw [empty, blockFiles_filtered_eq_nil_iff]
  · have nonempty := mt empty.mpr listed
    exact ⟨_, blockFiles_filtered nonempty,
      (BlockFile.totalsOf_total file nonempty).perm permuted.symm⟩
  · obtain ⟨stored, same⟩ := (mem_blockFiles_unfiltered partly).mp member
    rw [same]
    exact BlockFile.totalsOf_total total.file stored

/-- Blocks at one offset, one below height zero, one without undo data, and one with a negative
status. -/
def shelf : Records where
  blocks := [⟨2, 9, 5, [1], 3, 5⟩, ⟨2, 9, -7, [2], 4, 13⟩, ⟨2, 1, 8, [3], 1, 1⟩,
    ⟨2, 0, -3, [4], 2, -1⟩, ⟨1, 0, -3, [5], 6, 29⟩]
  claims := []
  takeovers := []

theorem block_queries_agree_shelf :
    blocksInFile shelf 2 (-8) = [⟨0, -3, [4], 2⟩, ⟨9, 5, [1], 3⟩, ⟨9, -7, [2], 4⟩] ∧
    (∃ total : BlockFile, blockFiles shelf (some 2) (some (-8)) = [total] ∧
      total.TotalsOf 2 (blocksInFile shelf 2 (-8))) ∧
    (blockFiles shelf none (some 0)).Pairwise (·.file < ·.file) := by
  obtain ⟨-, ⟨-, totals⟩, partly⟩ := block_queries_agree shelf 2 (-8)
  have rows : blocksInFile shelf 2 (-8) = [⟨0, -3, [4], 2⟩, ⟨9, 5, [1], 3⟩, ⟨9, -7, [2], 4⟩] := by
    cbv
  exact ⟨rows, totals (by rw [rows]; exact List.cons_ne_nil _ _),
    (partly none (some 0) (.inl rfl)).1⟩

end Memory

/-! ## Totals in signed words

An index may keep the totals in signed words. It has the same totals as long as none of them leaves
the words on the way. -/

/-- The totals fit signed words. -/
def BlockFile.InWords (total : BlockFile) : Prop :=
  InSigned64 total.blocks ∧ InSigned64 total.txs

instance (total : BlockFile) : Decidable total.InWords := by
  unfold BlockFile.InWords
  infer_instance

/-- So do those over fewer blocks, where no block has a negative number of transactions. -/
theorem BlockFile.InWords.of_sublist {file : Int} {blocks fewer : List BlockRecord}
    (fit : (total file blocks).InWords) (sublist : fewer.Sublist blocks)
    (nonneg : ∀ block ∈ blocks, 0 ≤ block.txCount) : (total file fewer).InWords := by
  have counts : ∀ n ∈ blocks.map BlockRecord.txCount, 0 ≤ n := List.forall_mem_map.mpr nonneg
  have length := sublist.length_le
  have least : 0 ≤ (fewer.map BlockRecord.txCount).sum :=
    List.sum_nonneg fun n member => counts n ((sublist.map _).subset member)
  have most := (sublist.map BlockRecord.txCount).sum_le_sum counts
  obtain ⟨⟨-, blocksFit⟩, -, txsFit⟩ := fit
  change (blocks.length : Int) < _ at blocksFit
  change (blocks.map BlockRecord.txCount).sum < _ at txsFit
  change InSigned64 fewer.length ∧ InSigned64 (fewer.map BlockRecord.txCount).sum
  unfold InSigned64
  omega

namespace Memory

variable {blocks : List BlockRecord} {file above : Option Int}

/-- The totals after one more block, if they fit. -/
def countBlockInWords? (totals : List BlockFile) (block : BlockRecord) : Option (List BlockFile) :=
  let later := countBlock block totals
  if ∀ total ∈ later, total.InWords then some later else none

/-- The totals for each file, if they fit after each block. -/
def blockFilesInWords? (records : Records) (file above : Option Int) : Option (List BlockFile) :=
  (records.counted file above).foldlM countBlockInWords? []

theorem countBlockInWords?_eq_some_iff {before found : List BlockFile} {block : BlockRecord} :
    countBlockInWords? before block = some found ↔
      found = countBlock block before ∧ ∀ total ∈ countBlock block before, total.InWords := by
  simp only [countBlockInWords?, Option.ite_none_right_eq_some, Option.some.injEq]
  exact and_comm.trans (and_congr_left' eq_comm)

theorem foldlM_countBlockInWords?_eq_some_iff {found : List BlockFile} :
    blocks.foldlM countBlockInWords? [] = some found ↔
      found = totals blocks ∧
      ∀ front, front <+: blocks → ∀ total ∈ totals front, total.InWords := by
  induction blocks using List.reverseRecOn generalizing found with
  | nil => simp [totals, eq_comm]
  | append_singleton blocks block ih =>
    have counted : totals (blocks ++ [block]) = countBlock block (totals blocks) := by
      simp only [totals, List.foldl_append, List.foldl_cons, List.foldl_nil]
    simp only [List.foldlM_append, List.foldlM_cons, List.foldlM_nil, bind_pure,
      Option.bind_eq_bind, Option.bind_eq_some_iff, ih, countBlockInWords?_eq_some_iff,
      List.prefix_concat_iff, forall_eq_or_imp, counted]
    constructor
    · rintro ⟨_, ⟨rfl, fit⟩, rfl, last⟩
      exact ⟨rfl, last, fit⟩
    · rintro ⟨rfl, last, fit⟩
      exact ⟨_, ⟨rfl, fit⟩, rfl, last⟩

/-- A file without blocks has no row, and its totals are zero. -/
theorem forall_mem_totals_inWords :
    (∀ total ∈ totals blocks, total.InWords) ↔
      ∀ number, (BlockFile.total number (blocks.filter (·.file = number))).InWords := by
  have listed := (enumerates_totals blocks).listed
  constructor
  · intro fit number
    by_cases none : blocks.filter (·.file = number) = []
    · rw [none]
      change InSigned64 0 ∧ InSigned64 0
      decide
    · exact fit _ ((listed _).mpr ⟨none, rfl⟩)
  · intro fit total member
    rw [((listed total).mp member).2]
    exact fit total.file

/-- Words go wrong nowhere just if, whichever blocks were counted already, the totals of each file
over them fit. -/
theorem blockFilesInWords?_eq_some_iff {found : List BlockFile} :
    blockFilesInWords? records file above = some found ↔
      found = blockFiles records file above ∧
      ∀ front, front <+: records.counted file above → ∀ number,
        (BlockFile.total number (front.filter (·.file = number))).InWords := by
  simp only [blockFilesInWords?, foldlM_countBlockInWords?_eq_some_iff, blockFiles_eq,
    forall_mem_totals_inWords]

/-- Where no block has a negative number of transactions, it is enough that the totals fit in the
end. -/
theorem blockFilesInWords?_of_nonneg (nonneg : ∀ block ∈ records.blocks, 0 ≤ block.txCount)
    (fit : ∀ total ∈ blockFiles records file above, total.InWords) :
    blockFilesInWords? records file above = some (blockFiles records file above) := by
  refine blockFilesInWords?_eq_some_iff.mpr ⟨rfl, fun front before number => ?_⟩
  rw [blockFiles_eq, forall_mem_totals_inWords] at fit
  refine (fit number).of_sublist (before.sublist.filter _) fun block member => nonneg block ?_
  exact List.mem_of_mem_filter (List.mem_of_mem_filter member)

end Memory

end ClaimLedger.BlockIndex
