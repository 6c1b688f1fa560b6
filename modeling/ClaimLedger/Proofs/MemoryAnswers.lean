import ClaimLedger.BlockIndex.Memory
import ClaimLedger.BlockIndex.Relational
import ClaimLedger.Proofs.AscendingEntries

/-! What the answers from records in memory list. Each is told here by the rows that are in it
and the key they are in the order of, without a word about the order of the records. -/
namespace ClaimLedger.BlockIndex

/-! ## What is listed -/

/-- The totals over blocks of a file. -/
def BlockFile.total (file : Int) (blocks : List BlockRecord) : BlockFile :=
  ⟨file, blocks.length, (blocks.map BlockRecord.txCount).foldr (· + ·) 0,
    Relational.maximum BlockRecord.height blocks⟩

namespace Records

/-- The blocks that count for totals under a filter. -/
def counted (records : Records) (file above : Option Int) : List BlockRecord :=
  records.blocks.filter fun block => block.isStored && fileFilter file above block

/-- The totals are over all blocks that count in their file, and there are some. -/
def IsTotal (records : Records) (file above : Option Int) (total : BlockFile) : Prop :=
  let blocks := (records.counted file above).filter fun block => block.file = total.file
  blocks ≠ [] ∧ total = .total total.file blocks

/-- The stored blocks of a file above a height. -/
def within (records : Records) (file above : Int) : List BlockRecord :=
  records.blocks.filter fun block =>
    block.file = file && above < block.height && block.isStored

/-- The claim took control at the takeover. -/
def Controls (records : Records) (takeover : TakeoverRecord) (claim : ClaimRecord) : Prop :=
  takeover ∈ records.takeovers ∧ claim ∈ records.claims ∧
    claim.claimHash = takeover.claimHash

/-- No known claim took control of the name later than the one of the entry did, and it did not
do so at height zero. -/
def IsLatest (records : Records) (entry : ClaimtrieEntry) : Prop :=
  ∃ takeover claim, records.Controls takeover claim ∧ entry = Memory.entryOf takeover claim ∧
    takeover.height ≠ 0 ∧
    ∀ other otherClaim, records.Controls other otherClaim → other.name = takeover.name →
      other.height ≤ takeover.height

/-- No two records have a key in common: neither two stored blocks, nor two claims, nor two
takeovers. -/
structure Keyed (records : Records) : Prop where
  blocks : ((records.blocks.filter BlockRecord.isStored).map fun block =>
    (block.file, block.dataOffset)).Nodup
  claims : (records.claims.map ClaimRecord.claimHash).Nodup
  takeovers : (records.takeovers.map fun takeover => (takeover.name, takeover.height)).Nodup

end Records

variable {records : Records} {file above : Option Int}

/-! ## Totals -/

namespace BlockFile

/-- The totals over one block. -/
def ofBlock (block : BlockRecord) : BlockFile :=
  ⟨block.file, 1, block.txCount, block.height⟩

/-- Totals over the blocks of both. -/
def plus (total other : BlockFile) : BlockFile :=
  ⟨total.file, total.blocks + other.blocks, total.txs + other.txs,
    max total.maxHeight other.maxHeight⟩

theorem foldl_plus (start : BlockFile) (blocks : List BlockRecord) :
    (blocks.map ofBlock).foldl plus start =
      ⟨start.file, start.blocks + blocks.length,
        start.txs + (blocks.map (·.txCount)).foldr (· + ·) 0,
        blocks.foldl (fun height block => max height block.height) start.maxHeight⟩ := by
  induction blocks generalizing start with
  | nil => simp
  | cons block rest ih =>
    rw [List.map_cons, List.foldl_cons, ih]
    simp only [plus, ofBlock, List.length_cons, Int.natCast_add, Int.cast_ofNat_Int,
      List.map_cons, List.foldr_cons, List.foldl_cons, mk.injEq, and_true, true_and]
    omega

/-- Blocks counted one after another come to their totals. -/
theorem merged?_plus {file : Int} {blocks : List BlockRecord}
    (inFile : ∀ block ∈ blocks, block.file = file) (nonempty : blocks ≠ []) :
    merged? plus (blocks.map ofBlock) = some (total file blocks) := by
  cases blocks with
  | nil => exact absurd rfl nonempty
  | cons block rest =>
    rw [List.map_cons, merged?, foldl_plus, ← inFile block List.mem_cons_self]
    simp only [ofBlock, total, List.length_cons, Int.natCast_add, Int.cast_ofNat_Int,
      List.map_cons, List.foldr_cons, Relational.maximum, Option.some.injEq, mk.injEq, and_self,
      and_true, true_and]
    omega

end BlockFile

namespace Memory

theorem countBlock_eq (block : BlockRecord) (totals : List BlockFile) :
    countBlock block totals =
      enter BlockFile.file BlockFile.plus (BlockFile.ofBlock block) totals := by
  induction totals with
  | nil => rfl
  | cons total rest ih =>
    rw [countBlock, ih]
    rfl

/-- Totals of blocks that are counted one after another. -/
def totals (blocks : List BlockRecord) : List BlockFile :=
  blocks.foldl (fun totals block => countBlock block totals) []

theorem enumerates_totals (blocks : List BlockRecord) :
    Enumerates BlockFile.file
      (fun total => blocks.filter (·.file = total.file) ≠ [] ∧
        total = .total total.file (blocks.filter (·.file = total.file))) (totals blocks) := by
  have entered := enumerates_enter BlockFile.file BlockFile.plus (fun _ _ same => same)
    (blocks.map BlockFile.ofBlock)
  rw [List.foldl_map] at entered
  simp only [totals, countBlock_eq]
  refine ⟨entered.ascending, fun total => (entered.listed total).trans ?_⟩
  have inFile : ∀ block ∈ blocks.filter (·.file = total.file), block.file = total.file := by simp
  rw [List.filter_map]
  change merged? BlockFile.plus
    ((blocks.filter (·.file = total.file)).map BlockFile.ofBlock) = some total ↔ _
  constructor
  · intro merged
    have nonempty : blocks.filter (·.file = total.file) ≠ [] := by
      intro none
      rw [none] at merged
      cases merged
    rw [BlockFile.merged?_plus inFile nonempty] at merged
    exact ⟨nonempty, (Option.some.inj merged).symm⟩
  · rintro ⟨nonempty, same⟩
    rw [BlockFile.merged?_plus inFile nonempty, ← same]

theorem blockFiles_eq : blockFiles records file above = totals (records.counted file above) := by
  simp only [blockFiles, totals, Records.counted, List.filter_filter, Bool.and_comm]

theorem enumerates_blockFiles :
    Enumerates BlockFile.file (records.IsTotal file above) (blockFiles records file above) := by
  rw [blockFiles_eq]
  exact enumerates_totals _

/-! ## Blocks of a file -/

/-- In one file stored blocks are told apart by their offsets. -/
theorem nodup_within (keyed : records.Keyed) (file above : Int) :
    ((records.within file above).map (·.dataOffset)).Nodup := by
  have inFile : records.within file above =
      (records.blocks.filter BlockRecord.isStored).filter fun block =>
        block.file = file && above < block.height := by
    simp [Records.within, List.filter_filter]
  have apart : ((records.within file above).map fun block =>
      (block.file, block.dataOffset)).Nodup :=
    keyed.blocks.sublist ((inFile ▸ List.filter_sublist).map _)
  have fixed : (records.within file above).map (fun block => (block.file, block.dataOffset)) =
      ((records.within file above).map (·.dataOffset)).map (Prod.mk file) := by
    rw [List.map_map]
    refine List.map_congr_left fun block member => ?_
    simp only [Records.within, List.mem_filter, Bool.and_eq_true, decide_eq_true_eq] at member
    rw [member.2.1.1, Function.comp_apply]
  exact (fixed ▸ apart).of_map

theorem enumerates_blocksInFile (keyed : records.Keyed) (file above : Int) :
    Enumerates BlockInFile.dataOffset
      (fun row => ∃ block ∈ records.within file above, BlockInFile.ofRecord block = row)
      (blocksInFile records file above) := by
  have sorted : (blocksInFile records file above).Perm
      ((records.within file above).map BlockInFile.ofRecord) := List.mergeSort_perm _ _
  refine enumerates_of_sorted (pairwise_mergeSort_key _ _) ?_ fun row => ?_
  · rw [(sorted.map _).nodup_iff, List.map_map]
    exact nodup_within keyed file above
  · rw [sorted.mem_iff, List.mem_map]

end Memory

/-! ## Takeovers -/

/-- The entry of the later takeover, the earlier entered one if neither is later. -/
def ClaimtrieEntry.later (current entry : ClaimtrieEntry) : ClaimtrieEntry :=
  if current.takeoverHeight < entry.takeoverHeight then entry else current

/-- The first of the latest entries is left. -/
theorem merged?_later {entries : List ClaimtrieEntry} {entry : ClaimtrieEntry}
    (merged : merged? ClaimtrieEntry.later entries = some entry) :
    ∃ before behind, entries = before ++ entry :: behind ∧
      (∀ other ∈ before, other.takeoverHeight < entry.takeoverHeight) ∧
      ∀ other ∈ behind, other.takeoverHeight ≤ entry.takeoverHeight := by
  induction entries using List.reverseRecOn generalizing entry with
  | nil => cases merged
  | append_singleton entries last ih =>
    rw [merged?_concat] at merged
    cases found : merged? ClaimtrieEntry.later entries with
    | none =>
      obtain rfl := merged?_eq_none_iff.mp found
      cases merged
      exact ⟨[], [], rfl, nofun, nofun⟩
    | some current =>
      obtain ⟨before, behind, rfl, lower, notHigher⟩ := ih found
      rw [found] at merged
      obtain rfl := Option.some.inj merged
      simp only [ClaimtrieEntry.later]
      split
      · rename_i higher
        refine ⟨before ++ current :: behind, [], rfl, fun other member => ?_, nofun⟩
        rcases List.mem_append.mp member with member | member
        · exact Int.lt_trans (lower other member) higher
        · rcases List.mem_cons.mp member with rfl | member
          · exact higher
          · exact Int.lt_of_le_of_lt (notHigher other member) higher
      · rename_i notHigherLast
        refine ⟨before, behind ++ [last], by simp, lower, fun other member => ?_⟩
        rcases List.mem_append.mp member with member | member
        · exact notHigher other member
        · rw [List.mem_singleton.mp member]
          exact Int.not_lt.mp notHigherLast

theorem latest_of_merged? {entries : List ClaimtrieEntry} {entry : ClaimtrieEntry}
    (merged : merged? ClaimtrieEntry.later entries = some entry) :
    entry ∈ entries ∧ ∀ other ∈ entries, other.takeoverHeight ≤ entry.takeoverHeight := by
  obtain ⟨before, behind, rfl, lower, notHigher⟩ := merged?_later merged
  refine ⟨List.mem_append_right _ List.mem_cons_self, fun other member => ?_⟩
  rcases List.mem_append.mp member with member | member
  · exact Int.le_of_lt (lower other member)
  · rcases List.mem_cons.mp member with rfl | member
    · exact Int.le_refl _
    · exact notHigher other member

namespace Records

/-- A name has one entry at a height. -/
theorem Keyed.entry_unique (keyed : records.Keyed) {takeover other : TakeoverRecord}
    {claim otherClaim : ClaimRecord} (controls : records.Controls takeover claim)
    (controls' : records.Controls other otherClaim) (name : takeover.name = other.name)
    (height : takeover.height = other.height) :
    Memory.entryOf takeover claim = Memory.entryOf other otherClaim := by
  obtain ⟨member, known, hash⟩ := controls
  obtain ⟨member', known', hash'⟩ := controls'
  obtain rfl : takeover = other :=
    List.inj_on_of_nodup_map keyed.takeovers member member' (by rw [name, height])
  obtain rfl : claim = otherClaim :=
    List.inj_on_of_nodup_map keyed.claims known known' (hash.trans hash'.symm)
  rfl

end Records

namespace Memory

theorem enterTakeover_eq (entry : ClaimtrieEntry) (entries : List ClaimtrieEntry) :
    enterTakeover entry entries =
      enter ClaimtrieEntry.name ClaimtrieEntry.later entry entries := by
  induction entries with
  | nil => rfl
  | cons current rest ih =>
    rw [enterTakeover, ih]
    rfl

/-- The entries of takeovers by known claims, in the order of the takeovers. -/
def known (records : Records) : List ClaimtrieEntry :=
  records.takeovers.filterMap fun takeover =>
    (records.claims.find? fun claim => claim.claimHash = takeover.claimHash).map
      (entryOf takeover)

theorem mem_known (keyed : records.Keyed) {entry : ClaimtrieEntry} :
    entry ∈ known records ↔
      ∃ takeover claim, records.Controls takeover claim ∧ entry = entryOf takeover claim := by
  simp only [known, List.mem_filterMap, Option.map_eq_some_iff]
  constructor
  · rintro ⟨takeover, member, claim, found, rfl⟩
    have hash : claim.claimHash = takeover.claimHash := by simpa using List.find?_some found
    exact ⟨takeover, claim, ⟨member, List.mem_of_find?_eq_some found, hash⟩, rfl⟩
  · rintro ⟨takeover, claim, ⟨member, known, same⟩, rfl⟩
    cases found : records.claims.find? fun claim => claim.claimHash = takeover.claimHash with
    | none => exact absurd (decide_eq_true same) (List.find?_eq_none.mp found claim known)
    | some other =>
      have hash : other.claimHash = takeover.claimHash := by simpa using List.find?_some found
      obtain rfl : other = claim := List.inj_on_of_nodup_map keyed.claims
        (List.mem_of_find?_eq_some found) known (hash.trans same.symm)
      exact ⟨takeover, member, other, found, rfl⟩

theorem claimtrie_eq : claimtrie records =
    ((known records).foldl
      (fun entries entry => enter ClaimtrieEntry.name ClaimtrieEntry.later entry entries)
      []).filter fun entry => entry.takeoverHeight ≠ 0 := by
  simp only [claimtrie, known, enterTakeover_eq]

/-- There is one row for a name, what its entries come to. -/
theorem enumerates_merged (records : Records) :
    Enumerates ClaimtrieEntry.name
      (fun entry => merged? ClaimtrieEntry.later
        ((known records).filter fun other => other.name = entry.name) = some entry ∧
          entry.takeoverHeight ≠ 0) (claimtrie records) := by
  have entered := (enumerates_enter ClaimtrieEntry.name ClaimtrieEntry.later
    (fun _ _ same => by unfold ClaimtrieEntry.later; split <;> simp [same])
    (known records)).filter fun entry => entry.takeoverHeight ≠ 0
  rw [claimtrie_eq]
  simpa only [decide_eq_true_eq] using entered

theorem enumerates_claimtrie (keyed : records.Keyed) :
    Enumerates ClaimtrieEntry.name records.IsLatest (claimtrie records) := by
  have merges := enumerates_merged records
  refine ⟨merges.ascending, fun entry => (merges.listed entry).trans ?_⟩
  have ofName {entry : ClaimtrieEntry} {name : Bytes} :
      entry ∈ (known records).filter (fun other => other.name = name) ↔
        (∃ takeover claim, records.Controls takeover claim ∧ entry = entryOf takeover claim) ∧
          entry.name = name := by
    rw [List.mem_filter, mem_known keyed, decide_eq_true_eq]
  constructor
  · rintro ⟨merged, nonzero⟩
    obtain ⟨member, latest⟩ := latest_of_merged? merged
    obtain ⟨⟨takeover, claim, controls, rfl⟩, -⟩ := ofName.mp member
    refine ⟨takeover, claim, controls, rfl, nonzero, ?_⟩
    exact fun other otherClaim controls' name =>
      latest (entryOf other otherClaim) (ofName.mpr ⟨⟨other, otherClaim, controls', rfl⟩, name⟩)
  · rintro ⟨takeover, claim, controls, rfl, nonzero, latest⟩
    refine ⟨?_, nonzero⟩
    have member := ofName.mpr ⟨⟨takeover, claim, controls, rfl⟩, rfl⟩
    cases merged : merged? ClaimtrieEntry.later
        ((known records).filter fun other => other.name = (entryOf takeover claim).name) with
    | none =>
      rw [merged?_eq_none_iff.mp merged] at member
      cases member
    | some found =>
      -- What is left is as late as the takeover, so it is the entry of the takeover.
      obtain ⟨within, latest'⟩ := latest_of_merged? merged
      obtain ⟨⟨other, otherClaim, controls', rfl⟩, name⟩ := ofName.mp within
      have height : takeover.height = other.height :=
        Int.le_antisymm (latest' _ member) (latest other otherClaim controls' name)
      rw [keyed.entry_unique controls controls' name.symm height]

end Memory

end ClaimLedger.BlockIndex
