import ClaimLedger.Proofs.MemoryAnswers
import Mathlib.Data.List.Perm.Basic

/-! The queries as queries over relations. Their meaning leaves the order of rows open where
none is asked for, and which of the rows with the greatest height a group takes its other columns
from. Over records with keys that does not show: whatever a query may be answered with is what it
is answered with from the same records in memory, up to the order of claims. -/
namespace ClaimLedger.BlockIndex

namespace Relational

/-! ## Groups and their aggregates -/

section Grouping

variable {α κ : Type} [DecidableEq κ]

theorem mem_distinct {k : κ} {keys : List κ} : k ∈ distinct keys ↔ k ∈ keys := by
  induction keys with
  | nil => rfl
  | cons head rest ih =>
    simp only [distinct, List.mem_cons, List.mem_filter, ih, decide_eq_true_eq]
    grind

theorem nodup_distinct (keys : List κ) : (distinct keys).Nodup := by
  induction keys with
  | nil => exact List.nodup_nil
  | cons head rest ih =>
    exact List.nodup_cons.mpr ⟨by simp, ih.filter _⟩

variable [LT κ] {key : α → κ} {rows others : List α}
  {groups : List (κ × List α)}

/-- The rows grouped by a key, in ascending order of the keys. In what order a group has its rows
is left open. -/
structure Grouped (key : α → κ) (rows : List α) (groups : List (κ × List α)) : Prop where
  ascending : groups.Pairwise (·.1 < ·.1)
  whole : ∀ group ∈ groups, group.2 ≠ [] ∧
    group.2.Perm (rows.filter fun row => key row = group.1)
  covered : ∀ row ∈ rows, ∃ group ∈ groups, group.1 = key row

theorem Grouped.perm (same : rows.Perm others) (grouped : Grouped key rows groups) :
    Grouped key others groups where
  ascending := grouped.ascending
  whole group member :=
    ⟨(grouped.whole group member).1, (grouped.whole group member).2.trans (same.filter _)⟩
  covered row member := grouped.covered row (same.mem_iff.mpr member)

theorem grouped_groupBy [LE κ] [DecidableLE κ] [Std.IsLinearOrder κ] [Std.LawfulOrderLT κ] :
    Grouped key rows (groupBy (· ≤ ·) key rows) := by
  have keys : ((distinct (rows.map key)).mergeSort fun a b => a ≤ b).Perm
    (distinct (rows.map key)) := List.mergeSort_perm _ _
  refine ⟨?_, ?_, ?_⟩
  · have apart := keys.nodup_iff.mpr (nodup_distinct _)
    exact List.pairwise_map.mpr
      ((pairwise_mergeSort_key id _).imp₂ (fun _ _ => Std.lt_of_le_of_ne) apart)
  · intro group member
    obtain ⟨k, known, rfl⟩ := List.mem_map.mp member
    obtain ⟨row, within, rfl⟩ := List.mem_map.mp (mem_distinct.mp (keys.mem_iff.mp known))
    exact ⟨List.ne_nil_of_mem (List.mem_filter.mpr ⟨within, by simp⟩), List.Perm.refl _⟩
  · intro row member
    refine ⟨_, List.mem_map.mpr ⟨key row, keys.mem_iff.mpr (mem_distinct.mpr ?_), rfl⟩, rfl⟩
    exact List.mem_map.mpr ⟨row, member, rfl⟩

end Grouping

section Maximum

variable {α : Type} {column : α → Int} {rows others : List α}

theorem le_foldl_max (column : α → Int) (rows : List α) (start : Int) :
    start ≤ rows.foldl (fun m row => max m (column row)) start ∧
      ∀ row ∈ rows, column row ≤ rows.foldl (fun m row => max m (column row)) start := by
  induction rows generalizing start with
  | nil => exact ⟨Int.le_refl _, nofun⟩
  | cons row rest ih =>
    obtain ⟨least, behind⟩ := ih (max start (column row))
    simp only [List.foldl_cons, List.forall_mem_cons]
    exact ⟨by omega, by omega, behind⟩

theorem foldl_max_attained (column : α → Int) (rows : List α) (start : Int) :
    rows.foldl (fun m row => max m (column row)) start = start ∨
      ∃ row ∈ rows, column row = rows.foldl (fun m row => max m (column row)) start := by
  induction rows generalizing start with
  | nil => exact .inl rfl
  | cons row rest ih =>
    rw [List.foldl_cons]
    rcases ih (max start (column row)) with stays | ⟨other, member, attains⟩
    · rw [stays]
      rcases Int.le_total (column row) start with low | high
      · exact .inl (Int.max_eq_left low)
      · exact .inr ⟨row, List.mem_cons_self, (Int.max_eq_right high).symm⟩
    · exact .inr ⟨other, List.mem_cons_of_mem _ member, attains⟩

theorem le_maximum (column : α → Int) {row : α} (member : row ∈ rows) :
    column row ≤ maximum column rows := by
  cases rows with
  | nil => cases member
  | cons first rest =>
    obtain ⟨least, others⟩ := le_foldl_max column rest (column first)
    rcases List.mem_cons.mp member with rfl | member
    · exact least
    · exact others row member

theorem maximum_attained (column : α → Int) (nonempty : rows ≠ []) :
    ∃ row ∈ rows, column row = maximum column rows := by
  cases rows with
  | nil => exact absurd rfl nonempty
  | cons first rest =>
    rcases foldl_max_attained column rest (column first) with stays | ⟨row, member, attains⟩
    · exact ⟨first, List.mem_cons_self, stays.symm⟩
    · exact ⟨row, List.mem_cons_of_mem _ member, attains⟩

/-- The greatest value does not depend on the order of rows. -/
theorem maximum_perm (same : rows.Perm others) : maximum column rows = maximum column others := by
  rcases rows with - | ⟨first, rest⟩
  · rw [same.nil_eq]
  · obtain ⟨row, member, attains⟩ := maximum_attained column (List.cons_ne_nil first rest)
    obtain ⟨other, member', attains'⟩ := maximum_attained column
      (List.ne_nil_of_mem (same.mem_iff.mp member))
    exact Int.le_antisymm (attains ▸ le_maximum column (same.mem_iff.mp member))
      (attains' ▸ le_maximum column (same.mem_iff.mpr member'))

end Maximum

theorem total_perm {file : Int} {blocks others : List BlockRecord} (same : blocks.Perm others) :
    BlockFile.total file blocks = .total file others := by
  have sums : (blocks.map BlockRecord.txCount).foldr (· + ·) 0 =
      (others.map BlockRecord.txCount).foldr (· + ·) 0 := (same.map _).foldr_eq 0
  rw [BlockFile.total, BlockFile.total, same.length_eq, sums, maximum_perm same]

/-! ## What a query may be answered with -/

/-- The entry has the greatest height of a group of joined rows, and its other columns are those
of some row at this height. -/
def IsEntryOf (group : Bytes × List (TakeoverRecord × ClaimRecord)) (entry : ClaimtrieEntry) :
    Prop :=
  ∃ row ∈ group.2, row.1.height = maximum (·.1.height) group.2 ∧
    entry = ⟨group.1, row.1.claimHash, row.1.height, row.2.heights⟩

/-- The rows that a query may be answered with. -/
inductive Admits (records : Records) : Query → Rows → Prop where
  | blockFiles {file above : Option Int} {groups : List (Int × List BlockRecord)}
      (grouped : Grouped BlockRecord.file (records.counted file above) groups) :
      Admits records (.blockFiles file above)
        (.blockFiles (groups.map fun group => .total group.1 group.2))
  | blocksInFile {file above : Int} {blocks : List BlockRecord}
      (selected : blocks.Perm (records.within file above))
      (sorted : blocks.Pairwise (·.dataOffset ≤ ·.dataOffset)) :
      Admits records (.blocksInFile file above) (.blocksInFile (blocks.map .ofRecord))
  | claimtrie {groups : List (Bytes × List (TakeoverRecord × ClaimRecord))}
      {entries : List ClaimtrieEntry} (grouped : Grouped (·.1.name) (joined records) groups)
      (aggregated : List.Forall₂ IsEntryOf
        (groups.filter fun group => maximum (·.1.height) group.2 ≠ 0) entries) :
      Admits records .claimtrie (.claimtrie entries)
  | claims {claims : List ClaimRecord} (selected : claims.Perm records.claims) :
      Admits records .claims (.claims (claims.map .ofRecord))

theorem entryOfGroup?_nonzero {group : Bytes × List (TakeoverRecord × ClaimRecord)}
    (nonempty : group.2 ≠ []) (nonzero : maximum (·.1.height) group.2 ≠ 0) :
    ∃ entry, entryOfGroup? group.1 group.2 = some entry ∧ IsEntryOf group entry := by
  obtain ⟨row, member, attains⟩ := maximum_attained (·.1.height) nonempty
  rw [entryOfGroup?, if_neg nonzero]
  cases found : group.2.find? fun row => row.1.height = maximum (·.1.height) group.2 with
  | none => exact absurd (decide_eq_true attains) (List.find?_eq_none.mp found row member)
  | some row =>
    have attains : row.1.height = maximum (·.1.height) group.2 := by
      simpa using List.find?_some found
    exact ⟨_, rfl, row, List.mem_of_find?_eq_some found, attains, by rw [attains]⟩

theorem aggregated_entryOfGroup? {groups : List (Bytes × List (TakeoverRecord × ClaimRecord))}
    (nonempty : ∀ group ∈ groups, group.2 ≠ []) :
    List.Forall₂ IsEntryOf (groups.filter fun group => maximum (·.1.height) group.2 ≠ 0)
      (groups.filterMap fun group => entryOfGroup? group.1 group.2) := by
  induction groups with
  | nil => exact .nil
  | cons group rest ih =>
    obtain ⟨first, others⟩ := List.forall_mem_cons.mp nonempty
    by_cases zero : maximum (·.1.height) group.2 = 0
    · have left : entryOfGroup? group.1 group.2 = none := if_pos zero
      simpa [left, zero] using ih others
    · obtain ⟨entry, taken, isEntry⟩ := entryOfGroup?_nonzero first zero
      rw [List.filter_cons_of_pos (by simpa using zero)]
      simp only [List.filterMap_cons, taken]
      exact .cons isEntry (ih others)

/-- What a query is answered with is among what it may be answered with. -/
theorem admits_answer (records : Records) (query : Query) :
    Admits records query (answer records query) := by
  cases query with
  | blockFiles file above => exact .blockFiles grouped_groupBy
  | blocksInFile file above =>
    exact .blocksInFile (List.mergeSort_perm _ _) (pairwise_mergeSort_key _ _)
  | claimtrie =>
    exact .claimtrie grouped_groupBy
      (aggregated_entryOfGroup? fun group member => (grouped_groupBy.whole group member).1)
  | claims => exact .claims (List.Perm.refl _)

end Relational

/-! ## The same records in any order -/

/-- The same records, added in any order. -/
structure Records.Same (records others : Records) : Prop where
  blocks : records.blocks.Perm others.blocks
  claims : records.claims.Perm others.claims
  takeovers : records.takeovers.Perm others.takeovers

variable {records others : Records} {query : Query} {rows : Rows}

namespace Relational

open Memory (entryOf)

theorem joined_perm (same : records.Same others) :
    (joined records).Perm (joined others) :=
  same.takeovers.flatMap fun _ _ => (same.claims.filter _).map _

theorem mem_joined {row : TakeoverRecord × ClaimRecord} :
    row ∈ joined records ↔ records.Controls row.1 row.2 := by
  obtain ⟨takeover, claim⟩ := row
  simp [joined, Records.Controls]

/-- The order in which records were added does not matter to what is admitted. -/
theorem Admits.same (same : records.Same others) (admits : Admits records query rows) :
    Admits others query rows := by
  cases admits with
  | blockFiles grouped => exact .blockFiles (grouped.perm (same.blocks.filter _))
  | blocksInFile selected sorted =>
    exact .blocksInFile (selected.trans (same.blocks.filter _)) sorted
  | claimtrie grouped aggregated => exact .claimtrie (grouped.perm (joined_perm same)) aggregated
  | claims selected => exact .claims (selected.trans same.claims)

/-! ## The rows that are admitted -/

theorem enumerates_totals {file above : Option Int} {groups : List (Int × List BlockRecord)}
    (grouped : Grouped BlockRecord.file (records.counted file above) groups) :
    Enumerates BlockFile.file (records.IsTotal file above)
      (groups.map fun group => .total group.1 group.2) := by
  refine ⟨List.pairwise_map.mpr grouped.ascending, fun total => ?_⟩
  rw [List.mem_map]
  constructor
  · rintro ⟨⟨number, blocks⟩, member, rfl⟩
    obtain ⟨nonempty, whole⟩ := grouped.whole _ member
    exact ⟨fun none => nonempty (none ▸ whole).eq_nil, total_perm whole⟩
  · rintro ⟨nonempty, same⟩
    obtain ⟨block, member⟩ := List.exists_mem_of_ne_nil _ nonempty
    obtain ⟨counted, inFile⟩ := List.mem_filter.mp member
    obtain ⟨group, known, number⟩ := grouped.covered block counted
    have whole := (grouped.whole group known).2
    rw [number, of_decide_eq_true inFile] at whole
    refine ⟨group, known, ?_⟩
    rw [same, total_perm whole, number, of_decide_eq_true inFile]

theorem enumerates_blocks (keyed : records.Keyed) {file above : Int} {blocks : List BlockRecord}
    (selected : blocks.Perm (records.within file above))
    (sorted : blocks.Pairwise (·.dataOffset ≤ ·.dataOffset)) :
    Enumerates BlockInFile.dataOffset
      (fun row => ∃ block ∈ records.within file above, BlockInFile.ofRecord block = row)
      (blocks.map .ofRecord) := by
  refine enumerates_of_sorted (List.pairwise_map.mpr sorted) ?_ fun row => ?_
  · rw [List.map_map]
    exact (selected.map _).nodup_iff.mpr (Memory.nodup_within keyed file above)
  · rw [List.mem_map]
    simp only [selected.mem_iff]

theorem exists_of_mem_right {α β : Type} {R : α → β → Prop} {items : List α} {images : List β}
    (related : List.Forall₂ R items images) {image : β} (member : image ∈ images) :
    ∃ item ∈ items, R item image := by
  induction related with
  | nil => cases member
  | cons first rest ih =>
    rcases List.mem_cons.mp member with rfl | member
    · exact ⟨_, List.mem_cons_self, first⟩
    · obtain ⟨item, member, related⟩ := ih member
      exact ⟨item, List.mem_cons_of_mem _ member, related⟩

theorem enumerates_entries (keyed : records.Keyed)
    {groups : List (Bytes × List (TakeoverRecord × ClaimRecord))} {entries : List ClaimtrieEntry}
    (grouped : Grouped (·.1.name) (joined records) groups)
    (aggregated : List.Forall₂ IsEntryOf
      (groups.filter fun group => maximum (·.1.height) group.2 ≠ 0) entries) :
    Enumerates ClaimtrieEntry.name records.IsLatest entries := by
  have ofGroup {group : Bytes × List (TakeoverRecord × ClaimRecord)} (member : group ∈ groups)
      {row : TakeoverRecord × ClaimRecord} :
      row ∈ group.2 ↔ records.Controls row.1 row.2 ∧ row.1.name = group.1 := by
    rw [(grouped.whole group member).2.mem_iff, List.mem_filter, mem_joined, decide_eq_true_eq]
  have names : entries.map (·.name) =
      (groups.filter fun group => maximum (·.1.height) group.2 ≠ 0).map (·.1) := by
    refine (List.forall₂_eq_eq_eq ▸ List.forall₂_map_left_iff.mpr
      (List.forall₂_map_right_iff.mpr (aggregated.imp ?_))).symm
    rintro group entry ⟨row, -, -, rfl⟩
    rfl
  refine ⟨List.pairwise_map.mp ?_, fun entry => ⟨fun member => ?_, ?_⟩⟩
  · rw [names]
    exact List.pairwise_map.mpr (grouped.ascending.filter _)
  · obtain ⟨group, kept, row, within, attains, rfl⟩ := exists_of_mem_right aggregated member
    obtain ⟨known, nonzero⟩ := List.mem_filter.mp kept
    obtain ⟨controls, name⟩ := (ofGroup known).mp within
    refine ⟨row.1, row.2, controls, by rw [entryOf, name], ?_, ?_⟩
    · rw [attains]
      exact of_decide_eq_true nonzero
    · intro other otherClaim controls' name'
      have member : (other, otherClaim) ∈ group.2 :=
        (ofGroup known).mpr ⟨controls', name'.trans name⟩
      rw [attains]
      exact le_maximum (·.1.height) member
  · rintro ⟨takeover, claim, controls, rfl, nonzero, latest⟩
    obtain ⟨group, known, name⟩ := grouped.covered (takeover, claim) (mem_joined.mpr controls)
    have within : (takeover, claim) ∈ group.2 := (ofGroup known).mpr ⟨controls, name.symm⟩
    have height {row : TakeoverRecord × ClaimRecord} (member : row ∈ group.2)
        (attains : row.1.height = maximum (·.1.height) group.2) :
        entryOf row.1 row.2 = entryOf takeover claim ∧ row.1.height = takeover.height := by
      obtain ⟨controls', name'⟩ := (ofGroup known).mp member
      have same : row.1.height = takeover.height :=
        Int.le_antisymm (latest _ _ controls' (name'.trans name))
          (attains ▸ le_maximum (·.1.height) within)
      exact ⟨keyed.entry_unique controls' controls (name'.trans name) same, same⟩
    obtain ⟨row, member, attains⟩ := maximum_attained (·.1.height) (List.ne_nil_of_mem within)
    have kept : maximum (·.1.height) group.2 ≠ 0 := by
      rw [← attains, (height member attains).2]
      exact nonzero
    obtain ⟨_, listed, other, member', attains', rfl⟩ := exists_of_mem_right aggregated.flip
      (List.mem_filter.mpr ⟨known, decide_eq_true kept⟩)
    rw [← (height member' attains').1, entryOf, ((ofGroup known).mp member').2]
    exact listed

end Relational

/-- The answers have the same rows, claims in any order and other rows in the same one. -/
def Rows.Alike : Rows → Rows → Prop
  | .claims listed, .claims listed' => listed.Perm listed'
  | rows, rows' => rows = rows'

theorem Relational.Admits.alike (keyed : records.Keyed)
    (admits : Relational.Admits records query rows) : (Memory.answer records query).Alike rows := by
  cases admits with
  | blockFiles grouped =>
    exact congrArg Rows.blockFiles
      (Memory.enumerates_blockFiles.unique (Relational.enumerates_totals grouped))
  | blocksInFile selected sorted =>
    exact congrArg Rows.blocksInFile ((Memory.enumerates_blocksInFile keyed _ _).unique
      (Relational.enumerates_blocks keyed selected sorted))
  | claimtrie grouped aggregated =>
    exact congrArg Rows.claimtrie ((Memory.enumerates_claimtrie keyed).unique
      (Relational.enumerates_entries keyed grouped aggregated))
  | claims selected => exact (selected.map ClaimRow.ofRecord).symm

/-- Both indexes answer alike. From the same records, added in any order, whatever a query over
relations may be answered with has the rows that it is answered with from memory. -/
theorem answers_alike (keyed : records.Keyed) (same : records.Same others) (query : Query) :
    Relational.Admits others query (Relational.answer others query) ∧
      ∀ rows, Relational.Admits others query rows →
        (Memory.answer records query).Alike rows := by
  refine ⟨Relational.admits_answer others query, fun rows admits => ?_⟩
  exact (admits.same ⟨same.blocks.symm, same.claims.symm, same.takeovers.symm⟩).alike keyed

/-- The records in the opposite order. -/
def Records.reversed (records : Records) : Records :=
  ⟨records.blocks.reverse, records.claims.reverse, records.takeovers.reverse⟩

theorem Records.same_reversed (records : Records) : records.Same records.reversed :=
  ⟨records.blocks.reverse_perm.symm, records.claims.reverse_perm.symm,
    records.takeovers.reverse_perm.symm⟩

/-- Blocks of two files, of which one has no undo data, two claims, and takeovers of three names:
of one by both claims, of one by an unknown claim, and of one at height zero. -/
def mixedRecords : Records where
  blocks := [⟨1, 8, 5, [0xb5], 2, 5⟩, ⟨0, 90, 4, [0xb4], 3, 29⟩, ⟨0, 8, 3, [0xb3], 1, 5⟩,
    ⟨0, 8, 9, [0xb9], 7, 1⟩]
  claims := [⟨[0xc1], [0x61], [0xd1], 0, 10, ⟨3, 3, 3, 3, 99⟩⟩,
    ⟨[0xc2], [0x61], [0xd2], 1, 20, ⟨4, 4, 4, 4, 99⟩⟩]
  takeovers := [⟨[0x61, 0x62], 7, [0xc9]⟩, ⟨[0x61], 5, [0xc2]⟩, ⟨[0x61], 3, [0xc1]⟩,
    ⟨[0x60], 0, [0xc1]⟩]

theorem keyed_mixedRecords : mixedRecords.Keyed :=
  ⟨by decide, by decide, by decide⟩

/-- The later claim controls the name in both orders. -/
theorem answers_alike_reversed :
    Memory.answer mixedRecords .claimtrie =
        .claimtrie [⟨[0x61], [0xc2], 5, ⟨4, 4, 4, 4, 99⟩⟩] ∧
      ∀ query, Relational.Admits mixedRecords.reversed query
          (Relational.answer mixedRecords.reversed query) ∧
        ∀ rows, Relational.Admits mixedRecords.reversed query rows →
          (Memory.answer mixedRecords query).Alike rows :=
  ⟨by decide, answers_alike keyed_mixedRecords mixedRecords.same_reversed⟩

end ClaimLedger.BlockIndex
