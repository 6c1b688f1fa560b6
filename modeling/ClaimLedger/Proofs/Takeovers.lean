import Mathlib.Data.List.Find
import Mathlib.Order.Bounds.Basic
import ClaimLedger.Proofs.IndexAnswers

/-! Who controls a name. Of the takeovers of a name only those by claims on record count, and of
these the latest, unless it was at height zero. Where records repeat each other the one that was
added first decides: of takeovers at the same height, and of claims with the same hash. Records
that do not repeat each other decide by what they say, in whatever order they were added. -/
namespace ClaimLedger.BlockIndex

namespace Records

/-- A claim with the hash is on record. -/
def Knows (records : Records) (hash : Bytes) : Prop :=
  ∃ claim ∈ records.claims, claim.claimHash = hash

instance (records : Records) (hash : Bytes) : Decidable (records.Knows hash) :=
  inferInstanceAs (Decidable (∃ claim ∈ records.claims, claim.claimHash = hash))

/-- The heights at which known claims took control of a name. -/
def heights (records : Records) (name : Bytes) : Set Int :=
  {height | ∃ takeover ∈ records.takeovers,
    takeover.name = name ∧ takeover.height = height ∧ records.Knows takeover.claimHash}

/-- The first takeover of a name by a known claim at a height. -/
def firstTakeover? (records : Records) (name : Bytes) (height : Int) : Option TakeoverRecord :=
  records.takeovers.find? fun takeover =>
    takeover.name = name ∧ takeover.height = height ∧ records.Knows takeover.claimHash

/-- The first claim with a hash. -/
def firstClaim? (records : Records) (hash : Bytes) : Option ClaimRecord :=
  records.claims.find? fun claim => claim.claimHash = hash

variable {records : Records} {name hash : Bytes} {height : Int} {takeover : TakeoverRecord}

theorem knows_iff : records.Knows hash ↔ ∃ claim, records.firstClaim? hash = some claim := by
  rw [← Option.isSome_iff_exists, firstClaim?, List.find?_isSome]
  simp only [Knows, decide_eq_true_eq]

theorem of_firstTakeover? (first : records.firstTakeover? name height = some takeover) :
    takeover.name = name ∧ takeover.height = height ∧ records.Knows takeover.claimHash := by
  simpa using List.find?_some first

theorem mem_heights_iff :
    height ∈ records.heights name ↔
      ∃ takeover, records.firstTakeover? name height = some takeover := by
  rw [← Option.isSome_iff_exists, firstTakeover?, List.find?_isSome]
  simp only [heights, Set.mem_ofPred_eq, decide_eq_true_eq]

end Records

/-! ## The first of the latest entries -/

/-- None of the entries is later. -/
def ClaimtrieEntry.isLatestOf (entries : List ClaimtrieEntry) (entry : ClaimtrieEntry) : Bool :=
  entries.all fun other => other.takeoverHeight ≤ entry.takeoverHeight

theorem ClaimtrieEntry.isLatestOf_iff {entries : List ClaimtrieEntry} {entry : ClaimtrieEntry} :
    entry.isLatestOf entries = true ↔
      ∀ other ∈ entries, other.takeoverHeight ≤ entry.takeoverHeight := by
  simp [isLatestOf]

/-- Merging entries leaves the first of the latest. -/
theorem merged?_later_eq (entries : List ClaimtrieEntry) :
    merged? ClaimtrieEntry.later entries =
      entries.find? (ClaimtrieEntry.isLatestOf entries) := by
  cases merged : merged? ClaimtrieEntry.later entries with
  | none =>
    rw [merged?_eq_none_iff.mp merged]
    rfl
  | some entry =>
    obtain ⟨member, latest⟩ := latest_of_merged? merged
    obtain ⟨before, behind, split, lower, -⟩ := merged?_later merged
    refine (List.find?_eq_some_iff_append.mpr
      ⟨ClaimtrieEntry.isLatestOf_iff.mpr latest, before, behind, split, ?_⟩).symm
    intro other earlier
    rw [Bool.not_eq_true', Bool.eq_false_iff]
    intro latest'
    have below := lower other earlier
    have above := ClaimtrieEntry.isLatestOf_iff.mp latest' entry member
    omega

namespace Memory

variable {records others : Records} {name : Bytes} {height : Int} {entry : ClaimtrieEntry}

/-- The entry of a takeover, if its claim is known. -/
def entryOf? (records : Records) (takeover : TakeoverRecord) : Option ClaimtrieEntry :=
  (records.firstClaim? takeover.claimHash).map (entryOf takeover)

theorem entryOf?_eq_some_iff {takeover : TakeoverRecord} :
    entryOf? records takeover = some entry ↔
      ∃ claim, records.firstClaim? takeover.claimHash = some claim ∧
        entryOf takeover claim = entry := by
  rw [entryOf?, Option.map_eq_some_iff]

/-- The entries of a name, in the order of its takeovers. -/
def entriesOf (records : Records) (name : Bytes) : List ClaimtrieEntry :=
  (records.takeovers.filterMap (entryOf? records)).filter fun entry => entry.name = name

/-- They stand at the heights at which known claims took control of the name. -/
theorem mem_heights_iff_entriesOf :
    height ∈ records.heights name ↔
      ∃ entry ∈ entriesOf records name, entry.takeoverHeight = height := by
  simp only [Records.heights, Set.mem_ofPred_eq, Records.knows_iff, entriesOf, List.mem_filter,
    List.mem_filterMap, entryOf?_eq_some_iff, decide_eq_true_eq]
  constructor
  · rintro ⟨takeover, member, rfl, rfl, claim, first⟩
    exact ⟨_, ⟨⟨takeover, member, claim, first, rfl⟩, rfl⟩, rfl⟩
  · rintro ⟨entry, ⟨⟨takeover, member, claim, first, rfl⟩, rfl⟩, rfl⟩
    exact ⟨takeover, member, rfl, rfl, claim, first⟩

theorem isLatestOf_entriesOf_iff (listed : entry ∈ entriesOf records name) :
    entry.isLatestOf (entriesOf records name) = true ↔
      IsGreatest (records.heights name) entry.takeoverHeight := by
  rw [ClaimtrieEntry.isLatestOf_iff]
  constructor
  · intro latest
    refine ⟨mem_heights_iff_entriesOf.mpr ⟨entry, listed, rfl⟩, fun height taken => ?_⟩
    obtain ⟨other, listed', rfl⟩ := mem_heights_iff_entriesOf.mp taken
    exact latest other listed'
  · exact fun greatest other listed' =>
      greatest.2 (mem_heights_iff_entriesOf.mpr ⟨other, listed', rfl⟩)

/-- The first entry of a name at a height is that of the first such takeover. -/
theorem find?_entriesOf :
    (entriesOf records name).find? (·.takeoverHeight = height) =
      (records.firstTakeover? name height).bind (entryOf? records) := by
  rw [entriesOf, List.find?_filter, List.find?_filterMap, Records.firstTakeover?]
  congr 2
  funext takeover
  rw [Bool.eq_iff_iff, Option.any_eq_true]
  simp only [entryOf?_eq_some_iff, Records.knows_iff, decide_eq_true_eq]
  constructor
  · rintro ⟨-, ⟨claim, first, rfl⟩, rfl, rfl⟩
    exact ⟨rfl, rfl, claim, first⟩
  · rintro ⟨rfl, rfl, claim, first⟩
    exact ⟨_, ⟨claim, first, rfl⟩, rfl, rfl⟩

/-- The row of a name is the first of its latest entries. -/
theorem mem_claimtrie_iff_find? :
    entry ∈ claimtrie records ↔
      (entriesOf records entry.name).find? (·.isLatestOf (entriesOf records entry.name)) =
          some entry ∧ entry.takeoverHeight ≠ 0 := by
  rw [(enumerates_merged records).listed, merged?_later_eq]
  rfl

/-- A row tells of the first takeover at the greatest height and of the first claim with its
hash. -/
theorem mem_claimtrie_iff :
    entry ∈ claimtrie records ↔ entry.takeoverHeight ≠ 0 ∧
      IsGreatest (records.heights entry.name) entry.takeoverHeight ∧
      (records.firstTakeover? entry.name entry.takeoverHeight).bind (entryOf? records) =
        some entry := by
  rw [mem_claimtrie_iff_find?, ← find?_entriesOf]
  -- Among the entries of the name, the latest are those at the greatest height.
  have latest (greatest : IsGreatest (records.heights entry.name) entry.takeoverHeight) :
      (entriesOf records entry.name).find? (·.isLatestOf (entriesOf records entry.name)) =
        (entriesOf records entry.name).find? (·.takeoverHeight = entry.takeoverHeight) := by
    refine List.find?_congr fun item listed => ?_
    rw [Bool.eq_iff_iff, isLatestOf_entriesOf_iff listed, decide_eq_true_eq]
    exact ⟨fun greatest' => greatest'.unique greatest, fun same => same ▸ greatest⟩
  constructor
  · rintro ⟨found, nonzero⟩
    have greatest := (isLatestOf_entriesOf_iff (List.mem_of_find?_eq_some found)).mp
      (List.find?_some found)
    exact ⟨nonzero, greatest, latest greatest ▸ found⟩
  · rintro ⟨nonzero, greatest, found⟩
    exact ⟨(latest greatest).trans found, nonzero⟩

/-- A name has a row if the latest takeover of it by a known claim was not at height zero. -/
theorem exists_row_iff :
    (∃ entry ∈ claimtrie records, entry.name = name) ↔
      ∃ height, IsGreatest (records.heights name) height ∧ height ≠ 0 := by
  constructor
  · rintro ⟨entry, listed, rfl⟩
    obtain ⟨nonzero, greatest, -⟩ := mem_claimtrie_iff.mp listed
    exact ⟨entry.takeoverHeight, greatest, nonzero⟩
  · rintro ⟨height, greatest, nonzero⟩
    obtain ⟨takeover, first⟩ := Records.mem_heights_iff.mp greatest.1
    obtain ⟨rfl, rfl, known⟩ := Records.of_firstTakeover? first
    obtain ⟨claim, firstClaim⟩ := Records.knows_iff.mp known
    refine ⟨entryOf takeover claim, mem_claimtrie_iff.mpr ⟨nonzero, greatest, ?_⟩, rfl⟩
    exact Option.bind_eq_some_iff.mpr
      ⟨takeover, first, entryOf?_eq_some_iff.mpr ⟨claim, firstClaim, rfl⟩⟩

end Memory

/-! ## The order of the records -/

/-- Where at most one item is looked for, it does not matter where it stands. -/
theorem find?_eq_of_perm {α : Type} {items others : List α} {wanted : α → Bool}
    (same : items.Perm others)
    (unique : ∀ item ∈ items, ∀ other ∈ items, wanted item → wanted other → item = other) :
    items.find? wanted = others.find? wanted := by
  cases found : items.find? wanted with
  | none =>
    refine (List.find?_eq_none.mpr fun item member => ?_).symm
    exact List.find?_eq_none.mp found item (same.mem_iff.mpr member)
  | some item =>
    have member := List.mem_of_find?_eq_some found
    have fits := List.find?_some found
    obtain ⟨other, found'⟩ : ∃ other, others.find? wanted = some other :=
      Option.isSome_iff_exists.mp (List.find?_isSome.mpr ⟨item, same.mem_iff.mp member, fits⟩)
    have member' := same.mem_iff.mpr (List.mem_of_find?_eq_some found')
    rw [found', unique item member other member' fits (List.find?_some found')]

namespace Records

variable {records others : Records}

theorem knows_perm (claims : records.claims.Perm others.claims) (hash : Bytes) :
    records.Knows hash ↔ others.Knows hash :=
  exists_congr fun _ => and_congr_left' claims.mem_iff

theorem heights_perm (claims : records.claims.Perm others.claims)
    (takeovers : records.takeovers.Perm others.takeovers) (name : Bytes) :
    records.heights name = others.heights name := by
  ext height
  simp only [heights, Set.mem_ofPred_eq, knows_perm claims, takeovers.mem_iff]

theorem firstClaim?_perm (claims : records.claims.Perm others.claims)
    (apart : (records.claims.map ClaimRecord.claimHash).Nodup) (hash : Bytes) :
    records.firstClaim? hash = others.firstClaim? hash := by
  refine find?_eq_of_perm claims fun claim member other member' same same' => ?_
  exact List.inj_on_of_nodup_map apart member member'
    ((of_decide_eq_true same).trans (of_decide_eq_true same').symm)

theorem firstTakeover?_perm (claims : records.claims.Perm others.claims)
    (takeovers : records.takeovers.Perm others.takeovers)
    (apart : (records.takeovers.map fun takeover => (takeover.name, takeover.height)).Nodup)
    (name : Bytes) (height : Int) :
    records.firstTakeover? name height = others.firstTakeover? name height := by
  have alike : others.firstTakeover? name height = others.takeovers.find? fun takeover =>
      takeover.name = name ∧ takeover.height = height ∧ records.Knows takeover.claimHash := by
    simp only [firstTakeover?, knows_perm claims]
  rw [alike]
  refine find?_eq_of_perm takeovers fun takeover member other member' fits fits' => ?_
  obtain ⟨name, height, -⟩ := of_decide_eq_true fits
  obtain ⟨name', height', -⟩ := of_decide_eq_true fits'
  exact List.inj_on_of_nodup_map apart member member'
    (Prod.ext (name.trans name'.symm) (height.trans height'.symm))

end Records

namespace Memory

variable {records others : Records}

theorem entryOf?_perm (claims : records.claims.Perm others.claims)
    (apart : (records.claims.map ClaimRecord.claimHash).Nodup) :
    entryOf? records = entryOf? others := by
  funext takeover
  rw [entryOf?, entryOf?, Records.firstClaim?_perm claims apart]

theorem claimtrie_perm (claims : records.claims.Perm others.claims)
    (takeovers : records.takeovers.Perm others.takeovers)
    (claimsApart : (records.claims.map ClaimRecord.claimHash).Nodup)
    (takeoversApart :
      (records.takeovers.map fun takeover => (takeover.name, takeover.height)).Nodup) :
    claimtrie records = claimtrie others := by
  have listed : Enumerates ClaimtrieEntry.name (· ∈ claimtrie others) (claimtrie records) := by
    refine ⟨(enumerates_merged records).ascending, fun entry => ?_⟩
    rw [mem_claimtrie_iff, mem_claimtrie_iff, entryOf?_perm claims claimsApart,
      Records.heights_perm claims takeovers,
      Records.firstTakeover?_perm claims takeovers takeoversApart]
  exact listed.unique ⟨(enumerates_merged others).ascending, fun _ => Iff.rfl⟩

/-- The rows stand in the order of the names. A name has a row exactly when a known claim took
control of it and the latest time was not at height zero. The row tells of this height, of the
takeover that was added first among those at it by known claims, and of the claim that was added
first among those with the hash of that takeover. Where no claims share a hash and no takeovers of
a name a height, the order in which the records were added makes no difference. -/
theorem claimtrie_latest (records : Records) :
    (claimtrie records).Pairwise (·.name < ·.name) ∧
      (∀ name, (∃ entry ∈ claimtrie records, entry.name = name) ↔
        ∃ height, IsGreatest (records.heights name) height ∧ height ≠ 0) ∧
      (∀ entry ∈ claimtrie records,
        IsGreatest (records.heights entry.name) entry.takeoverHeight ∧
        ∃ takeover claim,
          records.firstTakeover? entry.name entry.takeoverHeight = some takeover ∧
            records.firstClaim? takeover.claimHash = some claim ∧
            entry.claimHash = takeover.claimHash ∧ entry.heights = claim.heights) ∧
      ∀ others : Records, records.claims.Perm others.claims →
        records.takeovers.Perm others.takeovers →
        (records.claims.map ClaimRecord.claimHash).Nodup →
        (records.takeovers.map fun takeover => (takeover.name, takeover.height)).Nodup →
        claimtrie others = claimtrie records := by
  refine ⟨(enumerates_merged records).ascending, fun name => exists_row_iff,
    fun entry listed => ?_, ?_⟩
  · obtain ⟨-, greatest, first⟩ := mem_claimtrie_iff.mp listed
    obtain ⟨takeover, firstTakeover, entryOf⟩ := Option.bind_eq_some_iff.mp first
    obtain ⟨claim, firstClaim, rfl⟩ := entryOf?_eq_some_iff.mp entryOf
    exact ⟨greatest, takeover, claim, firstTakeover, firstClaim, rfl, rfl⟩
  · intro others claims takeovers claimsApart takeoversApart
    exact (claimtrie_perm claims takeovers claimsApart takeoversApart).symm

/-- Two claims with one hash, and takeovers of four names: of one at a height twice and later by
an unknown claim, of one below height zero, of one at height zero, and of one by an unknown claim
only. -/
def disputedRecords : Records where
  blocks := []
  claims := [⟨[0xc1], [0x61], [0xd1], 0, 10, ⟨3, 3, 3, 3, 99⟩⟩,
    ⟨[0xc1], [0x61], [0xd3], 0, 10, ⟨8, 8, 8, 8, 99⟩⟩,
    ⟨[0xc2], [0x61], [0xd2], 1, 20, ⟨4, 4, 4, 4, 99⟩⟩]
  takeovers := [⟨[0x62], -7, [0xc2]⟩, ⟨[0x61], 3, [0xc2]⟩, ⟨[0x61], 5, [0xc1]⟩,
    ⟨[0x61], 5, [0xc2]⟩, ⟨[0x61], 6, [0xc9]⟩, ⟨[0x60], 0, [0xc1]⟩, ⟨[0x63], 1, [0xc9]⟩]

/-- The first claim of the first takeover at the greatest height controls the name; where no
records repeat each other, the opposite order gives the same rows. -/
theorem claimtrie_latest_disputed :
    claimtrie disputedRecords =
        [⟨[0x61], [0xc1], 5, ⟨3, 3, 3, 3, 99⟩⟩, ⟨[0x62], [0xc2], -7, ⟨4, 4, 4, 4, 99⟩⟩] ∧
      IsGreatest (disputedRecords.heights [0x61]) 5 ∧
      claimtrie mixedRecords.reversed = claimtrie mixedRecords := by
  have rows : claimtrie disputedRecords =
      [⟨[0x61], [0xc1], 5, ⟨3, 3, 3, 3, 99⟩⟩, ⟨[0x62], [0xc2], -7, ⟨4, 4, 4, 4, 99⟩⟩] := by decide
  obtain ⟨-, -, told, -⟩ := claimtrie_latest disputedRecords
  obtain ⟨-, -, -, orderless⟩ := claimtrie_latest mixedRecords
  have same := mixedRecords.same_reversed
  refine ⟨rows, (told ⟨[0x61], [0xc1], 5, ⟨3, 3, 3, 3, 99⟩⟩ (by simp [rows])).1, ?_⟩
  exact orderless mixedRecords.reversed same.claims same.takeovers keyed_mixedRecords.claims
    keyed_mixedRecords.takeovers

end Memory

end ClaimLedger.BlockIndex
