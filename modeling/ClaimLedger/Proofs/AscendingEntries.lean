import Mathlib.Data.List.Induction
import Mathlib.Data.List.Sort

/-! Lists with one entry for each key, in ascending order of the keys. Such a list is
determined by what it lists, so it does not matter how it was made: by entering one item after
another, by sorting, or by grouping rows. -/
namespace ClaimLedger.BlockIndex

section Merging

variable {α κ : Type} {key : α → κ} {merge : α → α → α} {items : List α} {item entry : α}

/-- What the items come to if each is merged into those before it. -/
def merged? (merge : α → α → α) : List α → Option α
  | [] => none
  | item :: rest => some (rest.foldl merge item)

theorem merged?_eq_none_iff : merged? merge items = none ↔ items = [] := by
  cases items <;> simp [merged?]

theorem key_merged? (keeps : ∀ entry item, key entry = key item → key (merge entry item) = key item)
    {k : κ} (keyed : ∀ item ∈ items, key item = k) (merged : merged? merge items = some entry) :
    key entry = k := by
  cases items with
  | nil => cases merged
  | cons first rest =>
    obtain rfl := Option.some.inj merged
    have firstKeyed := keyed first List.mem_cons_self
    refine List.foldlRecOn (motive := fun entry => key entry = k) rest merge firstKeyed ?_
    intro entry same item member
    have itemKeyed := keyed item (List.mem_cons_of_mem _ member)
    rw [keeps entry item (same.trans itemKeyed.symm), itemKeyed]

theorem merged?_concat : merged? merge (items ++ [item]) =
    some (match merged? merge items with
      | none => item
      | some entry => merge entry item) := by
  cases items <;> simp [merged?]

end Merging

theorem pairwise_mergeSort_key {α κ : Type} [LE κ] [DecidableLE κ] [Std.IsLinearOrder κ]
    (key : α → κ) (items : List α) :
    (items.mergeSort fun a b => key a ≤ key b).Pairwise (key · ≤ key ·) := by
  have sorted : (items.mergeSort fun a b => key a ≤ key b).Pairwise
      fun a b => decide (key a ≤ key b) = true :=
    List.pairwise_mergeSort (fun a b c => by simpa using fun less less' => Std.le_trans less less')
      (fun a b => by simpa using Std.le_total) items
  exact sorted.imp of_decide_eq_true

section Keyed

variable {α κ : Type} [LT κ] {key : α → κ} {merge : α → α → α} {Listed : α → Prop}
  {items others : List α} {item entry : α}

/-- The list has exactly the entries with a property, in ascending order of their keys. -/
structure Enumerates (key : α → κ) (Listed : α → Prop) (items : List α) : Prop where
  ascending : items.Pairwise (key · < key ·)
  listed : ∀ item, item ∈ items ↔ Listed item

theorem Enumerates.filter (enumerates : Enumerates key Listed items) (keep : α → Bool) :
    Enumerates key (fun item => Listed item ∧ keep item = true) (items.filter keep) where
  ascending := enumerates.ascending.filter keep
  listed item := by rw [List.mem_filter, enumerates.listed]

variable [LE κ] [Std.IsLinearOrder κ] [Std.LawfulOrderLT κ]

theorem Enumerates.unique (enumerates : Enumerates key Listed items)
    (enumerates' : Enumerates key Listed others) : items = others := by
  have : Std.Irrefl fun a b : α => key a < key b := ⟨fun _ => Std.lt_irrefl⟩
  have : Std.Antisymm fun a b : α => key a < key b :=
    ⟨fun _ _ less greater => absurd (Std.lt_trans less greater) Std.lt_irrefl⟩
  exact enumerates.ascending.eq_of_mem_iff enumerates'.ascending fun item =>
    (enumerates.listed item).trans (enumerates'.listed item).symm

/-- Sorted items without a key in common are in ascending order. -/
theorem enumerates_of_sorted (sorted : items.Pairwise (key · ≤ key ·))
    (apart : (items.map key).Nodup) (listed : ∀ item, item ∈ items ↔ Listed item) :
    Enumerates key Listed items where
  ascending := sorted.imp₂ (fun _ _ => Std.lt_of_le_of_ne) (List.pairwise_map.mp apart)
  listed := listed

/-! ## Entering items one after another -/

/-- Enters an item at the place of its key, or merges it into the entry there. -/
def enter [DecidableLT κ] [DecidableEq κ] (key : α → κ) (merge : α → α → α) (item : α) :
    List α → List α
  | [] => [item]
  | entry :: rest =>
    if key item < key entry then item :: entry :: rest
    else if key item = key entry then merge entry item :: rest
    else entry :: enter key merge item rest

section Decidable

variable [DecidableLT κ] [DecidableEq κ]

theorem mem_enter (keeps : ∀ entry, key entry = key item → key (merge entry item) = key item)
    (ascending : items.Pairwise (key · < key ·)) :
    entry ∈ enter key merge item items ↔
      (entry ∈ items ∧ key entry ≠ key item) ∨
        (∃ current ∈ items, key current = key item ∧ entry = merge current item) ∨
        ((∀ current ∈ items, key current ≠ key item) ∧ entry = item) := by
  induction items with
  | nil => simp [enter]
  | cons head rest ih =>
    obtain ⟨above, restAscending⟩ := List.pairwise_cons.mp ascending
    -- Once a key is as great as that of the item, all keys behind it are greater.
    have beyond (reached : ¬ key head < key item) : ∀ other ∈ rest, key other ≠ key item :=
      fun other member same => reached (same ▸ above other member)
    simp only [enter]
    split
    · rename_i less
      have headApart : key head ≠ key item := (Std.ne_of_lt less).symm
      have restApart := beyond fun greater => Std.lt_irrefl (Std.lt_trans less greater)
      grind
    · split
      · rename_i same
        have restApart := beyond (same ▸ Std.lt_irrefl)
        grind
      · rename_i different
        rw [List.mem_cons, ih restAscending]
        grind

theorem key_mem_enter (keeps : ∀ entry, key entry = key item → key (merge entry item) = key item)
    (ascending : items.Pairwise (key · < key ·)) (member : entry ∈ enter key merge item items) :
    key entry = key item ∨ ∃ current ∈ items, key entry = key current := by
  rcases (mem_enter keeps ascending).mp member with ⟨old, -⟩ | ⟨current, -, same, rfl⟩ | ⟨-, rfl⟩
  · exact .inr ⟨entry, old, rfl⟩
  · exact .inl (keeps current same)
  · exact .inl rfl

theorem ascending_enter
    (keeps : ∀ entry, key entry = key item → key (merge entry item) = key item)
    (ascending : items.Pairwise (key · < key ·)) :
    (enter key merge item items).Pairwise (key · < key ·) := by
  induction items with
  | nil => exact List.pairwise_singleton _ _
  | cons head rest ih =>
    obtain ⟨above, restAscending⟩ := List.pairwise_cons.mp ascending
    simp only [enter]
    split
    · rename_i less
      refine List.pairwise_cons.mpr ⟨fun other member => ?_, ascending⟩
      rcases List.mem_cons.mp member with rfl | member
      · exact less
      · exact Std.lt_trans less (above other member)
    · split
      · rename_i same
        refine List.pairwise_cons.mpr ⟨fun other member => ?_, restAscending⟩
        rw [keeps head same.symm, same]
        exact above other member
      · rename_i notLess different
        have greater : key head < key item :=
          Std.lt_of_le_of_ne (Std.not_lt.mp notLess) (Ne.symm different)
        refine List.pairwise_cons.mpr ⟨fun other member => ?_, ih restAscending⟩
        rcases key_mem_enter keeps restAscending member with same | ⟨current, member, same⟩
        · exact same ▸ greater
        · exact same ▸ above current member

/-- Items entered one after another leave, for each key, what the items of that key come to. -/
theorem enumerates_enter (key : α → κ) (merge : α → α → α)
    (keeps : ∀ entry item, key entry = key item → key (merge entry item) = key item)
    (items : List α) :
    Enumerates key
      (fun entry => merged? merge (items.filter fun item => key item = key entry) = some entry)
      (items.foldl (fun entries item => enter key merge item entries) []) := by
  induction items using List.reverseRecOn with
  | nil => exact ⟨List.Pairwise.nil, by simp [merged?]⟩
  | append_singleton items item ih =>
    rw [List.foldl_append, List.foldl_cons, List.foldl_nil]
    refine ⟨ascending_enter (keeps · item) ih.ascending, fun entry => ?_⟩
    simp only [mem_enter (keeps · item) ih.ascending, ih.listed, List.filter_append]
    by_cases same : key entry = key item
    · have before {current : α} (there : key current = key item) :
          merged? merge (items.filter fun other => key other = key current) = some current ↔
            merged? merge (items.filter fun other => key other = key item) = some current := by
        rw [there]
      simp only [same, ne_eq, not_true_eq_false, and_false, false_or, List.filter_singleton,
        decide_true, cond_true, merged?_concat]
      cases found : merged? merge (items.filter fun other => key other = key item) with
      | none =>
        have absent (current : α) (listed : merged? merge
            (items.filter fun other => key other = key current) = some current) :
            key current ≠ key item := by
          intro there
          rw [before there, found] at listed
          cases listed
        constructor
        · rintro (⟨current, listed, there, -⟩ | ⟨-, rfl⟩)
          · exact absurd there (absent current listed)
          · rfl
        · rintro ⟨⟩
          exact .inr ⟨absent, rfl⟩
      | some current =>
        have there : key current = key item := key_merged? keeps (by simp) found
        constructor
        · rintro (⟨other, listed, there', rfl⟩ | ⟨absent, -⟩)
          · rw [before there', found] at listed
            obtain rfl := Option.some.inj listed
            rfl
          · exact absurd there (absent current ((before there).mpr found))
        · rintro ⟨⟩
          exact .inl ⟨current, (before there).mpr found, there, rfl⟩
    · have elsewhere : key item ≠ key entry := Ne.symm same
      simp only [List.filter_singleton, elsewhere, decide_false, cond_false, List.append_nil]
      constructor
      · rintro (⟨listed, -⟩ | ⟨current, -, there, rfl⟩ | ⟨-, rfl⟩)
        · exact listed
        · exact absurd (keeps current item there) same
        · exact absurd rfl same
      · exact fun listed => .inl ⟨listed, same⟩

end Decidable

end Keyed

end ClaimLedger.BlockIndex
