import ClaimLedger.Proofs.Numbers
import ClaimLedger.Codec.Wire

/-! What readers accept. A reader that succeeds passes some bytes, and its
success is to depend on nothing else: not on what stands before these bytes, not
on what follows them. `Reads` says that bytes are read so wherever they stand,
`Exact` that every success is of this kind. Both pass from the parts of a reader
to the whole, so that each wire format is described once and for all places. -/
namespace ClaimLedger

/-- The cursor moved over these bytes. -/
structure Cursor.Passes (before : Cursor) (bytes : Bytes) (after : Cursor) : Prop where
  rest : before.rest = bytes ++ after.rest
  passed : after.passed = bytes.reverse ++ before.passed

namespace Cursor.Passes

variable {before middle after : Cursor} {front back bytes : Bytes}

theorem nothing (c : Cursor) : c.Passes [] c := ⟨rfl, rfl⟩

theorem trans (first : before.Passes front middle) (second : middle.Passes back after) :
    before.Passes (front ++ back) after where
  rest := by rw [first.rest, second.rest, List.append_assoc]
  passed := by rw [second.passed, first.passed, List.reverse_append, List.append_assoc]

theorem tell (passes : before.Passes bytes after) : after.tell = before.tell + bytes.length := by
  simp [Cursor.tell, passes.passed, Nat.add_comm]

/-- The bytes passed are the bytes the cursor reports as consumed. -/
theorem consumed (passes : before.Passes bytes after) :
    after.consumedSince before.tell = bytes := by
  have distance : after.tell - before.tell = bytes.reverse.length := by
    rw [passes.tell, List.length_reverse]
    omega
  rw [Cursor.consumedSince, distance, passes.passed, List.take_left, List.reverse_reverse]

end Cursor.Passes

namespace Reader

variable {α β : Type}

/-- These bytes are read as this value wherever they stand. A reader may measure
positions from an origin, such as the start of the enclosing record, which lies
`skipped` bytes before the bytes read; most readers ignore it. -/
def Reads (reader : Nat → Reader α) (skipped : Nat) (bytes : Bytes) (value : α) : Prop :=
  ∀ passed rest : Bytes, skipped ≤ passed.length →
    reader (passed.length - skipped) ⟨passed, bytes ++ rest⟩ =
      .ok value ⟨bytes.reverse ++ passed, rest⟩

/-- Every success of the reader depends only on the bytes it passes. -/
def Exact (reader : Nat → Reader α) : Prop :=
  ∀ (origin : Nat) (before : Cursor) (value : α) (after : Cursor), origin ≤ before.tell →
    reader origin before = .ok value after →
    ∃ bytes, before.Passes bytes after ∧ Reads reader (before.tell - origin) bytes value

/-- What stands at the front can be told from the whole, and with it where it ends. -/
theorem Reads.unique {reader : Nat → Reader α} {front back otherFront otherBack : Bytes}
    {value other : α} (first : Reads reader 0 front value)
    (second : Reads reader 0 otherFront other) (same : front ++ back = otherFront ++ otherBack) :
    value = other ∧ back = otherBack := by
  have ran := first [] back (Nat.le_refl _)
  have again := second [] otherBack (Nat.le_refl _)
  rw [same, again] at ran
  injection ran with values ends
  exact ⟨values.symm, (congrArg Cursor.rest ends).symm⟩

/-! ## Sequences of readers -/

/-- A sequence succeeds when its parts do, one behind the other. -/
theorem bind_ok_iff {reader : Reader α} {next : α → Reader β} {before after : Cursor} {result : β} :
    (reader >>= next) before = .ok result after ↔
      ∃ value middle, reader before = .ok value middle ∧ next value middle = .ok result after := by
  constructor
  · intro ran
    cases found : reader before with
    | ok value middle =>
      refine ⟨value, middle, rfl, ?_⟩
      simpa only [Bind.bind, EStateM.bind, found] using ran
    | error cause middle => simp [Bind.bind, EStateM.bind, found] at ran
  · rintro ⟨value, middle, found, ran⟩
    simpa only [Bind.bind, EStateM.bind, found] using ran

theorem Reads.pure (value : α) (skipped : Nat) :
    Reads (fun _ => Pure.pure value) skipped [] value :=
  fun _ _ _ => rfl

theorem Reads.bind {reader : Nat → Reader α} {next : α → Nat → Reader β} {skipped : Nat}
    {front back : Bytes} {value : α} {result : β} (first : Reads reader skipped front value)
    (second : Reads (next value) (skipped + front.length) back result) :
    Reads (fun origin => reader origin >>= fun value => next value origin) skipped
      (front ++ back) result := by
  intro passed rest far
  rw [bind_ok_iff]
  refine ⟨value, ⟨front.reverse ++ passed, back ++ rest⟩, ?_, ?_⟩
  · simpa using first passed (back ++ rest) far
  · have ran := second (front.reverse ++ passed) rest (by simp; omega)
    have origin : (front.reverse ++ passed).length - (skipped + front.length) =
        passed.length - skipped := by simp; omega
    rw [origin] at ran
    simpa using ran

theorem Exact.pure (value : α) : Exact fun _ => Pure.pure value := by
  intro origin before result after _ ran
  cases ran
  exact ⟨[], .nothing before, Reads.pure value _⟩

theorem Exact.bind {reader : Nat → Reader α} {next : α → Nat → Reader β}
    (first : Exact reader) (second : ∀ value, Exact (next value)) :
    Exact fun origin => reader origin >>= fun value => next value origin := by
  intro origin before result after far ran
  obtain ⟨value, middle, firstRan, secondRan⟩ := bind_ok_iff.mp ran
  obtain ⟨front, passesFront, readsFront⟩ := first _ _ _ _ far firstRan
  have farther : origin ≤ middle.tell := by rw [passesFront.tell]; omega
  obtain ⟨back, passesBack, readsBack⟩ := second value _ _ _ _ farther secondRan
  have skipped : middle.tell - origin = before.tell - origin + front.length := by
    rw [passesFront.tell]
    omega
  exact ⟨front ++ back, passesFront.trans passesBack, readsFront.bind (skipped ▸ readsBack)⟩

/-- A reader that gives up at once never succeeds. -/
theorem Exact.throw (cause : Error) : Exact fun _ => (MonadExcept.throw cause : Reader α) := by
  intro origin before value after _ ran
  cases ran

theorem Exact.ite {reader other : Nat → Reader α} (condition : Prop) [Decidable condition]
    (exact : Exact reader) (otherwise : Exact other) :
    Exact fun origin => if condition then reader origin else other origin := by
  by_cases holds : condition
  · simpa only [if_pos holds] using exact
  · simpa only [if_neg holds] using otherwise

/-- Only successes count for what is read. -/
theorem Exact.congr {reader other : Nat → Reader α}
    (same : ∀ origin before value after,
      reader origin before = .ok value after ↔ other origin before = .ok value after)
    (exact : Exact other) : Exact reader := by
  intro origin before value after far ran
  obtain ⟨bytes, passes, reads⟩ := exact _ _ _ _ far ((same _ _ _ _).mp ran)
  exact ⟨bytes, passes, fun passed rest farther => (same _ _ _ _).mpr (reads passed rest farther)⟩

/-! ## Bytes and numbers -/

/-- Taking bytes succeeds exactly when there are so many, and passes them. -/
theorem take_ok_iff {n : Nat} {before after : Cursor} {bytes : Bytes} :
    take n before = .ok bytes after ↔ bytes.length = n ∧ before.Passes bytes after := by
  simp only [take, List.splitAt_eq, List.reverseAux_eq]
  constructor
  · intro ran
    split at ran
    · rename_i enough
      cases ran
      exact ⟨enough, (List.take_append_drop n before.rest).symm, rfl⟩
    · cases ran
  · rintro ⟨rfl, passes⟩
    rw [passes.rest, List.take_left, List.drop_left, if_pos rfl, ← passes.passed]

theorem Reads.take (bytes : Bytes) (skipped : Nat) :
    Reads (fun _ => Reader.take bytes.length) skipped bytes bytes :=
  fun _ _ _ => take_ok_iff.mpr ⟨rfl, rfl, rfl⟩

theorem Exact.take (n : Nat) : Exact fun _ => Reader.take n := by
  intro origin before bytes after _ ran
  obtain ⟨rfl, passes⟩ := take_ok_iff.mp ran
  exact ⟨bytes, passes, Reads.take bytes _⟩

/-- Readers that compute their value from what another reads. -/
theorem Reads.map {reader : Nat → Reader α} {skipped : Nat} {bytes : Bytes} {value : α}
    (reads : Reads reader skipped bytes value) (f : α → β) :
    Reads (fun origin => reader origin >>= fun value => Pure.pure (f value)) skipped bytes
      (f value) := by
  have both : Reads (fun origin => reader origin >>= fun value => Pure.pure (f value)) skipped
      (bytes ++ []) (f value) := reads.bind (Reads.pure (f value) _)
  rwa [List.append_nil] at both

theorem Exact.map {reader : Nat → Reader α} (exact : Exact reader) (f : α → β) :
    Exact fun origin => reader origin >>= fun value => Pure.pure (f value) :=
  exact.bind fun value => Exact.pure (f value)

theorem Reads.number (width n skipped : Nat) (fits : n < 256 ^ width) :
    Reads (fun _ => Reader.number width) skipped (leBytes width n) n := by
  have reads := (Reads.take (leBytes width n) skipped).map leValue
  rwa [length_leBytes, leValue_leBytes, Nat.mod_eq_of_lt fits] at reads

theorem Exact.number (width : Nat) : Exact fun _ => Reader.number width :=
  (Exact.take width).map leValue

theorem Reads.u8 (value : UInt8) (skipped : Nat) :
    Reads (fun _ => Reader.u8) skipped [value] value := by
  have reads := (Reads.number 1 value.toNat skipped value.toNat_lt).map UInt8.ofNat
  rwa [leBytes, leBytes, UInt8.ofNat_toNat] at reads

theorem Reads.u16 (value : UInt16) (skipped : Nat) :
    Reads (fun _ => Reader.u16) skipped (leBytes 2 value.toNat) value := by
  have reads := (Reads.number 2 value.toNat skipped value.toNat_lt).map UInt16.ofNat
  rwa [UInt16.ofNat_toNat] at reads

theorem Reads.u32 (value : UInt32) (skipped : Nat) :
    Reads (fun _ => Reader.u32) skipped (leBytes 4 value.toNat) value := by
  have reads := (Reads.number 4 value.toNat skipped value.toNat_lt).map UInt32.ofNat
  rwa [UInt32.ofNat_toNat] at reads

theorem Reads.u64 (value : UInt64) (skipped : Nat) :
    Reads (fun _ => Reader.u64) skipped (leBytes 8 value.toNat) value := by
  have reads := (Reads.number 8 value.toNat skipped value.toNat_lt).map UInt64.ofNat
  rwa [UInt64.ofNat_toNat] at reads

theorem Exact.u8 : Exact fun _ => Reader.u8 := (Exact.number 1).map UInt8.ofNat

theorem Exact.u32 : Exact fun _ => Reader.u32 := (Exact.number 4).map UInt32.ofNat

theorem Exact.u64 : Exact fun _ => Reader.u64 := (Exact.number 8).map UInt64.ofNat

theorem Reads.fixed {n : Nat} (value : FixedBytes n) (skipped : Nat) :
    Reads (fun _ => Reader.fixed n) skipped value.toList value := by
  have reads := (Reads.take value.toList skipped).map (FixedBytes.ofPadded n)
  rwa [value.length_toList, FixedBytes.ofPadded_toList] at reads

theorem Exact.fixed (n : Nat) : Exact fun _ => Reader.fixed n :=
  (Exact.take n).map (FixedBytes.ofPadded n)

/-! ## Counts and strings -/

theorem Exact.compactSize : Exact fun _ => Reader.compactSize :=
  Exact.u8.bind fun first =>
    .ite _ (.number 2) (.ite _ (.number 4) (.ite _ (.number 8) (.pure first.toNat)))

/-- A compact size is read in all its forms. -/
theorem Reads.form {n : Nat} {form : Bytes} (spells : CompactForm n form) (skipped : Nat) :
    Reads (fun _ => Reader.compactSize) skipped form n := by
  cases spells with
  | single small =>
    -- One byte below all markers is the number itself.
    have same : (UInt8.ofNat n).toNat = n := by rw [UInt8.toNat_ofNat']; omega
    have below : ∀ marker : UInt8, 0xFD ≤ marker.toNat → UInt8.ofNat n ≠ marker := by
      rintro _ high rfl
      omega
    intro passed rest far
    refine bind_ok_iff.mpr ⟨_, _, Reads.u8 (UInt8.ofNat n) skipped passed rest far, ?_⟩
    rw [if_neg (below 0xFD (by decide)), if_neg (below 0xFE (by decide)),
      if_neg (below 0xFF (by decide)), same]
    rfl
  | marked announced fits =>
    simp only [List.mem_cons, Prod.mk.injEq, List.not_mem_nil, or_false] at announced
    rcases announced with ⟨rfl, rfl⟩ | ⟨rfl, rfl⟩ | ⟨rfl, rfl⟩ <;>
      exact (Reads.u8 _ skipped).bind (Reads.number _ n _ fits)

/-- So it is in its shortest form. -/
theorem Reads.compactSize (n skipped : Nat) (fits : n < 2 ^ 64) :
    Reads (fun _ => Reader.compactSize) skipped (ClaimLedger.compactSize n) n :=
  .form (compactForm_compactSize fits) skipped

theorem number_ok {width n : Nat} {before after : Cursor}
    (ran : Reader.number width before = .ok n after) :
    n < 256 ^ width ∧ before.Passes (leBytes width n) after := by
  obtain ⟨bytes, middle, taken, ran⟩ := bind_ok_iff.mp ran
  cases ran
  obtain ⟨rfl, passes⟩ := take_ok_iff.mp taken
  rw [leBytes_leValue]
  exact ⟨leValue_lt bytes, passes⟩

theorem u8_ok {byte : UInt8} {before after : Cursor} (ran : Reader.u8 before = .ok byte after) :
    before.Passes [byte] after := by
  obtain ⟨n, middle, numbered, ran⟩ := bind_ok_iff.mp ran
  cases ran
  exact (number_ok numbered).2

/-- What is read as a compact size is one of its forms. -/
theorem compactSize_ok {n : Nat} {before after : Cursor}
    (ran : Reader.compactSize before = .ok n after) :
    ∃ form, CompactForm n form ∧ before.Passes form after := by
  obtain ⟨first, middle, firstRan, ran⟩ := bind_ok_iff.mp ran
  have passes := u8_ok firstRan
  have marked {width : Nat} (announced : (first, width) ∈ [(0xFD, 2), (0xFE, 4), (0xFF, 8)])
      (ran : Reader.number width middle = .ok n after) :
      ∃ form, CompactForm n form ∧ before.Passes form after :=
    ⟨_, .marked announced (number_ok ran).1, passes.trans (number_ok ran).2⟩
  split at ran
  · subst first
    exact marked (by simp) ran
  split at ran
  · subst first
    exact marked (by simp) ran
  split at ran
  · subst first
    exact marked (by simp) ran
  · cases ran
    have small : first.toNat < 0xFD := by
      have bound := first.toNat_lt
      have notTwo : first.toNat ≠ 0xFD := fun same => ‹¬ first = 0xFD› (UInt8.toNat_inj.mp same)
      have notFour : first.toNat ≠ 0xFE := fun same => ‹¬ first = 0xFE› (UInt8.toNat_inj.mp same)
      have notEight : first.toNat ≠ 0xFF := fun same => ‹¬ first = 0xFF› (UInt8.toNat_inj.mp same)
      omega
    have single := CompactForm.single small
    rw [UInt8.ofNat_toNat] at single
    exact ⟨_, single, passes⟩

/-- No compact size spells more than eight bytes hold. -/
theorem compactSize_lt {n : Nat} {before after : Cursor}
    (ran : Reader.compactSize before = .ok n after) : n < 2 ^ 64 := by
  obtain ⟨form, spells, -⟩ := compactSize_ok ran
  exact spells.lt

/-- The check of a length against what is left refuses nothing that could be
taken. -/
theorem checked_take_ok_iff {length : Nat} {before after : Cursor} {bytes : Bytes} :
    (do
      let c ← get
      if length ≤ c.remaining then Reader.take length
      else throw (.malformed (.lengthOverrun length c.remaining)) : Reader Bytes) before =
        .ok bytes after ↔ Reader.take length before = .ok bytes after := by
  change (if length ≤ before.remaining then Reader.take length
    else throw (.malformed (.lengthOverrun length before.remaining)) : Reader Bytes) before =
      .ok bytes after ↔ _
  by_cases enough : length ≤ before.remaining
  · rw [if_pos enough]
  · rw [if_neg enough, take_ok_iff]
    constructor
    · intro ran
      cases ran
    · rintro ⟨rfl, passes⟩
      exact absurd (by simp [Cursor.remaining, passes.rest]) enough

theorem Reads.string (bytes : Bytes) (skipped : Nat) (fits : bytes.length < 2 ^ 64) :
    Reads (fun _ => Reader.string) skipped (lengthPrefixed bytes) bytes :=
  (Reads.compactSize bytes.length skipped fits).bind fun passed rest far =>
    checked_take_ok_iff.mpr (Reads.take bytes _ passed rest far)

theorem Exact.string : Exact fun _ => Reader.string :=
  Exact.compactSize.bind fun length =>
    Exact.congr (fun _ _ _ _ => checked_take_ok_iff) (Exact.take length)

/-! ## Repeated readers -/

theorem Exact.replicate {reader : Nat → Reader α} (exact : Exact reader) (count : Nat) :
    Exact fun origin => Reader.replicate (reader origin) count := by
  induction count with
  | zero => exact Exact.pure []
  | succ count ih => exact exact.bind fun first => ih.map (first :: ·)

/-- Items written one behind the other are read back, up to what `view` does not
see: an item may differ by where it stood. -/
theorem Reads.replicate {γ δ : Type} {reader : Nat → Reader α} {write : γ → Bytes} (view : α → δ)
    (written : γ → δ) (items : List γ)
    (each : ∀ item ∈ items, ∀ skipped, ∃ value,
      Reads reader skipped (write item) value ∧ view value = written item) (skipped : Nat) :
    ∃ values, Reads (fun origin => Reader.replicate (reader origin) items.length) skipped
      (items.flatMap write) values ∧ values.map view = items.map written := by
  induction items generalizing skipped with
  | nil => exact ⟨[], Reads.pure [] skipped, rfl⟩
  | cons item items ih =>
    obtain ⟨value, reads, same⟩ := each item (by simp) skipped
    obtain ⟨values, readsRest, sameRest⟩ := ih (fun other member => each other (by simp [member]))
      (skipped + (write item).length)
    exact ⟨value :: values, reads.bind (readsRest.map (value :: ·)), by simp [same, sameRest]⟩

/-- The same where the value read is known from the item. -/
theorem Reads.replicate_map {γ : Type} {reader : Nat → Reader α} {write : γ → Bytes}
    (value : γ → α) (items : List γ)
    (each : ∀ item ∈ items, ∀ skipped, Reads reader skipped (write item) (value item))
    (skipped : Nat) :
    Reads (fun origin => Reader.replicate (reader origin) items.length) skipped
      (items.flatMap write) (items.map value) := by
  obtain ⟨values, reads, same⟩ := Reads.replicate id value items
    (fun item member skipped => ⟨value item, each item member skipped, rfl⟩) skipped
  rw [List.map_id] at same
  exact same ▸ reads

theorem Reads.replicate_self {reader : Nat → Reader α} {write : α → Bytes} (items : List α)
    (each : ∀ item ∈ items, ∀ skipped, Reads reader skipped (write item) item) (skipped : Nat) :
    Reads (fun origin => Reader.replicate (reader origin) items.length) skipped
      (items.flatMap write) items := by
  have reads := Reads.replicate_map id items each skipped
  rwa [List.map_id] at reads

theorem replicate_all {reader : Reader α} {good : α → Prop} {count : Nat} {before after : Cursor}
    {values : List α}
    (each : ∀ {before after : Cursor} {value : α}, reader before = .ok value after → good value)
    (ran : Reader.replicate reader count before = .ok values after) :
    ∀ value ∈ values, good value := by
  induction count generalizing before values with
  | zero => cases ran; simp
  | succ count ih =>
    obtain ⟨first, middle, firstRan, ran⟩ := bind_ok_iff.mp ran
    obtain ⟨rest, last, restRan, ran⟩ := bind_ok_iff.mp ran
    cases ran
    exact List.forall_mem_cons.mpr ⟨each firstRan, ih restRan⟩

theorem replicate_length {reader : Reader α} {count : Nat} {before after : Cursor}
    {values : List α} (ran : Reader.replicate reader count before = .ok values after) :
    values.length = count := by
  induction count generalizing before values with
  | zero => cases ran; rfl
  | succ count ih =>
    obtain ⟨first, middle, -, ran⟩ := bind_ok_iff.mp ran
    obtain ⟨rest, last, restRan, ran⟩ := bind_ok_iff.mp ran
    cases ran
    simp [ih restRan]

end Reader

end ClaimLedger
