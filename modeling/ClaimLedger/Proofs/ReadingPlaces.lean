import ClaimLedger.Proofs.ReadingParts

/-! Reading by positions. Instead of splitting its bytes a reader can keep them whole, with a
position in them, and cut out a slice for each read. Then there are steps that can go wrong: the
difference that tells how much remains, and the slices. Here they are partial, and nothing stands
for one that goes wrong. None of them ever does, whatever is asked one after the other and however
often it fails, because each read compares before it cuts; and the answers and places are those of
the cursor. -/
namespace ClaimLedger

/-- A byte string and a position, which may lie outside. -/
structure Place where
  data : Bytes
  position : Nat

namespace Place

/-- The number of bytes behind the position. -/
def remaining? (place : Place) : Option Nat :=
  if place.position ≤ place.data.length then some (place.data.length - place.position) else none

/-- The slice between another position and this one, or nothing of the bytes if the other is still
to come. -/
def consumedSince? (place : Place) (start : Nat) : Option Bytes :=
  slice? place.data (min start place.position) place.position

variable {data : Bytes} {position : Nat}

theorem remaining?_eq (inside : position ≤ data.length) :
    (Place.mk data position).remaining? = some (Cursor.within data position).remaining := by
  rw [Cursor.remaining_within]
  exact if_pos inside

theorem consumedSince?_eq (inside : position ≤ data.length) (start : Nat) :
    (Place.mk data position).consumedSince? start =
      some ((Cursor.within data position).consumedSince start) :=
  Cursor.consumedSince_within inside start

end Place

/-! ## Readers -/

/-- A reader that moves a position, also when it fails. Where one of its steps goes wrong, it comes
to nothing. -/
def PlaceReader (α : Type) := Place → Option (Except Error α × Place)

namespace PlaceReader

instance : Monad PlaceReader where
  pure value place := some (.ok value, place)
  bind placed next place :=
    match placed place with
    | some (.ok value, later) => next value later
    | some (.error cause, later) => some (.error cause, later)
    | none => none

def fail {α : Type} (cause : Error) : PlaceReader α := fun place => some (.error cause, place)

def remaining : PlaceReader Nat := fun place => do
  let remaining ← place.remaining?
  return (.ok remaining, place)

/-- The next `n` bytes, if there are as many. -/
def take (n : Nat) : PlaceReader Bytes := fun place => do
  let remaining ← place.remaining?
  if remaining < n then fail (.malformed (.shortRead n place.position remaining)) place
  else
    let bytes ← slice? place.data place.position (place.position + n)
    return (.ok bytes, { place with position := place.position + n })

def fixed (n : Nat) : PlaceReader (FixedBytes n) := return FixedBytes.ofPadded n (← take n)

def number (width : Nat) : PlaceReader Nat := return leValue (← take width)

def u8 : PlaceReader UInt8 := return UInt8.ofNat (← number 1)

def u16 : PlaceReader UInt16 := return UInt16.ofNat (← number 2)

def u32 : PlaceReader UInt32 := return UInt32.ofNat (← number 4)

def u64 : PlaceReader UInt64 := return UInt64.ofNat (← number 8)

def compactSize : PlaceReader Nat := do
  let first ← u8
  if first = 0xFD then number 2
  else if first = 0xFE then number 4
  else if first = 0xFF then number 8
  else return first.toNat

/-- A compact size and as many bytes. The length is compared before anything is cut out. -/
def string : PlaceReader Bytes := do
  let length ← compactSize
  let remaining ← remaining
  if length ≤ remaining then take length
  else fail (.malformed (.lengthOverrun length remaining))

def field : Field.Shape → PlaceReader Field
  | .u8 => return .u8 (← u8)
  | .u16 => return .u16 (← u16)
  | .u32 => return .u32 (← u32)
  | .u64 => return .u64 (← u64)
  | .compact => return .compact (UInt64.ofNat (← compactSize))
  | .string => return .string (← string)
  | .bytes length => return .bytes (← take length)

def input : PlaceReader Input := do
  let txid ← fixed 32
  let position ← u32
  let slot ← string
  let sequence ← u32
  return Input.ofBytes (.unresolved ⟨⟨txid, -1⟩, position⟩) slot sequence

/-! ## In step with the cursor -/

variable {α β : Type} {placed : PlaceReader α} {reader : Reader α}

/-- Inside the bytes the reader goes wrong nowhere, stays inside, and comes to what the reader of
a cursor comes to at the same position. -/
def InStep (placed : PlaceReader α) (reader : Reader α) : Prop :=
  ∀ (data : Bytes) (position : Nat), position ≤ data.length → ∃ outcome later,
    later ≤ data.length ∧ placed ⟨data, position⟩ = some (outcome, ⟨data, later⟩) ∧
    reader (.within data position) =
      match outcome with
      | .ok value => .ok value (.within data later)
      | .error cause => .error cause (.within data later)

namespace InStep

theorem pure (value : α) : InStep (Pure.pure value) (Pure.pure value) :=
  fun _ position inside => ⟨.ok value, position, inside, rfl, rfl⟩

theorem bind {next : α → PlaceReader β} {follow : α → Reader β}
    (first : InStep placed reader) (second : ∀ value, InStep (next value) (follow value)) :
    InStep (placed >>= next) (reader >>= follow) := by
  intro data position inside
  obtain ⟨outcome, middle, within, moved, ran⟩ := first data position inside
  cases outcome with
  | error cause =>
    refine ⟨.error cause, middle, within, ?_, ?_⟩
    · simp only [Bind.bind, moved]
    · simp only [Bind.bind, EStateM.bind, ran]
  | ok value =>
    obtain ⟨outcome, later, within, movedOn, ranOn⟩ := second value data middle within
    refine ⟨outcome, later, within, ?_, ?_⟩
    · simp only [Bind.bind, moved, movedOn]
    · simp only [Bind.bind, EStateM.bind, ran]
      exact ranOn

theorem map (inStep : InStep placed reader) (f : α → β) :
    InStep (placed >>= fun value => Pure.pure (f value))
      (reader >>= fun value => Pure.pure (f value)) :=
  inStep.bind fun value => .pure (f value)

theorem ite {other : PlaceReader α} {otherReader : Reader α} {condition : Prop}
    [Decidable condition] (inStep : InStep placed reader) (otherwise : InStep other otherReader) :
    InStep (if condition then placed else other) (if condition then reader else otherReader) := by
  split
  · exact inStep
  · exact otherwise

/-- Bytes are cut out only where they are all there. -/
theorem take (n : Nat) : InStep (PlaceReader.take n) (Reader.take n) := by
  intro data position inside
  have remaining := Place.remaining?_eq inside
  rcases Nat.lt_or_ge (Cursor.within data position).remaining n with short | enough
  · refine ⟨.error _, position, inside, ?_, Reader.take_error short⟩
    simp only [PlaceReader.take, remaining, Option.bind_eq_bind, Option.bind_some, if_pos short,
      Cursor.tell_within inside, fail]
  · obtain ⟨bytes, cut, ran⟩ := Reader.take_within inside enough
    have fits : position + n ≤ data.length := by
      rw [Cursor.remaining_within] at enough
      omega
    refine ⟨.ok bytes, position + n, fits, ?_, ran⟩
    simp only [PlaceReader.take, remaining, Option.bind_eq_bind, Option.bind_some,
      if_neg (Nat.not_lt_of_le enough), cut, Option.pure_def]

theorem number (width : Nat) : InStep (PlaceReader.number width) (Reader.number width) :=
  (take width).map leValue

theorem fixed (n : Nat) : InStep (PlaceReader.fixed n) (Reader.fixed n) :=
  (take n).map (FixedBytes.ofPadded n)

theorem u8 : InStep PlaceReader.u8 Reader.u8 := (number 1).map UInt8.ofNat

theorem u16 : InStep PlaceReader.u16 Reader.u16 := (number 2).map UInt16.ofNat

theorem u32 : InStep PlaceReader.u32 Reader.u32 := (number 4).map UInt32.ofNat

theorem u64 : InStep PlaceReader.u64 Reader.u64 := (number 8).map UInt64.ofNat

theorem compactSize : InStep PlaceReader.compactSize Reader.compactSize :=
  u8.bind fun first => .ite (number 2) (.ite (number 4) (.ite (number 8) (.pure first.toNat)))

/-- The length that a string begins with is only asked for where as many bytes remain. -/
theorem string : InStep PlaceReader.string Reader.string := by
  refine compactSize.bind fun length data position inside => ?_
  have compared : (PlaceReader.remaining >>= fun remaining =>
      if length ≤ remaining then PlaceReader.take length
      else fail (.malformed (.lengthOverrun length remaining))) ⟨data, position⟩ =
      (if length ≤ (Cursor.within data position).remaining then PlaceReader.take length
      else fail (.malformed (.lengthOverrun length (Cursor.within data position).remaining)))
        ⟨data, position⟩ := by
    simp only [Bind.bind, PlaceReader.remaining, Place.remaining?_eq inside, Option.bind_some,
      Option.pure_def]
  rcases Nat.lt_or_ge (Cursor.within data position).remaining length with short | enough
  · have long : ¬length ≤ (Cursor.within data position).remaining := Nat.not_le_of_lt short
    refine ⟨.error _, position, inside, ?_, congrFun (if_neg long) _⟩
    rw [compared, if_neg long, fail]
  · obtain ⟨outcome, later, within, moved, ran⟩ := take length data position inside
    refine ⟨outcome, later, within, ?_, (congrFun (if_pos enough) _).trans ran⟩
    rw [compared, if_pos enough, moved]

theorem field (shape : Field.Shape) : InStep (PlaceReader.field shape) shape.read := by
  cases shape with
  | u8 => exact u8.map Field.u8
  | u16 => exact u16.map Field.u16
  | u32 => exact u32.map Field.u32
  | u64 => exact u64.map Field.u64
  | compact => exact compactSize.map fun n => Field.compact (UInt64.ofNat n)
  | string => exact string.map Field.string
  | bytes length => exact (take length).map Field.bytes

theorem input : InStep PlaceReader.input Input.read :=
  (fixed 32).bind fun _ => u32.bind fun _ => string.bind fun _ => u32.map _

end InStep

end PlaceReader

/-! ## Sessions -/

namespace Request

/-- What a request reads at a place. -/
def readAt : Request → PlaceReader Answer
  | field shape => return .field (← PlaceReader.field shape)
  | fixed length => return .fixed (← PlaceReader.fixed length)
  | input => return .input (← PlaceReader.input)

theorem inStep (request : Request) : PlaceReader.InStep request.readAt request.read := by
  cases request with
  | field shape => exact (PlaceReader.InStep.field shape).map Answer.field
  | fixed length => exact (PlaceReader.InStep.fixed length).map Answer.fixed
  | input => exact PlaceReader.InStep.input.map Answer.input

/-- Requests made one after the other, each at the place where the one before it left the reader. -/
def sessionAt : List Request → Place → Option (List (Except Error Answer × Place))
  | [], _ => some []
  | request :: requests, place => do
    let (outcome, later) ← request.readAt place
    let rest ← sessionAt requests later
    return (outcome, later) :: rest

/-- No step of a session by positions goes wrong. It answers as the session of a cursor does, and
stands where the cursor stands. -/
theorem sessionAt_eq (requests : List Request) {data : Bytes} {position : Nat}
    (inside : position ≤ data.length) :
    ∃ answers : List (Except Error Answer × Nat),
      sessionAt requests ⟨data, position⟩ =
        some (answers.map fun (outcome, later) => (outcome, ⟨data, later⟩)) ∧
      session requests (.within data position) =
        answers.map (fun (outcome, later) => (outcome, .within data later)) ∧
      ∀ answer ∈ answers, answer.2 ≤ data.length := by
  induction requests generalizing position with
  | nil => exact ⟨[], rfl, rfl, List.forall_mem_nil _⟩
  | cons request requests ih =>
    obtain ⟨outcome, later, within, moved, ran⟩ := request.inStep data position inside
    obtain ⟨answers, placed, answered, bounded⟩ := ih within
    have attempted : request.attempt (.within data position) = (outcome, .within data later) := by
      cases outcome <;> simp only [attempt, ran]
    refine ⟨(outcome, later) :: answers, ?_, ?_, List.forall_mem_cons.mpr ⟨within, bounded⟩⟩
    · simp only [sessionAt, moved, placed, Option.bind_eq_bind, Option.bind_some, Option.pure_def,
        List.map_cons]
    · rw [session, attempted, answered, List.map_cons]

end Request

end ClaimLedger
