import ClaimLedger.Codec.Field
import ClaimLedger.Input
import ClaimLedger.Proofs.ScriptOffsets
import ClaimLedger.Proofs.Streams

/-! Reading part by part. Whatever is asked of a reader, and however often it fails, it stands at
some position of the bytes that it was given, and never goes back. A reading takes its parts one
after the other, and each part whole or not at all: when one of them is not all there the reader
stops in front of it, behind the parts that it has, and can go on from there. -/
namespace ClaimLedger

/-! ## Plans -/

/-- The parts that a reading takes one after the other. How long a part is may depend on what the
parts before it hold. -/
inductive Plan (α : Type) where
  | done (value : α)
  | part (length : Nat) (next : Bytes → Plan α)

namespace Plan

variable {α β : Type}

def bind : Plan α → (α → Plan β) → Plan β
  | done value, rest => rest value
  | part length next, rest => part length fun bytes => (next bytes).bind rest

instance : Monad Plan where
  pure := done
  bind := bind

/-- The parts that some bytes begin with, as far as they are all there. -/
def parts : Plan α → Bytes → List Bytes
  | done _, _ => []
  | part length next, bytes =>
    if length ≤ bytes.length then
      bytes.take length :: (next (bytes.take length)).parts (bytes.drop length)
    else []

/-- What the parts are read as, or the length of the first that is not all there. -/
def outcome : Plan α → Bytes → Except Nat α
  | done value, _ => .ok value
  | part length next, bytes =>
    if length ≤ bytes.length then (next (bytes.take length)).outcome (bytes.drop length)
    else .error length

/-- The number of bytes in the parts that are all there. -/
def span (plan : Plan α) (bytes : Bytes) : Nat :=
  (plan.parts bytes).flatten.length

section

variable {length : Nat} {next : Bytes → Plan α} {bytes : Bytes}

theorem parts_of_le (enough : length ≤ bytes.length) : (part length next).parts bytes =
    bytes.take length :: (next (bytes.take length)).parts (bytes.drop length) :=
  if_pos enough

theorem outcome_of_le (enough : length ≤ bytes.length) : (part length next).outcome bytes =
    (next (bytes.take length)).outcome (bytes.drop length) :=
  if_pos enough

theorem span_of_le (enough : length ≤ bytes.length) : (part length next).span bytes =
    length + (next (bytes.take length)).span (bytes.drop length) := by
  rw [span, parts_of_le enough, List.flatten_cons, List.length_append,
    List.length_take_of_le enough, span]

theorem parts_of_lt (short : bytes.length < length) : (part length next).parts bytes = [] :=
  if_neg (Nat.not_le_of_lt short)

theorem outcome_of_lt (short : bytes.length < length) :
    (part length next).outcome bytes = .error length :=
  if_neg (Nat.not_le_of_lt short)

end

/-- Where all parts are there, the next plan goes on behind them. -/
theorem bind_of_ok {plan : Plan α} (rest : α → Plan β) {bytes : Bytes} {value : α}
    (came : plan.outcome bytes = .ok value) :
    (plan >>= rest).parts bytes =
        plan.parts bytes ++ (rest value).parts (bytes.drop (plan.span bytes)) ∧
      (plan >>= rest).outcome bytes = (rest value).outcome (bytes.drop (plan.span bytes)) := by
  induction plan generalizing bytes with
  | done found =>
    cases came
    exact ⟨rfl, rfl⟩
  | part length next ih =>
    have opened : (part length next >>= rest) = part length fun front => next front >>= rest := rfl
    rcases Nat.lt_or_ge bytes.length length with short | enough
    · rw [outcome_of_lt short] at came
      cases came
    · rw [outcome_of_le enough] at came
      rw [opened, parts_of_le enough, outcome_of_le enough, parts_of_le enough, span_of_le enough,
        ← List.drop_drop]
      obtain ⟨parts, outcome⟩ := ih _ came
      exact ⟨congrArg (bytes.take length :: ·) parts, outcome⟩

/-- Where one is missing, nothing of the next plan is read. -/
theorem bind_of_error {plan : Plan α} (rest : α → Plan β) {bytes : Bytes} {missing : Nat}
    (came : plan.outcome bytes = .error missing) :
    (plan >>= rest).parts bytes = plan.parts bytes ∧
      (plan >>= rest).outcome bytes = .error missing := by
  induction plan generalizing bytes with
  | done found => cases came
  | part length next ih =>
    have opened : (part length next >>= rest) = part length fun front => next front >>= rest := rfl
    rcases Nat.lt_or_ge bytes.length length with short | enough
    · rw [outcome_of_lt short] at came
      cases came
      rw [opened, parts_of_lt short, parts_of_lt short, outcome_of_lt short]
      exact ⟨rfl, rfl⟩
    · rw [outcome_of_le enough] at came
      rw [opened, parts_of_le enough, outcome_of_le enough, parts_of_le enough]
      obtain ⟨parts, outcome⟩ := ih _ came
      exact ⟨congrArg (bytes.take length :: ·) parts, outcome⟩

/-! ## Plans of the wire formats -/

def take (length : Nat) : Plan Bytes := part length done

def fixed (length : Nat) : Plan (FixedBytes length) :=
  return FixedBytes.ofPadded length (← take length)

def number (width : Nat) : Plan Nat := return leValue (← take width)

def u8 : Plan UInt8 := return UInt8.ofNat (← number 1)

def u16 : Plan UInt16 := return UInt16.ofNat (← number 2)

def u32 : Plan UInt32 := return UInt32.ofNat (← number 4)

def u64 : Plan UInt64 := return UInt64.ofNat (← number 8)

/-- One byte, and behind a marker as many as it announces. -/
def compactSize : Plan Nat := do
  let first ← u8
  if first = 0xFD then number 2
  else if first = 0xFE then number 4
  else if first = 0xFF then number 8
  else return first.toNat

/-- A compact size and as many bytes. -/
def string : Plan Bytes := do
  let length ← compactSize
  take length

def field : Field.Shape → Plan Field
  | .u8 => return .u8 (← u8)
  | .u16 => return .u16 (← u16)
  | .u32 => return .u32 (← u32)
  | .u64 => return .u64 (← u64)
  | .compact => return .compact (UInt64.ofNat (← compactSize))
  | .string => return .string (← string)
  | .bytes length => return .bytes (← take length)

/-- The hash and the position of the output spent, the script slot, and the sequence number. -/
def input : Plan Input := do
  let txid ← fixed 32
  let position ← u32
  let slot ← string
  let sequence ← u32
  return Input.ofBytes (.unresolved ⟨⟨txid, -1⟩, position⟩) slot sequence

end Plan

/-! ## Readers with a plan -/

namespace Reader

variable {α β : Type} {reader : Reader α} {plan : Plan α}

/-- Bytes that are not all there are left where they are. -/
theorem take_error {n : Nat} {before : Cursor} (short : before.remaining < n) :
    Reader.take n before =
      .error (.malformed (.shortRead n before.tell before.remaining)) before := by
  have fewer : ¬(before.rest.take n).length = n := by
    rw [List.length_take]
    unfold Cursor.remaining at short
    omega
  simp only [Reader.take, List.splitAt_eq, if_neg fewer]

/-- Bytes that are all there are taken. -/
theorem take_ok {n : Nat} {before : Cursor} (enough : n ≤ before.remaining) :
    Reader.take n before = .ok (before.rest.take n)
      ⟨(before.rest.take n).reverse ++ before.passed, before.rest.drop n⟩ :=
  take_ok_iff.mpr ⟨List.length_take_of_le enough, (List.take_append_drop n before.rest).symm, rfl⟩

/-- How it is told that so many bytes are not all there: with the place where they were asked for,
or, where they follow their length, without. -/
def shortages (missing : Nat) (c : Cursor) : List Malformation :=
  [.shortRead missing c.tell c.remaining, .lengthOverrun missing c.remaining]

/-- What comes of a reading that ends at a place: its value, or a failure in front of a part that
is not all there. -/
def Ends (after : Cursor) (outcome : Except Nat α) (result : EStateM.Result Error Cursor α) :
    Prop :=
  match outcome with
  | .ok value => result = .ok value after
  | .error missing => after.remaining < missing ∧
      ∃ cause ∈ shortages missing after, result = .error (.malformed cause) after

/-- The reader takes the parts of the plan as far as they are all there, and ends behind them. -/
def Obeys (reader : Reader α) (plan : Plan α) : Prop :=
  ∀ before, ∃ after, before.Passes (plan.parts before.rest).flatten after ∧
    Ends after (plan.outcome before.rest) (reader before)

namespace Obeys

theorem pure (value : α) : Obeys (Pure.pure value) (.done value) :=
  fun before => ⟨before, .nothing before, rfl⟩

theorem bind {next : α → Reader β} {rest : α → Plan β} (first : Obeys reader plan)
    (second : ∀ value, Obeys (next value) (rest value)) :
    Obeys (reader >>= next) (plan >>= rest) := by
  intro before
  obtain ⟨middle, passes, ran⟩ := first before
  -- Whether there is a second reader depends on the bytes alone, as the plan tells.
  cases came : plan.outcome before.rest with
  | error missing =>
    obtain ⟨parts, outcome⟩ := Plan.bind_of_error rest came
    rw [came] at ran
    obtain ⟨short, cause, told, failed⟩ := ran
    rw [parts, outcome]
    exact ⟨middle, passes, short, cause, told, by simp only [Bind.bind, EStateM.bind, failed]⟩
  | ok value =>
    obtain ⟨parts, outcome⟩ := Plan.bind_of_ok rest came
    have left : before.rest.drop (plan.span before.rest) = middle.rest := by
      have split := congrArg (List.drop (plan.span before.rest)) passes.rest
      rwa [Plan.span, List.drop_left] at split
    rw [came] at ran
    have onwards : (reader >>= next) before = next value middle := by
      simp only [Bind.bind, EStateM.bind, show reader before = .ok value middle from ran]
    obtain ⟨after, passesBehind, ends⟩ := second value middle
    rw [parts, outcome, left, onwards, List.flatten_append]
    exact ⟨after, passes.trans passesBehind, ends⟩

theorem map (obeys : Obeys reader plan) (f : α → β) :
    Obeys (reader >>= fun value => Pure.pure (f value))
      (plan >>= fun value => Pure.pure (f value)) :=
  obeys.bind fun value => .pure (f value)

theorem ite {other : Reader α} {otherPlan : Plan α} {condition : Prop} [Decidable condition]
    (obeys : Obeys reader plan) (otherwise : Obeys other otherPlan) :
    Obeys (if condition then reader else other) (if condition then plan else otherPlan) := by
  split
  · exact obeys
  · exact otherwise

/-! ## Bytes, numbers and strings -/

/-- A part that is taken whole or left where it is. -/
theorem part {length : Nat} {reader : Reader Bytes}
    (taken : ∀ before, length ≤ before.remaining → reader before = Reader.take length before)
    (left : ∀ before, before.remaining < length →
      ∃ cause ∈ shortages length before, reader before = .error (.malformed cause) before) :
    Obeys reader (.take length) := by
  intro before
  rcases Nat.lt_or_ge before.remaining length with short | enough
  · rw [Plan.take, Plan.parts_of_lt short, Plan.outcome_of_lt short]
    exact ⟨before, .nothing before, short, left before short⟩
  · have ran := take_ok enough
    rw [Plan.take, Plan.parts_of_le enough, Plan.outcome_of_le enough]
    refine ⟨_, ?_, (taken before enough).trans ran⟩
    show before.Passes [before.rest.take length].flatten _
    rw [List.flatten_singleton]
    exact (take_ok_iff.mp ran).2

theorem take (length : Nat) : Obeys (Reader.take length) (.take length) :=
  part (fun _ _ => rfl) fun _ short => ⟨_, by simp [shortages], take_error short⟩

theorem number (width : Nat) : Obeys (Reader.number width) (.number width) :=
  (take width).map leValue

theorem fixed (length : Nat) : Obeys (Reader.fixed length) (.fixed length) :=
  (take length).map (FixedBytes.ofPadded length)

theorem u8 : Obeys Reader.u8 .u8 := (number 1).map UInt8.ofNat

theorem u16 : Obeys Reader.u16 .u16 := (number 2).map UInt16.ofNat

theorem u32 : Obeys Reader.u32 .u32 := (number 4).map UInt32.ofNat

theorem u64 : Obeys Reader.u64 .u64 := (number 8).map UInt64.ofNat

theorem compactSize : Obeys Reader.compactSize .compactSize :=
  u8.bind fun first => .ite (number 2) (.ite (number 4) (.ite (number 8) (.pure first.toNat)))

/-- The length of a string is checked before its bytes are asked for, which leaves the reader where
asking for them would. -/
theorem string : Obeys Reader.string .string :=
  compactSize.bind fun _ => part
    (fun before enough => congrFun (if_pos enough) before)
    (fun before short => ⟨.lengthOverrun _ before.remaining, by simp [shortages],
      congrFun (if_neg (Nat.not_le_of_lt short)) before⟩)

theorem field (shape : Field.Shape) : Obeys shape.read (.field shape) := by
  cases shape with
  | u8 => exact u8.map Field.u8
  | u16 => exact u16.map Field.u16
  | u32 => exact u32.map Field.u32
  | u64 => exact u64.map Field.u64
  | compact => exact compactSize.map fun n => Field.compact (UInt64.ofNat n)
  | string => exact string.map Field.string
  | bytes length => exact (take length).map Field.bytes

theorem input : Obeys Input.read .input :=
  (fixed 32).bind fun _ => u32.bind fun _ => string.bind fun _ => u32.map _

end Obeys

end Reader

/-! ## Requests -/

/-- Something that is asked of a reader. -/
inductive Request where
  | field (shape : Field.Shape)
  | fixed (length : Nat)
  | input

/-- What is read for a request. -/
inductive Answer where
  | field (field : Field)
  | fixed {length : Nat} (bytes : FixedBytes length)
  | input (input : Input)

namespace Request

def read : Request → Reader Answer
  | field shape => return .field (← shape.read)
  | fixed length => return .fixed (← Reader.fixed length)
  | input => return .input (← Input.read)

def plan : Request → Plan Answer
  | field shape => return .field (← Plan.field shape)
  | fixed length => return .fixed (← Plan.fixed length)
  | input => return .input (← Plan.input)

/-- The number of bytes of a request that does not depend on what it reads. -/
def width? : Request → Option Nat
  | field .u8 => some 1
  | field .u16 => some 2
  | field .u32 => some 4
  | field .u64 => some 8
  | field (.bytes length) => some length
  | fixed length => some length
  | field .compact | field .string | input => none

/-- What comes of a request, and where it leaves the reader. -/
def attempt (request : Request) (before : Cursor) : Except Error Answer × Cursor :=
  match request.read before with
  | .ok answer after => (.ok answer, after)
  | .error cause after => (.error cause, after)

/-- Requests made one after the other, each where the one before it left the reader, whether that
one had success or not. -/
def session : List Request → Cursor → List (Except Error Answer × Cursor)
  | [], _ => []
  | request :: requests, before =>
    request.attempt before :: session requests (request.attempt before).2

theorem obeys (request : Request) : Reader.Obeys request.read request.plan := by
  cases request with
  | field shape => exact (Reader.Obeys.field shape).map Answer.field
  | fixed length => exact (Reader.Obeys.fixed length).map Answer.fixed
  | input => exact Reader.Obeys.input.map Answer.input

/-- A request of a known width has a single part. -/
theorem plan_of_width {request : Request} {width : Nat} (single : request.width? = some width) :
    ∃ answer : Bytes → Answer, request.plan = .part width fun bytes => .done (answer bytes) := by
  cases request with
  | field shape => cases shape <;> cases single <;> exact ⟨_, rfl⟩
  | fixed length =>
    cases single
    exact ⟨_, rfl⟩
  | input => cases single

end Request

/-! ## Positions -/

variable {data : Bytes} {position : Nat}

namespace Cursor

theorem tell_within (inside : position ≤ data.length) : (within data position).tell = position := by
  rw [within, tell, List.length_reverse, List.length_take_of_le inside]

theorem remaining_within : (within data position).remaining = data.length - position :=
  List.length_drop

/-- What was consumed since some position is a slice of the bytes; since a position that is still
to come, it is nothing. -/
theorem consumedSince_within (inside : position ≤ data.length) (start : Nat) :
    slice? data (min start position) position =
      some ((within data position).consumedSince start) := by
  have behind : min start position ≤ position ∧ position ≤ data.length :=
    ⟨Nat.min_le_right _ _, inside⟩
  have back : position - (position - start) = min start position := by omega
  rw [slice?, if_pos behind, consumedSince, tell_within inside, within, List.take_reverse,
    List.reverse_reverse, List.length_take_of_le inside, back, List.drop_take]

end Cursor

namespace Reader

/-- Bytes that are all there are taken as a slice. -/
theorem take_within {n : Nat} (inside : position ≤ data.length)
    (enough : n ≤ (Cursor.within data position).remaining) :
    ∃ bytes, slice? data position (position + n) = some bytes ∧
      Reader.take n (Cursor.within data position) =
        .ok bytes (Cursor.within data (position + n)) := by
  have fits : position + n ≤ data.length := by
    rw [Cursor.remaining_within] at enough
    omega
  have length : ((data.drop position).take n).length = n := List.length_take_of_le enough
  refine ⟨(data.drop position).take n, ?_, take_ok_iff.mpr ⟨length, ?_⟩⟩
  · rw [slice?, if_pos ⟨Nat.le_add_right _ _, fits⟩, Nat.add_sub_cancel_left]
  · exact Cursor.passes_within_iff.mpr ⟨List.take_prefix _ _, by rw [length]⟩

/-- A reader with a plan goes from a position to a position. -/
theorem Obeys.within {α : Type} {reader : Reader α} {plan : Plan α} (obeys : Obeys reader plan)
    (inside : position ≤ data.length) :
    position + plan.span (data.drop position) ≤ data.length ∧
      Ends (Cursor.within data (position + plan.span (data.drop position)))
        (plan.outcome (data.drop position)) (reader (Cursor.within data position)) := by
  obtain ⟨after, passes, ends⟩ := obeys (Cursor.within data position)
  obtain ⟨stands, rfl⟩ := Cursor.passes_within_iff.mp passes
  have fits := stands.length_le
  rw [List.length_drop] at fits
  exact ⟨Nat.add_le_of_le_sub' inside fits, ends⟩

end Reader

namespace Request

theorem attempt_within (request : Request) (inside : position ≤ data.length) :
    (request.attempt (Cursor.within data position)).2 =
      Cursor.within data (position + request.plan.span (data.drop position)) := by
  obtain ⟨-, ends⟩ := request.obeys.within inside
  unfold attempt
  cases came : request.plan.outcome (data.drop position) with
  | ok answer =>
    rw [came] at ends
    simp only [show request.read _ = .ok answer _ from ends]
  | error missing =>
    rw [came] at ends
    obtain ⟨-, cause, -, failed⟩ := ends
    simp only [failed]

/-- The places where a session leaves the reader are positions of the same bytes, and none of them
lies behind a later one. -/
theorem session_within (requests : List Request) (inside : position ≤ data.length) :
    ∃ positions : List Nat,
      (session requests (Cursor.within data position)).map Prod.snd =
        positions.map (Cursor.within data) ∧
      (position :: positions).Pairwise (· ≤ ·) ∧ ∀ later ∈ positions, later ≤ data.length := by
  induction requests generalizing position with
  | nil => exact ⟨[], rfl, List.pairwise_singleton _ _, nofun⟩
  | cons request requests ih =>
    -- The rest of the session starts where the request ends, also where it fails.
    obtain ⟨bound, -⟩ := request.obeys.within inside
    obtain ⟨positions, places, ordered, within⟩ := ih bound
    have forth := Nat.le_add_right position (request.plan.span (data.drop position))
    have further := (List.pairwise_cons.mp ordered).1
    refine ⟨_ :: positions, ?_, List.pairwise_cons.mpr ⟨List.forall_mem_cons.mpr ⟨forth,
      fun later member => Nat.le_trans forth (further later member)⟩, ordered⟩,
      List.forall_mem_cons.mpr ⟨bound, within⟩⟩
    rw [session, List.map_cons, List.map_cons, attempt_within request inside, places]

/-- A request of a known width passes all its bytes or none. -/
theorem read_of_width {request : Request} {width : Nat} (single : request.width? = some width)
    (inside : position ≤ data.length) :
    (width ≤ (Cursor.within data position).remaining → ∃ answer,
      request.read (Cursor.within data position) =
        .ok answer (Cursor.within data (position + width))) ∧
    ((Cursor.within data position).remaining < width → ∃ cause,
      request.read (Cursor.within data position) =
        .error cause (Cursor.within data position)) := by
  obtain ⟨answer, planned⟩ := plan_of_width single
  obtain ⟨-, ends⟩ := request.obeys.within inside
  rw [planned] at ends
  constructor
  · intro (enough : width ≤ (data.drop position).length)
    rw [Plan.span_of_le enough, Plan.outcome_of_le enough] at ends
    exact ⟨_, ends⟩
  · intro (short : (data.drop position).length < width)
    rw [Plan.span, Plan.parts_of_lt short, Plan.outcome_of_lt short] at ends
    obtain ⟨-, cause, -, failed⟩ := ends
    exact ⟨_, failed⟩

end Request

/-! ## What a reader can do -/

/-- A reader that stands at a position stays within its bytes. -/
structure Reader.Confined (data : Bytes) (position : Nat) : Prop where
  tell : (Cursor.within data position).tell = position
  /-- What remains is what the bytes have behind the position. -/
  remaining : position + (Cursor.within data position).remaining = data.length
  /-- What was consumed since any position, passed or to come, is a slice of the bytes. -/
  consumed : ∀ start, slice? data (min start position) position =
    some ((Cursor.within data position).consumedSince start)
  /-- As many bytes as remain can be taken, and they are the slice that is passed. -/
  take : ∀ n ≤ (Cursor.within data position).remaining, ∃ bytes,
    slice? data position (position + n) = some bytes ∧
    Reader.take n (Cursor.within data position) = .ok bytes (Cursor.within data (position + n))
  /-- No more can be taken. -/
  refuse : ∀ n, (Cursor.within data position).remaining < n →
    Reader.take n (Cursor.within data position) =
      .error (.malformed (.shortRead n position (data.length - position)))
        (Cursor.within data position)
  /-- A number or an array is read whole, or the reader stays where it is. -/
  single : ∀ (request : Request) (width : Nat), request.width? = some width →
    (width ≤ (Cursor.within data position).remaining → ∃ answer,
      request.read (Cursor.within data position) =
        .ok answer (Cursor.within data (position + width))) ∧
    ((Cursor.within data position).remaining < width → ∃ cause,
      request.read (Cursor.within data position) = .error cause (Cursor.within data position))
  /-- Any request ends behind those of its parts that are all there. -/
  parts : ∀ request : Request,
    position + request.plan.span (data.drop position) ≤ data.length ∧
    Reader.Ends (Cursor.within data (position + request.plan.span (data.drop position)))
      (request.plan.outcome (data.drop position)) (request.read (Cursor.within data position))

theorem Reader.confined (inside : position ≤ data.length) : Reader.Confined data position where
  tell := Cursor.tell_within inside
  remaining := by
    rw [Cursor.remaining_within]
    omega
  consumed := Cursor.consumedSince_within inside
  take _ enough := Reader.take_within inside enough
  refuse _ short := by
    rw [Reader.take_error short, Cursor.tell_within inside, Cursor.remaining_within]
  single _ _ single := Request.read_of_width single inside
  parts request := request.obeys.within inside

/-- A reader never leaves its bytes. Whatever is asked of it, and however often it fails, it stands
at a position of the bytes that it was given, and never goes back. At every position it takes as
many bytes as remain and no more, and knows what it has consumed. A request that fails leaves it
behind the parts that it has read: a number or an array is one part, a compact size has two where
it begins with a marker, a string has its bytes behind those of its length, and an input has the
parts of its four fields. -/
theorem Request.sessions_confined (data : Bytes) :
    (∀ requests : List Request, ∃ positions : List Nat,
      (session requests (Cursor.start data)).map Prod.snd = positions.map (Cursor.within data) ∧
      (0 :: positions).Pairwise (· ≤ ·) ∧ ∀ position ∈ positions, position ≤ data.length) ∧
    ∀ position ≤ data.length, Reader.Confined data position :=
  ⟨fun requests => session_within requests (Nat.zero_le _), fun _ inside => Reader.confined inside⟩

/-- A compact size that is cut off behind its marker, as the length of a string as well; where the
reader stopped, four bytes are refused and one is read. -/
theorem Request.sessions_confined_cut :
    (session [.field .string, .field .u32, .field .u8, .input] (Cursor.start [0xFD, 5])).map
        Prod.snd = [1, 1, 2, 2].map (Cursor.within [0xFD, 5]) ∧
      (∃ positions : List Nat,
        (session [.field .string, .field .u32, .field .u8, .input] (Cursor.start [0xFD, 5])).map
          Prod.snd = positions.map (Cursor.within [0xFD, 5]) ∧
        (0 :: positions).Pairwise (· ≤ ·) ∧ ∀ position ∈ positions, position ≤ 2) ∧
      Reader.Confined [0xFD, 5] 1 := by
  obtain ⟨sessions, confined⟩ := sessions_confined [0xFD, 5]
  exact ⟨rfl, sessions _, confined 1 (by decide)⟩

end ClaimLedger
