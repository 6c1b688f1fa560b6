import ClaimLedger.Claim.Basic
import ClaimLedger.Claim.Message

/-! Payloads inside scripts. A payload is the bytes the script carries and, once
somebody has looked, the value they decode to. Looking never changes the bytes;
when the script is rebuilt, a payload that holds a value is encoded anew and one
that does not keeps its bytes. -/
namespace ClaimLedger

/-- A type of values that payloads can hold. -/
class PayloadFormat (α : Type) where
  decode : Bytes → Except Error α
  encode : α → Bytes

instance : PayloadFormat Claim := ⟨Claim.decode, Claim.encode⟩

instance : PayloadFormat Purchase := ⟨Purchase.decode, Purchase.encode⟩

/-- Bytes, and the value they were decoded to or built from. -/
structure Payload (α : Type) where
  raw : Bytes
  parsed : Option α
  deriving DecidableEq

namespace Payload

variable {α : Type} [PayloadFormat α]

def ofRaw (raw : Bytes) : Payload α := ⟨raw, none⟩

def ofValue (value : α) : Payload α := ⟨PayloadFormat.encode value, some value⟩

def isParsed (payload : Payload α) : Bool := payload.parsed.isSome

/-- The value: the one already held, or what the bytes decode to. -/
def value (payload : Payload α) : Except Error α :=
  match payload.parsed with
  | some value => .ok value
  | none => PayloadFormat.decode payload.raw

/-- The payload after somebody looked at its value. -/
def decoded (payload : Payload α) : Payload α :=
  match payload.value with
  | .ok value => ⟨payload.raw, some value⟩
  | .error _ => payload

/-- The payload holding another value; its bytes follow when it is synced. -/
def withValue (payload : Payload α) (value : α) : Payload α :=
  ⟨payload.raw, some value⟩

/-- The payload with its bytes encoded anew from the value it holds, if any. -/
def synced (payload : Payload α) : Payload α :=
  match payload.parsed with
  | some value => ⟨PayloadFormat.encode value, some value⟩
  | none => payload

theorem value_decoded (payload : Payload α) : payload.decoded.value = payload.value := by
  unfold decoded
  split
  · next found => exact found.symm
  · rfl

theorem raw_decoded (payload : Payload α) : payload.decoded.raw = payload.raw := by
  unfold decoded
  split <;> rfl

end Payload

end ClaimLedger
