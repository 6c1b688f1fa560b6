import ClaimLedger.Codec.Wire

/-! Typed byte streams: sequences of numbers, counts and byte strings, each
written in its own form and read back by its shape. The shape of a raw byte
string includes its length, which the stream does not record. -/
namespace ClaimLedger

/-- One value of a stream. -/
inductive Field where
  | u8 (value : UInt8)
  | u16 (value : UInt16)
  | u32 (value : UInt32)
  | u64 (value : UInt64)
  | compact (value : UInt64)
  | string (bytes : Bytes)
  | bytes (bytes : Bytes)
  deriving DecidableEq

/-- What has to be known beforehand to read a value. -/
inductive Field.Shape where
  | u8
  | u16
  | u32
  | u64
  | compact
  | string
  | bytes (length : Nat)
  deriving DecidableEq

namespace Field

def shape : Field → Shape
  | u8 _ => .u8
  | u16 _ => .u16
  | u32 _ => .u32
  | u64 _ => .u64
  | compact _ => .compact
  | string _ => .string
  | bytes content => .bytes content.length

def write : Field → Bytes
  | u8 value => leBytes 1 value.toNat
  | u16 value => leBytes 2 value.toNat
  | u32 value => leBytes 4 value.toNat
  | u64 value => leBytes 8 value.toNat
  | compact value => compactSize value.toNat
  | string content => lengthPrefixed content
  | bytes content => content

/-- The number of bytes a value takes. -/
def width : Field → Nat
  | u8 _ => 1
  | u16 _ => 2
  | u32 _ => 4
  | u64 _ => 8
  | compact value => compactSizeLength value.toNat
  | string content => compactSizeLength content.length + content.length
  | bytes content => content.length

def Shape.read : Shape → Reader Field
  | .u8 => return .u8 (← Reader.u8)
  | .u16 => return .u16 (← Reader.u16)
  | .u32 => return .u32 (← Reader.u32)
  | .u64 => return .u64 (← Reader.u64)
  | .compact => return .compact (UInt64.ofNat (← Reader.compactSize))
  | .string => return .string (← Reader.string)
  | .bytes length => return .bytes (← Reader.take length)

/-- The fields of a stream one after the other. -/
def writeAll (fields : List Field) : Bytes :=
  fields.flatMap write

/-- Reads values of the given shapes in order. -/
def readAll : List Shape → Reader (List Field)
  | [] => return []
  | shape :: shapes => do
    let field ← shape.read
    let fields ← readAll shapes
    return field :: fields

theorem length_write (field : Field) : field.write.length = field.width := by
  cases field <;> simp [write, width, length_compactSize, length_lengthPrefixed]

end Field

end ClaimLedger
