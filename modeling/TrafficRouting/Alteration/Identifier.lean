/-!
# TrafficRouting.Alteration.Identifier — names for alterations

An alteration is named by sixteen random bytes, written as groups of hexadecimal digits. Six of the
bits say that they are random.
-/

namespace TrafficRouting

/-- Two hexadecimal digits. -/
def hexByte (b : UInt8) : List Char :=
  [Nat.digitChar (b.toNat / 16), Nat.digitChar (b.toNat % 16)]

/-- Marks sixteen bytes as random ones: the seventh starts with `0100`, the ninth with `10`. -/
def markRandom (bytes : List UInt8) : List UInt8 :=
  (bytes.modify 6 fun b => b % 16 + 0x40).modify 8 fun b => b % 64 + 0x80

/-- Groups of so many bytes each, with dashes between them. -/
def dashed : List Nat → List UInt8 → List Char
  | [], _ => []
  | [n], bytes => (bytes.take n).flatMap hexByte
  | n :: rest, bytes => (bytes.take n).flatMap hexByte ++ '-' :: dashed rest (bytes.drop n)

/-- The identifier of sixteen random bytes. -/
def identifier (bytes : List UInt8) : String :=
  .ofList (dashed [4, 2, 2, 2, 6] (markRandom bytes))

end TrafficRouting
