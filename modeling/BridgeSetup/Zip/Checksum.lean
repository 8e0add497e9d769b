import BridgeSetup.Text.Bytes

/-!
# The checksum of members

The cyclic redundancy check with the reversed polynomial `0xEDB88320`, computed bit by
bit from the least significant end.
-/

namespace BridgeSetup.Checksum

/-- The remainder after one more bit. -/
def shiftBit (remainder : UInt32) : UInt32 :=
  if remainder &&& 1 = 1 then (remainder >>> 1) ^^^ 0xEDB88320 else remainder >>> 1

/-- The remainder after `bits` more bits. -/
def shiftBits : (bits : Nat) → UInt32 → UInt32
  | 0, remainder => remainder
  | bits + 1, remainder => shiftBits bits (shiftBit remainder)

/-- The remainder after one more byte. -/
def addByte (remainder : UInt32) (byte : UInt8) : UInt32 :=
  shiftBits 8 (remainder ^^^ byte.toUInt32)

/-- The checksum of a byte sequence. -/
def ofBytes (bytes : Bytes) : UInt32 :=
  bytes.foldl addByte 0xFFFFFFFF ^^^ 0xFFFFFFFF

end BridgeSetup.Checksum
