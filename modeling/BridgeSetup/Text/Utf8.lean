import BridgeSetup.Text.Bytes

/-!
# Reading UTF-8

A decoder walks over the bytes with a small state: either it stands between two
characters, or it has read the first bytes of a character and knows how many more it
needs and which values the next one may take. The permitted second bytes exclude
overlong forms, surrogates and values above `U+10FFFF`, so every completed character is
a scalar value.

A byte that cannot continue the character being read ends a *broken part*: the bytes of
the unfinished character are given up together, and the offending byte is looked at
again from the start. `decode` reports each broken part as `none`; `decodeLossy` shows it
as `U+FFFD`, and `decode?` accepts only bytes without broken parts.
-/

namespace BridgeSetup.Utf8

/-- A character of which the first bytes have been read. -/
structure Partial where
  /-- The bits collected so far. -/
  value : Nat
  /-- The least permitted next byte. -/
  lowest : Nat
  /-- The greatest permitted next byte. -/
  highest : Nat
  /-- How many bytes follow the next one. -/
  pending : Nat
  deriving DecidableEq, Repr

/-- What a single byte does to the decoder. -/
inductive Step where
  /-- It completes a character. -/
  | complete (c : Char)
  /-- It is a proper part of a character. -/
  | more (state : Partial)
  /-- It fits nowhere. -/
  | broken
  deriving Repr

/-- The effect of a byte read between two characters. -/
def start (byte : UInt8) : Step :=
  let b := byte.toNat
  if b < 0x80 then .complete (Char.ofNat b)
  else if 0xC2 ≤ b ∧ b ≤ 0xDF then .more ⟨b - 0xC0, 0x80, 0xBF, 0⟩
  else if b = 0xE0 then .more ⟨0, 0xA0, 0xBF, 1⟩
  else if b = 0xED then .more ⟨0xD, 0x80, 0x9F, 1⟩
  else if 0xE1 ≤ b ∧ b ≤ 0xEF then .more ⟨b - 0xE0, 0x80, 0xBF, 1⟩
  else if b = 0xF0 then .more ⟨0, 0x90, 0xBF, 2⟩
  else if 0xF1 ≤ b ∧ b ≤ 0xF3 then .more ⟨b - 0xF0, 0x80, 0xBF, 2⟩
  else if b = 0xF4 then .more ⟨4, 0x80, 0x8F, 2⟩
  else .broken

/-- The effect of a byte read inside a character. -/
def Partial.next (state : Partial) (byte : UInt8) : Step :=
  let b := byte.toNat
  if state.lowest ≤ b ∧ b ≤ state.highest then
    let value := state.value * 64 + (b - 0x80)
    match state.pending with
    | 0 => .complete (Char.ofNat value)
    | pending + 1 => .more ⟨value, 0x80, 0xBF, pending⟩
  else
    .broken

/-- The characters of the remaining bytes, where `state` is the unfinished character. -/
def decodeFrom : Option Partial → Bytes → List (Option Char)
  | none, [] => []
  | some _, [] => [none]
  | none, byte :: rest =>
    match start byte with
    | .complete c => some c :: decodeFrom none rest
    | .more state => decodeFrom (some state) rest
    | .broken => none :: decodeFrom none rest
  | some state, byte :: rest =>
    match state.next byte with
    | .complete c => some c :: decodeFrom none rest
    | .more state => decodeFrom (some state) rest
    | .broken =>
      none :: match start byte with
        | .complete c => some c :: decodeFrom none rest
        | .more state => decodeFrom (some state) rest
        | .broken => none :: decodeFrom none rest

/-- The characters of a byte sequence, with `none` for each broken part. -/
def decode (bytes : Bytes) : List (Option Char) :=
  decodeFrom none bytes

/-- The character that stands for a broken part. -/
def replacement : Char := '\uFFFD'

/-- The text of a byte sequence, with `U+FFFD` for each broken part. -/
def decodeLossy (bytes : Bytes) : String :=
  String.ofList ((decode bytes).map (·.getD replacement))

/-- The text of a byte sequence without broken parts. -/
def decode? (bytes : Bytes) : Option String :=
  ((decode bytes).mapM id).map String.ofList

end BridgeSetup.Utf8
