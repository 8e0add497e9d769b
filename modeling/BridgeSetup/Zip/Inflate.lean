import BridgeSetup.Text.Bytes

/-!
# Inflating compressed data

A deflated stream is a sequence of blocks, each stored as it is or written with two prefix
codes, one for literals and lengths and one for distances, which are fixed or described at
the start of the block. Bits are taken from the least significant end of each byte.

Output goes through a window of fixed size, which holds zeros at first, so a copy may reach
back past the first byte. Whoever takes the output does so in readings: a reading works on
the stream until the window is full or the chunk of the stream at hand is used up, and then
receives what was produced, in several portions if it is much.

The reader tells whether the stream was complete, violated the format or was cut short. The
output of finished readings has been handed over, that of the reading in which a violation
shows is lost.
-/

namespace BridgeSetup.Inflate

/-- Why reading stopped before the end of the last block. -/
inductive Interruption where
  /-- The stream violates the format. -/
  | violated
  /-- The stream ends inside a block. -/
  | cutShort
  deriving DecidableEq, Repr

/-- How many bytes of the stream are at hand together. -/
def chunkSize : Nat := 8192

/-- How many bytes a reading asks for. -/
def readingSize : Nat := 8192

/-- How many bytes of output the window holds. -/
def windowSize : Nat := 32768

/-- Where a reader stands: bits taken from a byte but not used, the bytes not yet taken,
and the output. -/
structure State where
  /-- The unused bits of the bytes taken so far. -/
  held : Nat
  /-- How many unused bits there are. -/
  heldCount : Nat
  /-- The bytes that have not been taken. -/
  rest : Bytes
  /-- How many bytes of the current chunk have not been taken. -/
  chunkLeft : Nat
  /-- What has been produced. -/
  output : Array UInt8
  /-- How many bytes can be produced until the window is full. -/
  room : Nat
  /-- How many bytes the readings before the current one received. -/
  handedOver : Nat

namespace State

/-- The state in which nothing of a stream has been taken. -/
def start (stream : Bytes) : State :=
  { held := 0, heldCount := 0, rest := stream, chunkLeft := chunkSize,
    output := #[], room := windowSize, handedOver := 0 }

/-- Goes on at the start of the window. -/
def wrap (state : State) : State :=
  { state with room := windowSize - state.output.size % windowSize }

/-- Hands over what has been produced and begins a reading, with a new chunk if the last one
is used up. -/
def beginReading (state : State) : State :=
  { state.wrap with
    chunkLeft := if state.chunkLeft = 0 then chunkSize else state.chunkLeft
    handedOver := state.output.size }

/-- Whether a reading that has filled the window goes on, because it has received less than
it asked for and the chunk is not used up. -/
def asksForMore (state : State) : Bool :=
  state.chunkLeft ≠ 0 && state.output.size < state.handedOver + readingSize

/-- The state with room for output. -/
def withRoom (state : State) : State :=
  if state.room ≠ 0 then state
  else if state.asksForMore then state.wrap
  else state.beginReading

/-- The state with bytes at hand, unless the stream has ended. -/
def withChunk (state : State) : State :=
  if state.chunkLeft = 0 then state.beginReading else state

/-- The state after the byte before `rest` has been taken. -/
def advance (state : State) (rest : Bytes) : State :=
  let state := state.withChunk
  { state with rest := rest, chunkLeft := state.chunkLeft - 1 }

/-- The state with one more byte of output. -/
def put (state : State) (byte : UInt8) : State :=
  let state := state.withRoom
  { state with output := state.output.push byte, room := state.room - 1 }

/-- The byte that stands `distance` bytes before the end of the output. Zeros stand before
its first byte. -/
def outputBefore (state : State) (distance : Nat) : UInt8 :=
  if state.output.size < distance then 0
  else state.output.getD (state.output.size - distance) 0

/-- The state with `count` bytes repeated from `distance` bytes before the end of the
output. -/
def repeated (distance : Nat) : (count : Nat) → State → State
  | 0, state => state
  | count + 1, state => repeated distance count (state.put (state.outputBefore distance))

end State

/-- A step of the reader, which may be interrupted and keeps the output also then. -/
abbrev Reader (α : Type) := ExceptT Interruption (StateM State) α

/-- Takes one bit. -/
def takeBit : Reader Nat := fun state =>
  match state.heldCount, state.rest with
  | 0, [] => (.error .cutShort, state)
  | 0, byte :: rest =>
    (.ok (byte.toNat % 2), { state.advance rest with held := byte.toNat / 2, heldCount := 7 })
  | count + 1, _ =>
    (.ok (state.held % 2), { state with held := state.held / 2, heldCount := count })

/-- Takes a number written with the given count of bits, lowest bit first. -/
def takeBits : Nat → Reader Nat
  | 0 => pure 0
  | count + 1 => do
    let low ← takeBit
    let high ← takeBits count
    return low + 2 * high

/-- Gives up the unused bits of the last byte taken. -/
def dropToByte : Reader Unit := fun state =>
  (.ok (), { state with held := 0, heldCount := 0 })

/-- Takes one byte at a byte boundary. -/
def takeByte : Reader UInt8 := fun state =>
  match state.rest with
  | [] => (.error .cutShort, state)
  | byte :: rest => (.ok byte, state.advance rest)

/-- Adds a byte to the output. -/
def emit (byte : UInt8) : Reader Unit := fun state =>
  (.ok (), state.put byte)

/-- Repeats bytes of the output. -/
def copyBack (distance count : Nat) : Reader Unit := fun state =>
  (.ok (), state.repeated distance count)

/-- Provides room for a byte before it is taken from the stream. -/
def makeRoom : Reader Unit := fun state =>
  (.ok (), state.withRoom)

/-! ## Canonical codes -/

/-- A canonical code. -/
structure Code where
  /-- How many symbols have a code word of each length. -/
  counts : Array Nat
  /-- The symbols in the order of their code words. -/
  symbols : Array Nat
  /-- The length of the longest code word. -/
  longest : Nat

/-- The greatest length of a code word. -/
def maxCodeLength : Nat := 15

/-- The symbols whose code words have a length, given the lengths of all symbols. -/
def symbolsOfLength (lengths : List Nat) (length : Nat) : List Nat :=
  (lengths.zipIdx.filter (·.1 = length)).map (·.2)

/-- The canonical code with the given lengths; length zero means that a symbol is unused. -/
def Code.ofLengths (lengths : List Nat) : Code :=
  let groups := (List.range (maxCodeLength + 1)).map (symbolsOfLength lengths)
  { counts := ((groups.map List.length).toArray.setIfInBounds 0 0)
    symbols := (groups.drop 1).flatten.toArray
    longest := lengths.foldl max 0 }

/-- Whether the code words use up every bit sequence. -/
def Code.isComplete (code : Code) : Bool :=
  (List.range (maxCodeLength + 1)).foldl
    (fun total length => total + code.counts.getD length 0 <<< (maxCodeLength - length)) 0
    = 1 <<< maxCodeLength

/-- Whether a code has no symbols. -/
def Code.isEmpty (code : Code) : Bool :=
  code.symbols.isEmpty

/-- Whether a code has one symbol, with a code word of one bit. -/
def Code.isSingle (code : Code) : Bool :=
  code.symbols.size = 1 && code.longest = 1

/-- Whether a block may be written with a code: only a code with at most one symbol may
leave bit sequences unused. -/
def Code.isUsable (code : Code) : Bool :=
  code.isComplete || code.isEmpty || code.isSingle

/-- Takes one symbol, where `word` is the part of the code word read so far, `first` the
first code word of the current length and `index` the number of shorter code words. -/
def takeSymbolFrom (code : Code) : (remaining length word first index : Nat) → Reader Nat
  | 0, _, _, _, _ => throw .violated
  | remaining + 1, length, word, first, index => do
    let word := word + (← takeBit)
    let count := code.counts.getD length 0
    if word < first + count then
      match code.symbols[index + (word - first)]? with
      | some symbol => return symbol
      | none => throw .violated
    else
      takeSymbolFrom code remaining (length + 1) (2 * word) (2 * (first + count)) (index + count)

/-- Takes one symbol of a code. No more bits are taken than the longest code word has, but
at least one. -/
def takeSymbol (code : Code) : Reader Nat :=
  takeSymbolFrom code (max 1 code.longest) 1 0 0 0

/-! ## Blocks -/

/-- The symbol that ends a block. -/
def endSymbol : Nat := 256

/-- The shortest copy of each length symbol and the number of bits added to it. -/
def lengthTable : Array (Nat × Nat) :=
  #[(3, 0), (4, 0), (5, 0), (6, 0), (7, 0), (8, 0), (9, 0), (10, 0), (11, 1), (13, 1), (15, 1),
    (17, 1), (19, 2), (23, 2), (27, 2), (31, 2), (35, 3), (43, 3), (51, 3), (59, 3), (67, 4),
    (83, 4), (99, 4), (115, 4), (131, 5), (163, 5), (195, 5), (227, 5), (258, 0)]

/-- The least distance of each distance symbol and the number of bits added to it. -/
def distanceTable : Array (Nat × Nat) :=
  #[(1, 0), (2, 0), (3, 0), (4, 0), (5, 1), (7, 1), (9, 2), (13, 2), (17, 3), (25, 3), (33, 4),
    (49, 4), (65, 5), (97, 5), (129, 6), (193, 6), (257, 7), (385, 7), (513, 8), (769, 8),
    (1025, 9), (1537, 9), (2049, 10), (3073, 10), (4097, 11), (6145, 11), (8193, 12),
    (12289, 12), (16385, 13), (24577, 13)]

/-- Takes a value that a table writes as a base and additional bits. -/
def takeTabled (table : Array (Nat × Nat)) (symbol : Nat) : Reader Nat :=
  match table[symbol]? with
  | some (base, extra) => return base + (← takeBits extra)
  | none => throw .violated

/-- Reads a block up to its end symbol. Every symbol takes at least one bit, so `fuel` can
be the number of bits of the stream. -/
def readCoded (literals distances : Code) : (fuel : Nat) → Reader Unit
  | 0 => throw .cutShort
  | fuel + 1 => do
    let symbol ← takeSymbol literals
    if symbol < endSymbol then
      emit symbol.toUInt8
      readCoded literals distances fuel
    else if symbol = endSymbol then return
    else
      let count ← takeTabled lengthTable (symbol - (endSymbol + 1))
      let distanceSymbol ← takeSymbol distances
      let distance ← takeTabled distanceTable distanceSymbol
      copyBack distance count
      readCoded literals distances fuel

/-- Copies bytes of a stored block to the output. -/
def readStoredBytes : Nat → Reader Unit
  | 0 => pure ()
  | count + 1 => do
    makeRoom
    emit (← takeByte)
    readStoredBytes count

/-- Reads a stored block. -/
def readStored : Reader Unit := do
  dropToByte
  let length ← takeBits 16
  let complement ← takeBits 16
  if length + complement = 0xFFFF then readStoredBytes length else throw .violated

/-- The lengths of the fixed code for literals and lengths. -/
def fixedLiteralLengths : List Nat :=
  List.replicate 144 8 ++ List.replicate 112 9 ++ List.replicate 24 7 ++ List.replicate 8 8

/-- The lengths of the fixed code for distances. -/
def fixedDistanceLengths : List Nat :=
  List.replicate 32 5

/-- The order in which a block lists the lengths of the code for its code lengths. -/
def lengthOrder : List Nat :=
  [16, 17, 18, 0, 8, 7, 9, 6, 10, 5, 11, 4, 12, 3, 13, 2, 14, 1, 15]

/-- Takes the lengths of the code for code lengths, in the order of `lengthOrder`. -/
def takeShortLengths : Nat → Reader (List Nat)
  | 0 => return []
  | count + 1 => do
    let length ← takeBits 3
    let others ← takeShortLengths count
    return length :: others

/-- The length that a list in the order of `lengthOrder` gives to a symbol. -/
def shortLengthOf (listed : List Nat) (symbol : Nat) : Nat :=
  ((lengthOrder.zip listed).lookup symbol).getD 0

/-- The code lengths known after a symbol of their code, where `known` holds the lengths
taken so far, last first. Symbols from 16 upwards repeat a length. -/
def takeRepeats (known : List Nat) (symbol : Nat) : Reader (List Nat) := do
  if symbol < 16 then return symbol :: known
  else if symbol = 16 then
    match known with
    | [] => throw .violated
    | last :: _ =>
      let count ← takeBits 2
      return List.replicate (3 + count) last ++ known
  else if symbol = 17 then
    let count ← takeBits 3
    return List.replicate (3 + count) 0 ++ known
  else
    let count ← takeBits 7
    return List.replicate (11 + count) 0 ++ known

/-- Takes `total` code lengths, where `known` holds those taken so far, last first. Every
symbol adds a length, so `fuel` can be one more than `total`. -/
def takeLengths (code : Code) (total : Nat) : (fuel : Nat) → (known : List Nat) →
    Reader (List Nat)
  | 0, _ => throw .violated
  | fuel + 1, known => do
    if total < known.length then throw .violated
    else if known.length = total then return known.reverse
    else takeLengths code total fuel (← takeRepeats known (← takeSymbol code))

/-- Takes the description of a block's codes. The code for code lengths must be complete,
and the code for literals and lengths may do without an end symbol. -/
def takeCodes : Reader (Code × Code) := do
  let literalCount := 257 + (← takeBits 5)
  let distanceCount := 1 + (← takeBits 5)
  let listedCount := 4 + (← takeBits 4)
  if 286 < literalCount || 30 < distanceCount then throw .violated
  let listed ← takeShortLengths listedCount
  let lengthCode := Code.ofLengths ((List.range 19).map (shortLengthOf listed))
  if !lengthCode.isComplete then throw .violated
  let total := literalCount + distanceCount
  let lengths ← takeLengths lengthCode total (total + 1) []
  let literals := Code.ofLengths (lengths.take literalCount)
  let distances := Code.ofLengths (lengths.drop literalCount)
  if literals.isUsable && distances.isUsable then return (literals, distances)
  else throw .violated

/-- Reads one block, and tells whether it was the last. -/
def readBlock (fuel : Nat) : Reader Bool := do
  let last ← takeBit
  match ← takeBits 2 with
  | 0 => readStored
  | 1 =>
    readCoded (Code.ofLengths fixedLiteralLengths) (Code.ofLengths fixedDistanceLengths) fuel
  | 2 =>
    let (literals, distances) ← takeCodes
    readCoded literals distances fuel
  | _ => throw .violated
  return last = 1

/-- Reads blocks up to the last one. Every block takes at least three bits, so `fuel` can
be the number of bits of the stream. -/
def readBlocks (symbolFuel : Nat) : (fuel : Nat) → Reader Unit
  | 0 => throw .cutShort
  | fuel + 1 => do
    if ← readBlock symbolFuel then return
    else readBlocks symbolFuel fuel

/-- What became of a stream: the output, and why reading stopped early if it did. -/
structure Inflated where
  output : Bytes
  interruption : Option Interruption

/-- Inflates a stream; what follows its last block is not looked at. -/
def inflate (stream : Bytes) : Inflated :=
  let fuel := 8 * stream.length + 1
  match readBlocks fuel fuel (.start stream) with
  | (.ok (), state) => ⟨state.output.toList, none⟩
  | (.error .cutShort, state) => ⟨state.output.toList, some .cutShort⟩
  | (.error .violated, state) =>
    ⟨(state.output.extract 0 state.handedOver).toList, some .violated⟩

end BridgeSetup.Inflate
