import BridgeSetup.Text.Utf8
import BridgeSetup.Zip.Entry

/-!
# Additional fields of directory entries

A directory entry ends with additional fields, each a number that tells its kind, a length
and as many bytes. Some kinds refine what the entry says: sizes that are too large for it,
the method of an encrypted member, a name or a comment in UTF-8. Times are looked at only
to see whether they are well formed, and unknown kinds are passed over.

Fields that break off end the reading without a fault, and what they said until then
counts. A field that contradicts itself or the entry makes the entry unreadable.
-/

namespace BridgeSetup.Zip

/-- What a directory entry says, with the parts of it that its additional fields refer to. -/
structure Listing where
  /-- What is said about the member; `headerStart` is an offset in the archive. -/
  entry : Entry
  /-- The number of bytes of the member's data. -/
  size : Nat
  /-- The name as it is written in the archive. -/
  rawName : Bytes
  /-- The member's comment. -/
  comment : String
  deriving DecidableEq, Repr

namespace Extra

/-- Why reading additional fields stopped early. -/
inductive Stop where
  /-- The fields break off. -/
  | brokenOff
  /-- A field is malformed. -/
  | faulty
  deriving DecidableEq, Repr

/-- Where a reader of additional fields stands. -/
structure State where
  /-- The bytes that have not been taken. -/
  rest : Bytes
  /-- The entry as far as it is known. -/
  listing : Listing
  deriving DecidableEq, Repr

/-- A step of the reader, which may stop and keeps the entry also then. -/
abbrev Reader (α : Type) := ExceptT Stop (StateM State) α

/-- Takes bytes. -/
def takeBytes (count : Nat) : Reader Bytes := fun state =>
  if state.rest.length < count then (.error .brokenOff, state)
  else (.ok (state.rest.take count), { state with rest := state.rest.drop count })

/-- Takes a number of `width` bytes. -/
def takeNumber (width : Nat) : Reader Nat := do
  return field (← takeBytes width) 0 width

/-- Passes over bytes. -/
def skip (count : Nat) : Reader Unit := do
  let _ ← takeBytes count

/-- Stops unless a condition holds. -/
def require (condition : Bool) : Reader Unit :=
  if condition then pure () else throw .faulty

/-- The entry as far as it is known. -/
def current : Reader Listing := fun state => (.ok state.listing, state)

/-- Changes what is known about the entry. -/
def update (change : Listing → Listing) : Reader Unit := fun state =>
  (.ok (), { state with listing := change state.listing })

/-- The length from which on a field holds every wide number. -/
def allWideLength : Nat := 24

/-- Takes the wide form of a number, if a field of the given length holds it, and tells how
many bytes it took. -/
def takeWide (length narrow : Nat) : Reader (Nat × Nat) := do
  if allWideLength ≤ length || narrow = wideNumber then return (← takeNumber 8, 8)
  else return (narrow, 0)

/-- Reads a field with the numbers that are too large for the entry. -/
def readWideNumbers (length : Nat) : Reader Unit := do
  let (size, first) ← takeWide length (← current).size
  update fun listing => { listing with size := size }
  let (compressedSize, second) ← takeWide length (← current).entry.compressedSize
  update fun listing => { listing with entry.compressedSize := compressedSize }
  let (headerStart, third) ← takeWide length (← current).entry.headerStart
  update fun listing => { listing with entry.headerStart := headerStart }
  let taken := first + second + third
  require (taken ≤ length)
  skip (length - taken)

/-- Reads a field with times in units of 100 nanoseconds. -/
def readFineTimes (length : Nat) : Reader Unit := do
  require (length = 32)
  skip 4
  require ((← takeNumber 2) = 1)
  require ((← takeNumber 2) = 24)
  skip 24

/-- The only maker of encryption fields. -/
def encryptionMaker : Nat := 0x4541

/-- Reads a field that tells how the member is encrypted and which method its data have. -/
def readEncryption (length : Nat) : Reader Unit := do
  require (length = 7)
  let version ← takeNumber 2
  let maker ← takeNumber 2
  let strength ← takeNumber 1
  let method ← takeNumber 2
  require (maker = encryptionMaker)
  require (version = 1 || version = 2)
  require (1 ≤ strength && strength ≤ 3)
  update fun listing => { listing with entry.wrapped := true, entry.method := method }

/-- Reads a field with times in seconds. It starts with flags that tell which of the three
times there are, but a field of five bytes has only the first. -/
def readTimes (length : Nat) : Reader Unit := do
  let flags ← takeNumber 1
  let stated := flags % 2 + flags / 2 % 2 + flags / 4
  require (flags < 8)
  require (length = 5 || length = 1 + 4 * stated)
  skip (if length = 5 then 4 else 4 * stated)

/-- Takes the rest of a field that holds a text in UTF-8 in the place of another one, whose
bytes must have the checksum that the field states. -/
def takeText (length : Nat) (replaced : Bytes) : Reader (Bytes × String) := do
  skip 1
  let checksum ← takeNumber 4
  require (5 ≤ length)
  let content ← takeBytes (length - 5)
  require ((Checksum.ofBytes replaced).toNat = checksum)
  match Utf8.decode? content with
  | some text => return (content, text)
  | none => throw .faulty

/-- Reads a field with the member's comment. -/
def readComment (length : Nat) : Reader Unit := do
  let (_, text) ← takeText length (.ofString (← current).comment)
  update fun listing => { listing with comment := text }

/-- Reads a field with the member's name. -/
def readName (length : Nat) : Reader Unit := do
  let (content, text) ← takeText length (← current).rawName
  update fun listing => { listing with rawName := content, entry.name := text }

/-- Reads the content of a field of a kind. -/
def readField (kind length : Nat) : Reader Unit :=
  match kind with
  | 0x0001 => readWideNumbers length
  | 0x000a => readFineTimes length
  | 0x9901 => readEncryption length
  | 0x5455 => readTimes length
  | 0x6375 => readComment length
  | 0x7075 => readName length
  | _ => skip length

/-- Reads fields up to the end. Every field has at least four bytes, so `fuel` can be the
number of bytes. -/
def readFields : (fuel : Nat) → Reader Unit
  | 0 => pure ()
  | fuel + 1 => do
    if (← get).rest.isEmpty then return
    else
      let kind ← takeNumber 2
      let length ← takeNumber 2
      readField kind length
      readFields fuel

end Extra

/-- The entry refined by its additional fields, unless one of them is malformed. -/
def Listing.refine? (listing : Listing) (extra : Bytes) : Option Listing :=
  match Extra.readFields extra.length ⟨extra, listing⟩ with
  | (.error .faulty, _) => none
  | (_, state) => some state.listing

end BridgeSetup.Zip
