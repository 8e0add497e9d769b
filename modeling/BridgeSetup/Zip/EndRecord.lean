import BridgeSetup.Zip.Error
import BridgeSetup.Zip.Image

/-!
# The end of an archive

An archive ends with a record that tells where its central directory is. Bytes may stand
before the archive, in which case the offsets may be counted with or without them: the
first directory entry at or after the stated offset settles where the archive begins.

Numbers that are too large for the end record are written in a wide end record, which a
locator right before the end record points to. There the place of the wide record, found at
or after the stated one, settles where the archive begins.
-/

namespace BridgeSetup.Zip

/-- The signature of the end record. -/
def endSignature : Bytes := [0x50, 0x4b, 0x05, 0x06]

/-- The signature of a directory entry. -/
def entrySignature : Bytes := [0x50, 0x4b, 0x01, 0x02]

/-- The signature of the locator of the wide end record. -/
def locatorSignature : Bytes := [0x50, 0x4b, 0x06, 0x07]

/-- The signature of the wide end record. -/
def wideSignature : Bytes := [0x50, 0x4b, 0x06, 0x06]

/-- The length of the end record without its comment. -/
def endRecordSize : Nat := 22

/-- The length of a directory entry without its variable part. -/
def entryHeaderSize : Nat := 46

/-- The length of the locator. -/
def locatorSize : Nat := 20

/-- The length of the wide end record without its variable part. -/
def wideRecordSize : Nat := 56

/-- How many bytes of the wide end record the length that it states does not count. -/
def uncountedSize : Nat := 12

/-- What an end record says. -/
structure EndRecord where
  /-- Where the record stands. -/
  position : Nat
  /-- The number of the part of the archive that holds the record. -/
  disk : Nat
  /-- The number of the part of the archive that holds the directory. -/
  directoryDisk : Nat
  /-- The number of directory entries in this part of the archive. -/
  countHere : Nat
  /-- The number of directory entries. -/
  count : Nat
  /-- The offset of the directory. -/
  offset : Nat
  deriving DecidableEq, Repr

/-- Reads the end record at a place. -/
def readEndRecord (image : Image) (position : Nat) : Except ZipError EndRecord :=
  match slice? image position endRecordSize with
  | none => .error (.unreadable .unexpectedEnd)
  | some record =>
    if image.size < position + endRecordSize + field record 20 2 then .error .commentTooLong
    else
      .ok {
        position := position
        disk := field record 4 2
        directoryDisk := field record 6 2
        countHere := field record 8 2
        count := field record 10 2
        offset := field record 16 4 }

/-- Where the central directory is and how it is to be read. -/
structure DirectoryPlace where
  /-- The number of bytes before the archive that its offsets do not count. -/
  shift : Nat
  /-- Where the directory starts. -/
  start : Nat
  /-- The number of directory entries. -/
  count : Nat
  /-- Whether the directory is whole and of a kind that can be read. -/
  isReadable : Bool
  deriving DecidableEq, Repr

/-- The directory that an end record describes without the help of a wide one. -/
def EndRecord.directoryPlace (image : Image) (record : EndRecord) :
    Except ZipError DirectoryPlace :=
  let placeAt (shift : Nat) : DirectoryPlace := {
    shift := shift
    start := shift + record.offset
    count := record.countHere
    isReadable := record.disk = record.directoryDisk }
  if record.count = 0 then .ok (placeAt (record.position - record.offset))
  else if record.position ≤ record.offset then .error .directoryBehindEnd
  else
    match placesBetween image entrySignature record.offset record.position with
    | start :: _ => .ok (placeAt (start - record.offset))
    | [] => .error .noDirectoryEntry

/-! ## The wide end record -/

/-- What the locator of the wide end record says. -/
structure Locator where
  /-- Where the locator stands. -/
  position : Nat
  /-- The number of the part of the archive that holds the wide end record. -/
  disk : Nat
  /-- The offset of the wide end record. -/
  offset : Nat
  /-- The number of parts of the archive. -/
  disks : Nat
  deriving DecidableEq, Repr

/-- The locator before an end record that says that it needs one. -/
def EndRecord.locator? (image : Image) (record : EndRecord) : Option Locator :=
  let position := record.position - locatorSize
  let isNeeded := record.count = wideCount ∨ record.offset = wideNumber
  if isNeeded ∧ locatorSize ≤ record.position ∧ signedAt image locatorSignature position then
    (slice? image position locatorSize).map fun locator => {
      position := position
      disk := field locator 4 4
      offset := field locator 8 8
      disks := field locator 16 4 }
  else none

/-- The directory that the wide end record at a place describes. -/
def Locator.readWideRecord (image : Image) (locator : Locator) (place : Nat) :
    Except ZipError DirectoryPlace :=
  match slice? image place wideRecordSize with
  | none => .error (.unreadable .unexpectedEnd)
  | some record =>
    let length := field record 4 8 + uncountedSize
    let directoryDisk := field record 20 4
    let countHere := field record 24 8
    let count := field record 32 8
    let offset := field record 48 8
    if length < wideRecordSize then .error .wideRecordTooShort
    else if locator.position < place + length then .error .wideRecordTooLong
    else if directoryDisk ≠ locator.disk then .error .otherDisk
    else if place + length ≠ locator.position then .error .gapBeforeLocator
    else if place < count * entryHeaderSize + offset then .error .tooManyEntries
    else
      .ok {
        shift := place - locator.offset
        start := place - locator.offset + offset
        count := count
        isReadable := field record 16 4 = directoryDisk ∧ countHere ≤ count ∧
          field record 14 2 ≤ field record 12 2 }

/-- The first success of an attempt at several places; when there is none, the last failure,
or `fault` when there are no places. -/
def firstSuccess (attempt : Nat → Except ZipError DirectoryPlace) (fault : ZipError) :
    List Nat → Except ZipError DirectoryPlace
  | [] => .error fault
  | place :: rest =>
    match attempt place with
    | .ok found => .ok found
    | .error error => firstSuccess attempt error rest

/-- The directory that the wide end record of a locator describes. -/
def Locator.directoryPlace (image : Image) (locator : Locator) :
    Except ZipError DirectoryPlace :=
  if locator.position ≤ locator.offset then .error .wideRecordBehindLocator
  else if 1 < locator.disks then .error .severalDisks
  else
    firstSuccess (locator.readWideRecord image) .noWideRecord
      (placesBetween image wideSignature locator.offset locator.position)

/-- Finds the directory of an end record. -/
def findDirectoryPlace (image : Image) (record : EndRecord) : Except ZipError DirectoryPlace :=
  match record.locator? image with
  | some locator => locator.directoryPlace image
  | none => record.directoryPlace image

end BridgeSetup.Zip
