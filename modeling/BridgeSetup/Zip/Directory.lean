import BridgeSetup.Zip.CodePage437
import BridgeSetup.Zip.EndRecord
import BridgeSetup.Zip.Extra

/-!
# The central directory

The central directory of an archive lists the members. Bytes after the archive are passed
over by looking for the end record from the end of the file backwards, and an end record
whose directory cannot be read is passed over as well.

Of several entries with one name the last counts, in the place of the first.
-/

namespace BridgeSetup.Zip

/-- Flag bit 0: the member is encrypted. -/
def encryptedFlag : Nat := 0x1

/-- Flag bit 11: the name is UTF-8. -/
def utf8Flag : Nat := 0x800

/-- The method number of members that name their real method in an additional field. -/
def wrappedMethod : Nat := 99

/-- The text of bytes in a directory entry with the given flags. -/
def decodeText (flags : Nat) (bytes : Bytes) : String :=
  if flags &&& utf8Flag ≠ 0 then Utf8.decodeLossy bytes else CodePage437.decode bytes

/-- What a directory entry says before its additional fields, where `details` are the name,
the additional fields and the comment. -/
def listingOf (header details : Bytes) : Listing :=
  let flags := field header 8 2
  let rawName := details.take (field header 28 2)
  let comment := details.drop (field header 28 2 + field header 30 2)
  { size := field header 24 4
    rawName := rawName
    comment := decodeText flags comment
    entry := {
      name := decodeText flags rawName
      system := field header 5 1
      attributes := field header 38 4
      encrypted := flags &&& encryptedFlag ≠ 0
      wrapped := false
      method := field header 10 2
      checksum := field header 16 4
      compressedSize := field header 20 4
      headerStart := field header 42 4 } }

/-- Whether an entry with the directory at `start` makes sense: its member comes before the
directory, and its method is named. -/
def Entry.isPlausible (entry : Entry) (start : Nat) : Bool :=
  entry.headerStart < start && (entry.wrapped || entry.method ≠ wrappedMethod)

/-- Reads the entry at a place of a directory, and tells where the entry ends. -/
def readEntry (image : Image) (directory : DirectoryPlace) (place : Nat) :
    Option (Entry × Nat) := do
  let header ← slice? image place entryHeaderSize
  let nameLength := field header 28 2
  let extraLength := field header 30 2
  let variableLength := nameLength + extraLength + field header 32 2
  let details ← slice? image (place + entryHeaderSize) variableLength
  if header.take signatureSize = entrySignature then
    let listing ← (listingOf header details).refine? ((details.drop nameLength).take extraLength)
    let entry :=
      { listing.entry with headerStart := listing.entry.headerStart + directory.shift }
    if entry.isPlausible directory.start then
      some (entry, place + entryHeaderSize + variableLength)
    else none
  else none

/-- Reads `count` directory entries one after the other. -/
def readEntries (image : Image) (directory : DirectoryPlace) : (count : Nat) → (place : Nat) →
    Option (List Entry)
  | 0, _ => some []
  | count + 1, place => do
    let (entry, next) ← readEntry image directory place
    let others ← readEntries image directory count next
    return entry :: others

/-- The entries with one more taken in: it replaces an entry of its name. -/
def takeIn (entries : List Entry) (entry : Entry) : List Entry :=
  if entries.any (·.name = entry.name) then
    entries.map fun known => if known.name = entry.name then entry else known
  else entries ++ [entry]

/-- Reads a directory; its members have different names. -/
def readDirectory (image : Image) (directory : DirectoryPlace) : Option (List Entry) :=
  if directory.isReadable then
    (readEntries image directory directory.count directory.start).map (·.foldl takeIn [])
  else none

/-- The directory of the last usable end record before `limit`. When there is none, the
fault is that of the last end record examined that had one of its own; `fuel` bounds the
number of end records. -/
def findDirectory (image : Image) : (fuel limit : Nat) → (fault : Option ZipError) →
    Except ZipError (List Entry)
  | 0, _, fault => .error (fault.getD .noEndRecord)
  | fuel + 1, limit, fault =>
    match placeBefore image endSignature limit with
    | none => .error (fault.getD .noEndRecord)
    | some position =>
      match readEndRecord image position with
      | .error error => findDirectory image fuel position (some (fault.getD error))
      | .ok record =>
        match findDirectoryPlace image record with
        | .error error => findDirectory image fuel position (some error)
        | .ok directory =>
          match readDirectory image directory with
          | some entries => .ok entries
          | none => findDirectory image fuel position none

/-- The members that an archive lists. -/
def entriesOf (image : Image) : Except ZipError (List Entry) :=
  findDirectory image (image.size + 1) image.size none

end BridgeSetup.Zip
