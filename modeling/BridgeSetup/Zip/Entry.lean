import BridgeSetup.Path.Basic
import BridgeSetup.Zip.Checksum
import BridgeSetup.Zip.Error
import BridgeSetup.Zip.Image
import BridgeSetup.Zip.Inflate

/-!
# Archive entries

What the central directory of an archive says about one member, and how the member's data
are opened and delivered. Opening checks what can be checked without decoding; delivering
decodes and yields bytes up to the end or up to the point where a fault shows.

A name is *safe* when following it never leaves the directory it starts from: it is
relative, has no NUL, and at no point has had more `..` than names before it.
-/

namespace BridgeSetup.Zip

/-- What the central directory says about a member. -/
structure Entry where
  /-- The member's name. -/
  name : String
  /-- The number of the system that wrote the entry. -/
  system : Nat
  /-- The attributes that this system recorded. -/
  attributes : Nat
  /-- Whether the member is encrypted. -/
  encrypted : Bool
  /-- Whether an additional field says how the member's data are encrypted. -/
  wrapped : Bool
  /-- The number of the compression method. -/
  method : Nat
  /-- The recorded checksum of the data. -/
  checksum : Nat
  /-- The number of bytes that the member's data take in the archive. -/
  compressedSize : Nat
  /-- Where the member's own header starts in the archive. -/
  headerStart : Nat
  deriving DecidableEq, Repr

/-- How deep below its start a path stands after the components, if it never climbed
above its start. -/
def depthAfter : Nat → List Component → Option Nat
  | depth, [] => some depth
  | _, .root :: _ => none
  | depth, .current :: rest => depthAfter depth rest
  | depth, .normal _ :: rest => depthAfter (depth + 1) rest
  | 0, .parent :: _ => none
  | depth + 1, .parent :: rest => depthAfter depth rest

/-- Whether a name never leads out of the directory it starts from. -/
def isSafeName (name : String) : Bool :=
  let path : Path := ⟨name⟩
  !path.hasNul && (depthAfter 0 path.components).isSome

namespace Entry

/-- Whether a name ends the way the names of directories do. -/
def isDirectoryName (name : String) : Bool :=
  match name.toList.getLast? with
  | some '/' | some '\\' => true
  | _ => false

/-- Whether the member is a directory. -/
def isDirectory (entry : Entry) : Bool :=
  isDirectoryName entry.name

/-- The name as a relative path, if it is safe. -/
def safePath? (entry : Entry) : Option Path :=
  if isSafeName entry.name then some ⟨entry.name⟩ else none

/-- The recorded permission bits. System 3 records them directly; system 0 records only
whether the member is a directory and whether it may be written. -/
def mode? (entry : Entry) : Option Nat :=
  if entry.attributes = 0 then none
  else
    match entry.system with
    | 3 => some (entry.attributes >>> 16)
    | 0 =>
      let mode := if entry.attributes &&& 0x10 ≠ 0 then 0o775 else 0o664
      some (if entry.attributes &&& 0x01 ≠ 0 then mode &&& 0o555 else mode)
    | _ => none

/-- The signature of a member's own header. -/
def localSignature : Nat := 0x04034b50

/-- The length of a member's own header without its variable part. -/
def localHeaderSize : Nat := 30

/-- Checks whether the member can be read, and tells where its data start. -/
def openIn (image : Image) (entry : Entry) : Except ZipError Nat :=
  if entry.encrypted then .error .encrypted
  else
    match slice? image entry.headerStart localHeaderSize with
    | none => .error (.unreadable .unexpectedEnd)
    | some header =>
      if field header 0 4 ≠ localSignature then .error .badLocalHeader
      else if entry.method ≠ 0 ∧ entry.method ≠ 8 then .error .unknownMethod
      else if entry.wrapped then .error .invalidPassword
      else .ok (entry.headerStart + localHeaderSize + field header 26 2 + field header 28 2)

end Entry

/-- What reading a member's data yields: bytes, and the fault that ended them, if any. -/
structure Delivery where
  bytes : Bytes
  fault : Option IoError
  deriving DecidableEq, Repr

/-- Bytes that were decoded completely, which is checked against the recorded checksum. -/
def Delivery.checked (checksum : Nat) (bytes : Bytes) : Delivery :=
  ⟨bytes, if (Checksum.ofBytes bytes).toNat = checksum then none else some .badChecksum⟩

/-- The data of a member whose data start at the given place. Data that the archive does
not hold are missing without a fault of its own. -/
def Entry.deliver (image : Image) (entry : Entry) (start : Nat) : Delivery :=
  let compressed := (image.extract start (start + entry.compressedSize)).toList
  if entry.method = 0 then .checked entry.checksum compressed
  else
    let inflated := Inflate.inflate compressed
    match inflated.interruption with
    | none => .checked entry.checksum inflated.output
    | some .cutShort => ⟨inflated.output, some .incompleteDeflate⟩
    | some .violated => ⟨inflated.output, some .corruptDeflate⟩

end BridgeSetup.Zip
