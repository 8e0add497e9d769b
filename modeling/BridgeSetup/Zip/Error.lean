import BridgeSetup.FileTree.Fault

/-!
# Failures of archives

Why an archive, or one of its members, cannot be opened.
-/

namespace BridgeSetup

/-- A reason for which an archive or a member cannot be opened. -/
inductive ZipError where
  /-- The archive violates the format. -/
  | invalid (detail : String)
  /-- The archive uses a feature that is not supported. -/
  | unsupported (detail : String)
  /-- No member has the requested name. -/
  | memberNotFound
  /-- The member cannot be decrypted with the given password. -/
  | invalidPassword
  /-- The archive cannot be read. -/
  | unreadable (error : IoError)
  deriving DecidableEq, Repr

namespace ZipError

/-! ## The end of the archive -/

/-- No usable record marks the end of the archive. -/
def noEndRecord : ZipError := .invalid "Could not find EOCD"

/-- The comment of the end record runs past the end of the file. -/
def commentTooLong : ZipError := .invalid "EOCD comment exceeds file boundary"

/-- The end record points behind itself. -/
def directoryBehindEnd : ZipError := .invalid "Invalid CDFH offset in EOCD"

/-- No directory entry lies where the end record points to. -/
def noDirectoryEntry : ZipError := .invalid "No CDFH found"

/-! ## The wide end record -/

/-- The locator points behind itself. -/
def wideRecordBehindLocator : ZipError := .invalid "Invalid EOCD64 Locator CD offset"

/-- The archive is spread over several parts. -/
def severalDisks : ZipError := .invalid "Multi-disk ZIP files are not supported"

/-- No wide end record lies where the locator points to. -/
def noWideRecord : ZipError := .invalid "Could not find EOCD64"

/-- The wide end record states a length that is too small for it. -/
def wideRecordTooShort : ZipError := .invalid "Low EOCD64 record size"

/-- The wide end record runs into the locator. -/
def wideRecordTooLong : ZipError := .invalid "EOCD64 extends beyond EOCD64 locator"

/-- The wide end record and the locator name different parts of the archive. -/
def otherDisk : ZipError := .invalid "Invalid EOCD64: inconsistency with Locator data"

/-- There are bytes between the wide end record and the locator. -/
def gapBeforeLocator : ZipError := .invalid "Invalid EOCD64: inconsistent length"

/-- The directory entries do not fit before the wide end record. -/
def tooManyEntries : ZipError := .invalid "Invalid EOCD64: inconsistent number of files"

/-! ## Members -/

/-- The data of a member do not start with the header they should start with. -/
def badLocalHeader : ZipError := .invalid "Invalid local file header"

/-- A member's name would lead out of the directory it is extracted into. -/
def unsafeName : ZipError := .invalid "unsafe member path"

/-- A member is compressed in an unknown way. -/
def unknownMethod : ZipError := .unsupported "Compression method not supported"

/-- A member is encrypted. -/
def encrypted : ZipError := .unsupported "Password required to decrypt file"

/-- What is said about a failure. -/
def message : ZipError → String
  | invalid detail => "invalid Zip archive: " ++ detail
  | unsupported detail => "unsupported Zip archive: " ++ detail
  | memberNotFound => "specified file not found in archive"
  | invalidPassword => "provided password is incorrect"
  | unreadable _ => "i/o error"

end ZipError

end BridgeSetup
