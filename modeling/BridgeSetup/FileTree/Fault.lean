/-!
# Faults of the operating system

The reasons for which a file operation or the start of a program can fail, with their
numbers, kinds and texts, and the faults that arise while data are read.
-/

namespace BridgeSetup

/-- A reason that the operating system gives for a failure. -/
inductive Fault where
  | notPermitted
  | notFound
  | notExecutable
  | outOfMemory
  | permissionDenied
  | alreadyExists
  | notADirectory
  | isADirectory
  | fileTooLarge
  | storageFull
  | readOnlyFileSystem
  | nameTooLong
  | directoryNotEmpty
  | tooManyLinks
  deriving DecidableEq, Repr

namespace Fault

/-- Every fault. -/
def all : List Fault :=
  [notPermitted, notFound, notExecutable, outOfMemory, permissionDenied, alreadyExists,
   notADirectory, isADirectory, fileTooLarge, storageFull, readOnlyFileSystem, nameTooLong,
   directoryNotEmpty, tooManyLinks]

/-- The number of a fault. -/
def code : Fault → Nat
  | notPermitted => 1
  | notFound => 2
  | notExecutable => 8
  | outOfMemory => 12
  | permissionDenied => 13
  | alreadyExists => 17
  | notADirectory => 20
  | isADirectory => 21
  | fileTooLarge => 27
  | storageFull => 28
  | readOnlyFileSystem => 30
  | nameTooLong => 36
  | directoryNotEmpty => 39
  | tooManyLinks => 40

/-- The fault with the given number. -/
def ofCode? (code : Nat) : Option Fault :=
  all.find? (·.code = code)

/-- The class of a fault. -/
def kind : Fault → String
  | notPermitted => "PermissionDenied"
  | notFound => "NotFound"
  | notExecutable => "Uncategorized"
  | outOfMemory => "OutOfMemory"
  | permissionDenied => "PermissionDenied"
  | alreadyExists => "AlreadyExists"
  | notADirectory => "NotADirectory"
  | isADirectory => "IsADirectory"
  | fileTooLarge => "FileTooLarge"
  | storageFull => "StorageFull"
  | readOnlyFileSystem => "ReadOnlyFilesystem"
  | nameTooLong => "InvalidFilename"
  | directoryNotEmpty => "DirectoryNotEmpty"
  | tooManyLinks => "FilesystemLoop"

/-- The description of a fault. -/
def text : Fault → String
  | notPermitted => "Operation not permitted"
  | notFound => "No such file or directory"
  | notExecutable => "Exec format error"
  | outOfMemory => "Cannot allocate memory"
  | permissionDenied => "Permission denied"
  | alreadyExists => "File exists"
  | notADirectory => "Not a directory"
  | isADirectory => "Is a directory"
  | fileTooLarge => "File too large"
  | storageFull => "No space left on device"
  | readOnlyFileSystem => "Read-only file system"
  | nameTooLong => "File name too long"
  | directoryNotEmpty => "Directory not empty"
  | tooManyLinks => "Too many levels of symbolic links"

end Fault

/-- A failure of an operation on files. -/
inductive IoError where
  /-- The operating system refused. -/
  | system (fault : Fault)
  /-- A file that should be text is not UTF-8. -/
  | notUtf8
  /-- Data ended before a record was complete. -/
  | unexpectedEnd
  /-- The checksum of the decoded data is not the recorded one. -/
  | badChecksum
  /-- Compressed data violate their format. -/
  | corruptDeflate
  /-- Compressed data end too early. -/
  | incompleteDeflate
  /-- A path contains a NUL character. -/
  | nulInPath
  /-- An argument of a program contains a NUL character. -/
  | nulInArgument
  /-- No ancestor of a directory to be made exists. -/
  | noAncestor
  deriving DecidableEq, Repr

namespace IoError

/-- What is said about a failure. -/
def message : IoError → String
  | system fault =>
    let text := fault.text
    let code := fault.code
    s!"{text} (os error {code})"
  | notUtf8 => "stream did not contain valid UTF-8"
  | unexpectedEnd => "failed to fill whole buffer"
  | badChecksum => "Invalid checksum"
  | corruptDeflate => "corrupt deflate stream"
  | incompleteDeflate => "incomplete deflate stream"
  | nulInPath => "file name contained an unexpected NUL byte"
  | nulInArgument => "nul byte found in provided data"
  | noAncestor => "failed to create whole tree"

/-- The diagnostic form of a failure that consists of a kind and a fixed message. -/
def plainDiagnostic (kind : String) (error : IoError) : String :=
  "Error \x7b kind: " ++ kind ++ ", message: \"" ++ error.message ++ "\" \x7d"

/-- The diagnostic form of a failure that was raised with a message of its own. -/
def raisedDiagnostic (kind : String) (error : IoError) : String :=
  "Custom \x7b kind: " ++ kind ++ ", error: \"" ++ error.message ++ "\" \x7d"

/-- The diagnostic form of a failure. -/
def diagnostic : IoError → String
  | system fault =>
    "Os \x7b code: " ++ toString fault.code ++ ", kind: " ++ fault.kind ++ ", message: \"" ++
      fault.text ++ "\" \x7d"
  | notUtf8 => plainDiagnostic "InvalidData" notUtf8
  | unexpectedEnd => plainDiagnostic "UnexpectedEof" unexpectedEnd
  | badChecksum => raisedDiagnostic "InvalidData" badChecksum
  | corruptDeflate => raisedDiagnostic "InvalidInput" corruptDeflate
  | incompleteDeflate => raisedDiagnostic "UnexpectedEof" incompleteDeflate
  | nulInPath => plainDiagnostic "InvalidInput" nulInPath
  | nulInArgument => plainDiagnostic "InvalidInput" nulInArgument
  | noAncestor => plainDiagnostic "Uncategorized" noAncestor

end IoError

end BridgeSetup
