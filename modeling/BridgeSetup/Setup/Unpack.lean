import BridgeSetup.Distribution.InstallPaths
import BridgeSetup.Run.Session
import BridgeSetup.Setup.Error
import BridgeSetup.Zip.Directory

/-!
# Locating and unpacking the binary distribution

The binary distribution is an archive in the library directory of a Java module. The
module is either a directory or an archive itself; from an archive the distribution is
first extracted into the library directory of the installation.

Unpacking handles the members of the distribution in order. A member with an unsafe name
is skipped with a warning; a directory is made; a file is written under its name below the
destination, with the directories on the way, and gets the recorded permission bits. The
marker that shows that a distribution has been unpacked is not written here but by the
installer, so that an interrupted run unpacks again.

The archive stays open while its members are written: a member that happens to be written
over the archive itself is read from what is there by then.
-/

namespace BridgeSetup.Unpack

/-- Whether the binary distribution still has to be unpacked. -/
def isNeeded (env : Environment) (tree : FileTree) (marker : Path) (force : Bool) : Bool :=
  force || !tree.pathExists env.workingDirectory marker

/-- Where the archive of a distribution is, or will be once it has been extracted. -/
def expectedArchive (env : Environment) (tree : FileTree) (javaModule : Path)
    (distribution : Distribution) (directory : Path) : Path :=
  let base := if tree.isFile env.workingDirectory javaModule then directory else javaModule
  (base.child Distribution.libraryDirectory).child distribution.archiveName

/-- An archive that is open for reading: where it is, and what it lists. -/
structure OpenArchive where
  location : Location
  entries : List Zip.Entry

/-- Opens an archive; `wrap` describes an archive that is none. -/
def openArchive (env : Environment) (wrap : ZipError → SetupError) (archive : Path) :
    Task SetupError OpenArchive := do
  let location ← Task.ofExcept ((← Task.look
    (·.openForReading env.workingDirectory archive env.refusals)).mapError .io)
  let bytes ← Task.ofExcept
    ((← Task.look (·.readAt location)).mapError fun error => wrap (.unreadable error))
  let entries ← Task.ofExcept ((Zip.entriesOf bytes.toArray).mapError wrap)
  return ⟨location, entries⟩

/-- What the archive at a location holds at the moment. -/
def imageAt (tree : FileTree) (location : Location) : Zip.Image :=
  ((tree.contentsAt? location).getD []).toArray

/-- Makes a directory for each missing ancestor of a path. -/
def makeRoom (env : Environment) (path : Path) : TreeAction Unit :=
  match path.parent with
  | some directory => FileTree.makeDirectories env.workingDirectory directory env.refusals
  | none => pure ()

/-- Writes a member's data, which start at the given place of the archive, to a path. What
was decoded before a fault is kept, as far as there is space for it. -/
def writeMember (env : Environment) (archive : Location) (entry : Zip.Entry) (start : Nat)
    (path : Path) : TreeAction Unit := do
  makeRoom env path
  let location ← FileTree.openForWriting env.workingDirectory path env.refusals
  let delivery ← TreeAction.look fun tree =>
    .ok (entry.deliver (imageAt tree archive) start)
  FileTree.fillAt location delivery.bytes env.refusals
  match delivery.fault with
  | some error => throw error
  | none => pure ()

/-- The bits that permissions consist of. -/
def permissionMask : Nat := 0o7777

/-- Handles one member, and tells whether a file was written. -/
def unpackEntry (env : Environment) (wrap : ZipError → SetupError) (archive : Location)
    (destination : Path) (entry : Zip.Entry) : Task SetupError Bool := do
  let start ← Task.ofExcept
    ((← Task.look fun tree => entry.openIn (imageAt tree archive)).mapError wrap)
  match entry.safePath? with
  | none =>
    Task.say env .warning ("skipping unsafe archive entry '" ++ entry.name ++ "'")
    return false
  | some relative =>
    let path := destination.join relative
    if entry.isDirectory then
      Task.onFiles .io (FileTree.makeDirectories env.workingDirectory path env.refusals)
      return false
    else
      Task.onFiles .io (writeMember env archive entry start path)
      match entry.mode? with
      | some mode =>
        Task.onFiles .io
          (FileTree.setMode env.workingDirectory path (mode &&& permissionMask) env.refusals)
      | none => pure ()
      return true

/-- Handles members in order, and counts the files that were written. -/
def unpackEntries (env : Environment) (wrap : ZipError → SetupError) (archive : Location)
    (destination : Path) : List Zip.Entry → Task SetupError Nat
  | [] => return 0
  | entry :: rest => do
    let written ← unpackEntry env wrap archive destination entry
    let others ← unpackEntries env wrap archive destination rest
    return others + written.toNat

/-- What unpacking came to. -/
inductive Outcome where
  /-- The marker was there, and nothing was touched. -/
  | alreadyUnpacked
  /-- This many files were written. -/
  | unpacked (count : Nat)
  deriving DecidableEq, Repr

/-- Unpacks an archive into a directory unless the marker shows that this has been done. -/
def unpackArchive (env : Environment) (archive marker destination : Path) (force : Bool) :
    Task SetupError Outcome := do
  if !(← Task.look (isNeeded env · marker force)) then
    Task.say env .debug
      ("'" ++ marker.text ++ "' exists, binary distribution already unpacked")
    return .alreadyUnpacked
  if !(← Task.look (·.pathExists env.workingDirectory archive)) then
    throw (.missingArchive archive)
  Task.say env .info ("unzipping '" ++ archive.text ++ "'")
  let opened ← openArchive env (.unpack archive) archive
  let count ← unpackEntries env (.unpack archive) opened.location destination opened.entries
  Task.say env .debug
    ("unpacked " ++ toString count ++ " files into '" ++ destination.text ++ "'")
  return .unpacked count

/-- Extracts one member of an archive into a directory, and tells where it is now. -/
def extractMember (env : Environment) (archive : Path) (member : String) (directory : Path) :
    Task SetupError Path := do
  let wrap := SetupError.extraction archive member
  let opened ← openArchive env wrap archive
  match opened.entries.find? (·.name = member) with
  | none => throw (wrap .memberNotFound)
  | some entry =>
    let start ← Task.ofExcept
      ((← Task.look fun tree => entry.openIn (imageAt tree opened.location)).mapError wrap)
    match entry.safePath? with
    | none => throw (wrap .unsafeName)
    | some relative =>
      let path := directory.join relative
      Task.onFiles .io (writeMember env opened.location entry start path)
      return path

/-- The path of a distribution's archive, which is extracted first if the Java module is a
file. -/
def locateArchive (env : Environment) (javaModule : Path) (distribution : Distribution)
    (directory : Path) : Task SetupError Path := do
  if ← Task.look (·.isFile env.workingDirectory javaModule) then
    let member := distribution.memberName
    Task.say env .info ("extracting '" ++ member ++ "' from '" ++ javaModule.text ++ "'")
    extractMember env javaModule member directory
  else
    Task.look (expectedArchive env · javaModule distribution directory)

end BridgeSetup.Unpack
