import BridgeSetup.Text.Lines

/-!
# Identifiers of binary distributions

A binary distribution is made for one platform and one version of the interpreter, and its
identifier names both: `jpy.<platform>-<version>`. A platform tag may contain hyphens, a
version does not, so the last hyphen separates them. The names of the archive, of the
marker that shows that it has been unpacked, and of the member of a Java module that holds
it are all derived from the identifier.
-/

namespace BridgeSetup

/-- The platform and the version that a binary distribution is made for. -/
structure Distribution where
  platform : String
  version : String
  deriving DecidableEq, Repr

namespace Distribution

/-- What every identifier starts with. -/
def identifierStart : String := "jpy."

/-- The directory of a Java module that holds binary distributions. -/
def libraryDirectory : String := "lib"

/-- The identifier of a distribution. -/
def identifier (distribution : Distribution) : String :=
  identifierStart ++ distribution.platform ++ "-" ++ distribution.version

/-- The parts of a list of characters before and after its last hyphen. -/
def splitAtLastHyphen (chars : List Char) : Option (List Char × List Char) :=
  match (Text.pieces '-' chars).reverse with
  | last :: next :: rest => some (['-'].intercalate (next :: rest).reverse, last)
  | _ => none

/-- The distribution with the given identifier. -/
def ofIdentifier? (identifier : String) : Option Distribution := do
  let lead := identifierStart.toList
  if lead.isPrefixOf identifier.toList then
    let (platform, version) ← splitAtLastHyphen (identifier.toList.drop lead.length)
    if platform.isEmpty || version.isEmpty then none
    else some ⟨String.ofList platform, String.ofList version⟩
  else none

/-- The name of the archive that holds a distribution. -/
def archiveName (distribution : Distribution) : String :=
  distribution.identifier ++ ".zip"

/-- The name of the file that shows that a distribution has been unpacked. -/
def markerName (distribution : Distribution) : String :=
  distribution.identifier ++ ".info"

/-- The name of a Java module's member that holds a distribution. -/
def memberName (distribution : Distribution) : String :=
  libraryDirectory ++ "/" ++ distribution.archiveName

end Distribution

end BridgeSetup
