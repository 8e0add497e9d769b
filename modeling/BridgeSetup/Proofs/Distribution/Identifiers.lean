import BridgeSetup.Proofs.Path.Joining
import BridgeSetup.Setup.Unpack

/-!
# Distributions are kept apart by their identifiers

An identifier is read back by cutting it at its last hyphen. A platform may contain hyphens, so
this gives the platform and the version again exactly if the version contains none
(`splitAtLastHyphen_eq_some_iff`): reading accepts what writing produces from a proper
distribution, and nothing else (`ofIdentifier?_eq_some_iff`).

Everything that is named after a distribution has its identifier in its name, with the same text
before and after it. So two distributions whose versions have no hyphens share no such name
(`identifier_inj`), and no file either, provided that the name is a single one: paths that end
with different names are different, whatever stands before (`components_ne_of_fileName_ne`).
The marker cannot be another file of its installation, because no other one ends as it does.
-/

namespace BridgeSetup

namespace Distribution

/-! ## Reading identifiers -/

/-- A distribution that its identifier names. -/
structure IsProper (distribution : Distribution) : Prop where
  platform : distribution.platform ≠ ""
  version : distribution.version ≠ ""
  plain : '-' ∉ distribution.version.toList

theorem splitAtLastHyphen_append (front : List Char) {back : List Char} (plain : '-' ∉ back) :
    splitAtLastHyphen (front ++ '-' :: back) = some (front, back) := by
  have parts : (Text.pieces '-' (front ++ '-' :: back)).reverse =
      back :: (Text.pieces '-' front).reverse := by
    rw [Text.pieces_append_cons, Text.pieces_of_notMem plain]
    simp
  rcases earlier : (Text.pieces '-' front).reverse with _ | ⟨next, rest⟩
  · exact absurd (List.reverse_eq_nil_iff.mp earlier) (Text.pieces_ne_nil '-' front)
  · simp only [splitAtLastHyphen, parts, earlier]
    rw [← earlier, List.reverse_reverse, Text.pieces_eq_splitOn, List.intercalate_splitOn]

theorem splitAtLastHyphen_eq_some_iff {chars front back : List Char} :
    splitAtLastHyphen chars = some (front, back) ↔
      chars = front ++ '-' :: back ∧ '-' ∉ back := by
  constructor
  · intro split
    by_cases hyphen : '-' ∈ chars
    · rcases Text.exists_last_separator hyphen with ⟨earlier, last, rfl, plain⟩
      rw [splitAtLastHyphen_append earlier plain] at split
      cases split
      exact ⟨rfl, plain⟩
    · simp [splitAtLastHyphen, Text.pieces_of_notMem hyphen] at split
  · rintro ⟨rfl, plain⟩
    exact splitAtLastHyphen_append front plain

theorem toList_identifier (distribution : Distribution) :
    distribution.identifier.toList = identifierStart.toList ++
      (distribution.platform.toList ++ '-' :: distribution.version.toList) := by
  simp [identifier]

/-- Reading accepts exactly the identifiers of proper distributions. -/
theorem ofIdentifier?_eq_some_iff {text : String} {distribution : Distribution} :
    ofIdentifier? text = some distribution ↔
      distribution.IsProper ∧ distribution.identifier = text := by
  constructor
  · intro read
    simp only [ofIdentifier?] at read
    split at read
    · next starts =>
      rcases List.isPrefixOf_iff_prefix.mp starts with ⟨rest, parts⟩
      rw [← parts, List.drop_left, Option.bind_eq_bind, Option.bind_eq_some_iff] at read
      rcases read with ⟨⟨platform, version⟩, split, kept⟩
      rcases splitAtLastHyphen_eq_some_iff.mp split with ⟨rfl, plain⟩
      simp only [Option.ite_none_left_eq_some, Bool.or_eq_true, List.isEmpty_iff, not_or,
        Option.some.injEq] at kept
      rcases kept with ⟨⟨somePlatform, someVersion⟩, rfl⟩
      refine ⟨⟨by simpa using somePlatform, by simpa using someVersion, by simpa using plain⟩, ?_⟩
      rw [← String.toList_inj, toList_identifier, ← parts]
      simp
    · cases read
  · rintro ⟨proper, rfl⟩
    have starts : identifierStart.toList.isPrefixOf distribution.identifier.toList = true := by
      rw [List.isPrefixOf_iff_prefix, toList_identifier]
      exact List.prefix_append _ _
    have split : splitAtLastHyphen
        (distribution.identifier.toList.drop identifierStart.toList.length) =
          some (distribution.platform.toList, distribution.version.toList) := by
      rw [toList_identifier, List.drop_left]
      exact splitAtLastHyphen_append _ proper.plain
    simp [ofIdentifier?, starts, split, proper.platform, proper.version]

/-! ## What is named after a distribution -/

/-- The parts of the identifier are single names. -/
structure IsSegment (distribution : Distribution) : Prop where
  platform : '/' ∉ distribution.platform.toList
  version : '/' ∉ distribution.version.toList

theorem IsSegment.whole {distribution : Distribution} (segment : IsSegment distribution)
    {ending : String} (whole : '/' ∉ ending.toList) :
    '/' ∉ (distribution.identifier ++ ending).toList := by
  have start : '/' ∉ identifierStart.toList := by decide
  simp [toList_identifier, start, segment.platform, segment.version, whole]

theorem component?_named (distribution : Distribution) (ending : String) :
    Path.component? (distribution.identifier ++ ending) =
      some (.normal (distribution.identifier ++ ending)) := by
  apply Path.component?_of_long
  simp [toList_identifier, identifierStart]

/-- Two distributions share nothing that is named after them. -/
structure KeptApart (first second : Distribution) : Prop where
  member : first.memberName ≠ second.memberName
  marker : first.IsSegment → second.IsSegment → ∀ directory : Path,
    (InstallPaths.resolve directory first).marker.components ≠
      (InstallPaths.resolve directory second).marker.components
  archive : first.IsSegment → second.IsSegment →
    ∀ (env : Environment) (tree : FileTree) (javaModule directory : Path),
      (Unpack.expectedArchive env tree javaModule first directory).components ≠
        (Unpack.expectedArchive env tree javaModule second directory).components

section Apart

variable {first second : Distribution} (plainFirst : '-' ∉ first.version.toList)
  (plainSecond : '-' ∉ second.version.toList)

include plainFirst plainSecond

theorem identifier_inj : first.identifier = second.identifier ↔ first = second := by
  constructor
  · intro same
    rw [← String.toList_inj, toList_identifier, toList_identifier, List.append_cancel_left_eq]
      at same
    have split := splitAtLastHyphen_append first.platform.toList plainFirst
    rw [same, splitAtLastHyphen_append second.platform.toList plainSecond, Option.some.injEq,
      Prod.mk.injEq, String.toList_inj, String.toList_inj] at split
    cases first
    cases second
    cases split.1
    cases split.2
    rfl
  · rintro rfl
    rfl

/-- Texts with a distribution's identifier in them, between the same other texts. -/
theorem embedded_inj (before after : String) :
    before ++ first.identifier ++ after = before ++ second.identifier ++ after ↔
      first = second := by
  rw [← identifier_inj plainFirst plainSecond, ← String.toList_inj]
  simp [String.toList_inj]

/-- Entries of a directory that are named after different distributions are different. -/
theorem child_ne (different : first ≠ second) (segmentFirst : first.IsSegment)
    (segmentSecond : second.IsSegment) (directory : Path) {ending : String}
    (whole : '/' ∉ ending.toList) :
    (directory.child (first.identifier ++ ending)).components ≠
      (directory.child (second.identifier ++ ending)).components := by
  apply Path.components_ne_of_fileName_ne
  rw [Path.fileName_child directory (component?_named first ending) (segmentFirst.whole whole),
    Path.fileName_child directory (component?_named second ending) (segmentSecond.whole whole)]
  intro same
  have embedded := embedded_inj plainFirst plainSecond "" ending
  simp only [String.empty_append] at embedded
  exact different (embedded.mp (Option.some.inj same))

theorem keptApart_of_ne (different : first ≠ second) : KeptApart first second where
  member same := by
    have embedded := embedded_inj plainFirst plainSecond (libraryDirectory ++ "/") ".zip"
    simp only [memberName, archiveName, ← String.append_assoc] at same
    exact different (embedded.mp same)
  marker segmentFirst segmentSecond directory :=
    child_ne plainFirst plainSecond different segmentFirst segmentSecond directory (by decide)
  archive segmentFirst segmentSecond env tree javaModule directory :=
    child_ne plainFirst plainSecond different segmentFirst segmentSecond _ (by decide)

end Apart

/-! ## Within one installation -/

/-- The name with which a marker's path ends, also when the identifier is no single name. -/
theorem fileName_marker (directory : Path) (distribution : Distribution) :
    ∃ last, (InstallPaths.resolve directory distribution).marker.fileName =
      some (last ++ ".info") := by
  have relative : (⟨distribution.markerName⟩ : Path).isAbsolute = false := by
    simp [Path.isAbsolute, markerName, toList_identifier, identifierStart]
  rcases Text.getLast?_pieces_append (show '/' ∉ ".info".toList by decide)
    distribution.identifier.toList with ⟨last, ends⟩
  have lastSegment : (⟨distribution.markerName⟩ : Path).segments.getLast? =
      some (String.ofList last ++ ".info") := by
    rw [Path.segments, Text.splitAt, markerName, String.toList_append, List.getLast?_map, ends,
      Option.map_some, String.ofList_append]
    simp
  have normal : Path.component? (String.ofList last ++ ".info") =
      some (.normal (String.ofList last ++ ".info")) := by
    apply Path.component?_of_long
    simp
  exact ⟨String.ofList last, Path.fileName_join directory relative lastSegment normal⟩

end Distribution

namespace InstallPaths

/-- The files of an installation. -/
def files (paths : InstallPaths) : List Path :=
  [paths.defaultConfig, paths.marker, paths.installerModule, paths.javaConfig,
    paths.pythonConfig]

theorem pairwise_files (directory : Path) (distribution : Distribution) :
    (resolve directory distribution).files.Pairwise
      fun first second => first.components ≠ second.components := by
  rcases Distribution.fileName_marker directory distribution with ⟨last, marker⟩
  have names : (resolve directory distribution).files.map Path.fileName =
      [some "beampy.ini", some (last ++ ".info"), some "jpyutil.py",
        some "jpyconfig.properties", some "jpyconfig.py"] := by
    have entry {name : String} (normal : Path.component? name = some (.normal name))
        (whole : '/' ∉ name.toList) := Path.fileName_child directory normal whole
    simp only [files, List.map_cons, List.map_nil, marker]
    simp only [resolve]
    rw [entry (by decide) (by decide), entry (by decide) (by decide),
      entry (by decide) (by decide), entry (by decide) (by decide)]
  have notMarker {name : String} (other : ¬ ".info".toList <:+ name.toList) :
      last ++ ".info" ≠ name := by
    rintro rfl
    exact other (by simp)
  have distinct : ((resolve directory distribution).files.map Path.fileName).Nodup := by
    have notConfig := @notMarker "beampy.ini" (by decide)
    have notModule := @notMarker "jpyutil.py" (by decide)
    have notJava := @notMarker "jpyconfig.properties" (by decide)
    have notPython := @notMarker "jpyconfig.py" (by decide)
    simp [names, notConfig.symm, notModule, notJava, notPython]
  exact (List.pairwise_map.mp distinct).imp Path.components_ne_of_fileName_ne

end InstallPaths

namespace Distribution

/-- Identifiers are a code: reading takes them apart again and accepts nothing else. So what is
named after different distributions is different, and a marker is none of the other files. -/
theorem identifiers_isolate :
    (∀ (text : String) (distribution : Distribution),
      ofIdentifier? text = some distribution ↔
        distribution.IsProper ∧ distribution.identifier = text) ∧
    (∀ first second : Distribution, '-' ∉ first.version.toList → '-' ∉ second.version.toList →
      first ≠ second → KeptApart first second) ∧
    ∀ (directory : Path) (distribution : Distribution),
      (InstallPaths.resolve directory distribution).files.Pairwise
        fun first second => first.components ≠ second.components := by
  refine ⟨fun _ _ => ofIdentifier?_eq_some_iff, ?_, InstallPaths.pairwise_files⟩
  intro first second plainFirst plainSecond different
  exact keptApart_of_ne plainFirst plainSecond different

end Distribution

end BridgeSetup
