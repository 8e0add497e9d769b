import Mathlib.Data.List.Nodup
import BridgeSetup.Zip.Directory

/-!
# Members of archives

The members that an archive lists have different names, so a name stands for one member at most
(`names_of_entriesOf`). Of a member's data a beginning is delivered: all that can be decoded, or
less when the data violate their format, because the reading in which this shows is lost
(`Entry.deliver_isPrefix`).
-/

namespace BridgeSetup

/-! ## What can be decoded -/

namespace Inflate

/-- Where reading a stream ends, and why it ended early if it did. -/
def ending (stream : Bytes) : Except Interruption Unit × State :=
  let fuel := 8 * stream.length + 1
  readBlocks fuel fuel (.start stream)

/-- All that is decoded of a stream before its end, or before the place at which it is cut short
or violates the format. -/
def decoded (stream : Bytes) : Bytes :=
  (ending stream).2.output.toList

theorem inflate_eq (stream : Bytes) :
    inflate stream =
      match ending stream with
      | (.ok (), state) => ⟨state.output.toList, none⟩
      | (.error .cutShort, state) => ⟨state.output.toList, some .cutShort⟩
      | (.error .violated, state) =>
        ⟨(state.output.extract 0 state.handedOver).toList, some .violated⟩ := rfl

theorem output_isPrefix (stream : Bytes) : (inflate stream).output <+: decoded stream := by
  rw [inflate_eq, decoded]
  rcases ending stream with ⟨⟨_ | _⟩ | ⟨⟩, state⟩
  · -- What was decoded since the last reading began has been lost.
    simp only [Array.toList_extract, List.extract_eq_take_drop]
    simp [List.take_prefix]
  · exact List.prefix_rfl
  · exact List.prefix_rfl

theorem output_nil : (inflate []).output = [] := rfl

end Inflate

namespace Zip

namespace Entry

variable (image : Image) (entry : Entry) (start : Nat)

/-- All that can be decoded of a member whose data start at the given place. -/
def decoded : Bytes :=
  let compressed := (image.extract start (start + entry.compressedSize)).toList
  if entry.method = 0 then compressed else Inflate.decoded compressed

/-- Whatever fault ends the data of a member, what is delivered is a beginning of what can be
decoded. -/
theorem deliver_isPrefix : (entry.deliver image start).bytes <+: entry.decoded image start := by
  simp only [deliver, decoded]
  split
  · exact List.prefix_rfl
  · have begins := Inflate.output_isPrefix
      (image.extract start (start + entry.compressedSize)).toList
    split
    · exact begins
    · exact begins
    · exact begins

/-- Nothing is delivered of a member when the archive has been emptied. -/
theorem deliver_of_emptied : (entry.deliver #[] start).bytes = [] := by
  simp only [deliver, Array.extract_empty]
  split
  · rfl
  · have empty := Inflate.output_nil
    split
    · exact empty
    · exact empty
    · exact empty

end Entry

/-! ## Names -/

theorem names_takeIn {entries : List Entry} {entry : Entry}
    (distinct : (entries.map (·.name)).Nodup) : ((takeIn entries entry).map (·.name)).Nodup := by
  simp only [takeIn]
  split
  · -- An entry that is replaced leaves its name to the one that replaces it.
    have names : ((entries.map fun known => if known.name = entry.name then entry else known).map
        (·.name)) = entries.map (·.name) := by
      rw [List.map_map]
      apply List.map_congr_left
      intro known _
      simp only [Function.comp_apply]
      split
      · next same => exact same.symm
      · rfl
    rwa [names]
  · next fresh =>
      rw [List.map_append, List.nodup_append]
      refine ⟨distinct, by simp, ?_⟩
      intro name member other single
      simp only [List.map_cons, List.map_nil, List.mem_singleton] at single
      rcases List.mem_map.mp member with ⟨known, listed, rfl⟩
      rintro rfl
      apply fresh
      exact List.any_eq_true.mpr ⟨known, listed, by simpa using single⟩

theorem names_foldl_takeIn {entries more : List Entry}
    (distinct : (entries.map (·.name)).Nodup) :
    ((more.foldl takeIn entries).map (·.name)).Nodup := by
  induction more generalizing entries with
  | nil => exact distinct
  | cons entry rest ih =>
      rw [List.foldl_cons]
      apply ih
      exact names_takeIn distinct

theorem names_of_readDirectory {image : Image} {directory : DirectoryPlace} {entries : List Entry}
    (read : readDirectory image directory = some entries) : (entries.map (·.name)).Nodup := by
  simp only [readDirectory] at read
  split at read
  · rcases Option.map_eq_some_iff.mp read with ⟨listed, _, rfl⟩
    apply names_foldl_takeIn
    simp
  · cases read

theorem names_of_findDirectory {image : Image} {fuel limit : Nat} {fault : Option ZipError}
    {entries : List Entry} (found : findDirectory image fuel limit fault = .ok entries) :
    (entries.map (·.name)).Nodup := by
  induction fuel generalizing limit fault with
  | zero => cases found
  | succ fuel ih =>
      simp only [findDirectory] at found
      split at found
      · cases found
      split at found
      · exact ih found
      split at found
      · exact ih found
      split at found
      · next read =>
          cases found
          exact names_of_readDirectory read
      · exact ih found

/-- The members that an archive lists have different names. -/
theorem names_of_entriesOf {image : Image} {entries : List Entry}
    (listed : entriesOf image = .ok entries) : (entries.map (·.name)).Nodup :=
  names_of_findDirectory listed

theorem eq_of_name_eq {image : Image} {entries : List Entry} {first second : Entry}
    (listed : entriesOf image = .ok entries) (isFirst : first ∈ entries)
    (isSecond : second ∈ entries) (same : first.name = second.name) : first = second :=
  List.inj_on_of_nodup_map (names_of_entriesOf listed) isFirst isSecond same

end Zip

end BridgeSetup
