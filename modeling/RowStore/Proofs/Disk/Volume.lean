import RowStore.Disk.Volume

/-!
Volumes: what a file holds after it or another one was written or opened.
-/

set_option autoImplicit false

namespace RowStore.Volume

/-! ### Writing -/

theorem bytes_write (volume : Volume) (path : String) (bytes : List UInt8) :
    (volume.write path bytes).bytes path = bytes := by
  simp [write, Volume.bytes]

theorem bytes_write_of_ne {path other : String} (different : path ≠ other)
    (volume : Volume) (bytes : List UInt8) :
    (volume.write path bytes).bytes other = volume.bytes other := by
  simp [write, Volume.bytes, Std.ExtTreeMap.getD_insert, different]

theorem bytes?_write (volume : Volume) (path : String) (bytes : List UInt8) :
    (volume.write path bytes).bytes? path = some bytes := by
  simp [write, bytes?]

theorem bytes?_write_of_ne {path other : String} (different : path ≠ other)
    (volume : Volume) (bytes : List UInt8) :
    (volume.write path bytes).bytes? other = volume.bytes? other := by
  simp [write, bytes?, Std.ExtTreeMap.getElem?_insert, different]

theorem write_bytes_self {volume : Volume} {path : String}
    (present : volume.files.contains path = true) :
    volume.write path (volume.bytes path) = volume := by
  have files : volume.files.insert path (volume.bytes path) = volume.files := by
    apply Std.ExtTreeMap.ext_getElem?
    intro other
    rw [Std.ExtTreeMap.getElem?_insert]
    split
    · rename_i same
      cases Std.LawfulEqCmp.compare_eq_iff_eq.mp same
      rw [Std.ExtTreeMap.contains_eq_isSome_getElem?] at present
      obtain ⟨content, found⟩ := Option.isSome_iff_exists.mp present
      unfold bytes
      rw [Std.ExtTreeMap.getD_eq_getD_getElem?, found]
      rfl
    · rfl
  unfold write
  rw [files]

/-! ### Opening -/

/-- A file can be at the path: the folder of the path exists, and no folder has the path itself. -/
structure Admits (volume : Volume) (path : String) : Prop where
  file : volume.folders.contains path = false
  folder : volume.hasFolder path = true

theorem Admits.of_folders {volume next : Volume} {path : String} (admits : volume.Admits path)
    (same : next.folders = volume.folders) : next.Admits path := by
  obtain ⟨file, folder⟩ := admits
  unfold hasFolder at folder
  rw [← same] at file folder
  exact ⟨file, folder⟩

theorem Admits.openFile {volume : Volume} {path : String} (admits : volume.Admits path)
    (opening : Opening) :
    volume.openFile path opening = .ok (volume.write path (match opening with
      | .truncating => []
      | .keeping => volume.bytes path)) := by
  unfold Volume.openFile
  rw [admits.file, admits.folder]
  cases opening <;> rfl

theorem admits_of_openFile {volume opened : Volume} {path : String} {opening : Opening}
    (opens : volume.openFile path opening = .ok opened) : volume.Admits path := by
  unfold Volume.openFile at opens
  cases isFolder : volume.folders.contains path with
  | true =>
      rw [isFolder] at opens
      cases opens
  | false =>
      cases hasFolder : volume.hasFolder path with
      | true => exact ⟨isFolder, hasFolder⟩
      | false =>
          rw [isFolder, hasFolder] at opens
          cases opens

theorem bytes_of_truncating {volume opened : Volume} {path : String}
    (opens : volume.openFile path .truncating = .ok opened) : opened.bytes path = [] := by
  rw [(admits_of_openFile opens).openFile] at opens
  cases opens
  exact bytes_write volume path []

end RowStore.Volume
