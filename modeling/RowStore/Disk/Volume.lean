import RowStore.Fault
import Std.Data.ExtTreeMap
import Std.Data.ExtTreeSet

/-!
Volumes: the files of a disk by path, and its folders. The folder of a path ends at the last slash;
a path without a slash lies in the root folder, which always exists.
-/

set_option autoImplicit false

namespace RowStore

structure Volume where
  files : Std.ExtTreeMap String (List UInt8)
  folders : Std.ExtTreeSet String

namespace Volume

def empty : Volume :=
  { files := ∅
    folders := ∅ }

def folderOf? (path : String) : Option String :=
  match path.toList.reverse.dropWhile (· ≠ '/') with
  | [] => none
  | _ :: reversed => some (String.ofList reversed.reverse)

def hasFolder (volume : Volume) (path : String) : Bool :=
  (folderOf? path).all volume.folders.contains

def contains (volume : Volume) (path : String) : Bool :=
  volume.files.contains path || volume.folders.contains path

def bytes? (volume : Volume) (path : String) : Option (List UInt8) :=
  volume.files[path]?

/-- The bytes of the file at the path; a file that does not exist has none. -/
def bytes (volume : Volume) (path : String) : List UInt8 :=
  volume.files.getD path []

def write (volume : Volume) (path : String) (bytes : List UInt8) : Volume :=
  { volume with files := volume.files.insert path bytes }

inductive Opening where
  /-- What the file held is lost. -/
  | truncating
  /-- What the file holds is kept. -/
  | keeping
  deriving DecidableEq, Repr

inductive Reception where
  | taken
  /-- The file is not opened. -/
  | refused (cause : DiskCause)
  /-- The file is open by the time its path turns out to lead nowhere. -/
  | unresolved (cause : DiskCause)
  deriving DecidableEq, Repr

/-- Opens a file, which comes to exist if it did not. -/
def openFile (volume : Volume) (path : String) (opening : Opening) : Except Fault Volume :=
  if volume.folders.contains path then .error (.disk .isFolder)
  else if !volume.hasFolder path then .error (.disk .missing)
  else
    match opening with
    | .truncating => .ok (volume.write path [])
    | .keeping => .ok (volume.write path (volume.bytes path))

end Volume

end RowStore
