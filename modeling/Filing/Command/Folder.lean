/-!
# Folders

What the paths of a command line lead to in a folder.

* `FileFault` with its wording — why a path does not lead to bytes;
* `Folder` with `Folder.ofFiles` — files by the names on the way to them;
* `Folder.read` — the bytes of the file that a path leads to.

A path is a list of names with slashes between them, and is followed name by name.  An empty name
and a dot stay where they are, two dots lead one folder up, and no name leads on from a file.
Nothing is known of what lies outside the folder.
-/

set_option autoImplicit false

namespace Filing

/-- Why a path does not lead to bytes. -/
inductive FileFault where
  | missing
  /-- A name leads on from a file. -/
  | notFolder
  /-- The path leads to a folder. -/
  | isFolder
  | nameTooLong
  /-- The system refuses for a reason of its own. -/
  | refused (reason : String)
deriving DecidableEq

/-- The wording of a fault. -/
def FileFault.message : FileFault → String
  | missing => "No such file or directory (os error 2)"
  | notFolder => "Not a directory (os error 20)"
  | isFolder => "Is a directory (os error 21)"
  | nameTooLong => "File name too long (os error 36)"
  | refused reason => reason

/-- A folder with all files in it and in the folders in it, each by the names on the way to it. -/
structure Folder where
  files : List (List String × List UInt8)

namespace Folder

/-- What a path leads to. -/
inductive Place where
  | file (content : List UInt8)
  /-- A folder in the folder, by the names on the way to it; with no names, the folder itself. -/
  | inside (names : List String)
  /-- A folder outside the folder. -/
  | outside

/-- The greatest number of bytes in a name. -/
def maxName : Nat := 255

/-- The greatest number of bytes in a path. -/
def maxPath : Nat := 4095

/-- The name stays where it is. -/
def stays (name : String) : Bool := name == "" || name == "."

/-- What the names on a way lead to. -/
def at? (f : Folder) (names : List String) : Except FileFault Place :=
  match f.files.lookup names with
  | some content => .ok (.file content)
  | none =>
    if f.files.any fun file => names.isPrefixOf file.1 then .ok (.inside names)
    else .error .missing

/-- Where a name leads to. -/
def follow (f : Folder) (place : Place) (name : String) : Except FileFault Place :=
  match place with
  | .file _ => .error .notFolder
  | place =>
    if stays name then .ok place
    else if maxName < name.utf8ByteSize then .error .nameTooLong
    else match place with
      | .inside names =>
        if name ≠ ".." then f.at? (names ++ [name])
        else if names = [] then .ok .outside
        else .ok (.inside names.dropLast)
      | place => if name = ".." then .ok place else .error .missing

/-- What a path leads to. -/
def find (f : Folder) (path : String) : Except FileFault Place :=
  if path.isEmpty then .error .missing
  else if maxPath < path.utf8ByteSize then .error .nameTooLong
  else (path.splitOn "/").foldlM f.follow (if path.startsWith "/" then .outside else .inside [])

/-- The bytes of the file that a path leads to. -/
def read (f : Folder) (path : String) : Except FileFault (List UInt8) := do
  match ← f.find path with
  | .file content => return content
  | _ => throw .isFolder

/-- The folder of the given files, by the paths that lead to them. -/
def ofFiles (files : List (String × List UInt8)) : Folder :=
  ⟨files.map fun file => ((file.1.splitOn "/").filter (!stays ·), file.2)⟩

end Folder

end Filing
