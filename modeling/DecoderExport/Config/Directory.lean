import DecoderExport.Fault

/-!
# A directory that configuration files are read from

The outcome of reading a path inside a directory of plain files. Nothing is known of the directories
around it but that they are directories.
-/

namespace DecoderExport

/-- The plain files of a directory with their bytes. -/
structure Directory where
  files : List (String × List UInt8)

namespace Directory

/-- The longest name of a file, in bytes. -/
def maxName : Nat := 255

/-- The longest path, in bytes. -/
def maxPath : Nat := 4095

/-- The name of the file that a path leads to if it stays inside the directory. Empty names and
single dots lead nowhere else, but a file's own name comes last. -/
def entry? (path : String) : Option String :=
  let names := path.splitOn "/"
  match names.filter fun name => name ≠ "" && name ≠ "." with
  | [name] => if name ≠ ".." && names.getLast? = some name then some name else none
  | _ => none

/-- Puts a file at a path, unless the path leads out of the directory. -/
def write (d : Directory) (path : String) (bytes : List UInt8) : Directory :=
  match entry? path with
  | some name => ⟨(name, bytes) :: d.files⟩
  | none => d

/-- Follows the names of a path; `inside` tells whether the directory itself has been reached. -/
def follow (d : Directory) (inside : Bool) : List String → Except FileTrouble (List UInt8)
  | [] => .error .isDirectory
  | name :: names =>
    if name = "" || name = "." then follow d inside names
    else if name = ".." then follow d false names
    else if maxName < name.utf8ByteSize then .error .nameTooLong
    else
      match inside, d.files.lookup name, names with
      | true, some bytes, [] => .ok bytes
      | _, _, _ => .error .notFound

/-- The bytes of the file at a path. -/
def read (d : Directory) (path : String) : Except FileTrouble (List UInt8) :=
  if path.toList.contains '\x00' then .error .nulInName
  else if path = "" then .error .notFound
  else if maxPath < path.utf8ByteSize then .error .nameTooLong
  else d.follow (!path.startsWith "/") (path.splitOn "/")

end Directory

end DecoderExport
