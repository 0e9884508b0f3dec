import LineBasic.Fault

/-!
A folder with its files, and what the name of a file leads to in it. A name is a
way through folders, part by part, where `.` is the folder that was reached and
`..` the one that holds it. The first part that cannot be followed decides why
there is no file. Outside the folder no file is known.
-/
namespace LineBasic.CommandLine

/-- The files of a folder, each with the parts of its name and what it holds. -/
structure Folder where
  files : List (List String × ByteArray)

/-- What a part of a name has led to. -/
inductive Place where
  /-- A folder inside the folder, which is itself at the empty way. -/
  | folder (way : List String)
  | file (contents : ByteArray)
  /-- A folder outside the folder. -/
  | outside

namespace Folder

/-- The longest part of a name, in bytes. -/
def partLimit : Nat := 255

/-- The longest name, in bytes. -/
def nameLimit : Nat := 4095

/-- The folder that holds files of the given names. -/
def ofFiles (files : List (String × ByteArray)) : Folder :=
  ⟨files.map fun file => ((file.1.splitOn "/").filter fun part => part != "" && part != ".", file.2)⟩

/-- What is at a way inside the folder. -/
def at? (folder : Folder) (way : List String) : Except FileFault Place :=
  match folder.files.find? fun file => file.1 == way with
  | some file => .ok (.file file.2)
  | none => if folder.files.any fun file => way.isPrefixOf file.1 then .ok (.folder way) else .error .missing

/-- Follows one part of a name. -/
def follow (folder : Folder) (place : Place) (part : String) : Except FileFault Place :=
  let stays := part == "" || part == "."
  match place with
  | .file _ => .error .notFolder
  | .folder way =>
    if stays then .ok place
    else if part == ".." then .ok (if way.isEmpty then .outside else .folder way.dropLast)
    else if partLimit < part.utf8ByteSize then .error .nameTooLong
    else folder.at? (way ++ [part])
  | .outside =>
    if stays || part == ".." then .ok place
    else if partLimit < part.utf8ByteSize then .error .nameTooLong
    else .error .missing

/-- What the file of a name holds. A name that starts with `/` starts outside. -/
def read (folder : Folder) (name : String) : Except FileFault ByteArray :=
  if nameLimit < name.utf8ByteSize then .error .nameTooLong
  else
    let start := if name.startsWith "/" then .outside else .folder []
    match (name.splitOn "/").foldlM folder.follow start with
    | .ok (.file contents) => .ok contents
    | .ok _ => .error .isFolder
    | .error cause => .error cause

end Folder

end LineBasic.CommandLine
