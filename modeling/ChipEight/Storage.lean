import ChipEight.Bytes

/-! Files and folders as a program sees them, and what can go wrong when it reads one. -/

namespace ChipEight

/-- Why a file was not read. -/
inductive ReadFault where
  /-- There is no such file. -/
  | missing
  /-- The path leads through a file as if it were a folder. -/
  | notFolder
  /-- The path leads to a folder. -/
  | isFolder
  /-- A name in the path is longer than any file's. -/
  | nameTooLong
  /-- The path holds a character that no path can hold. -/
  | badPath
  /-- The file was to be text and is not. -/
  | notText
  /-- The system refused for a reason of its own. -/
  | refused (reason : String) (code : Nat)
deriving DecidableEq, Repr

/-- The wording of a file that was not read. -/
def ReadFault.message : ReadFault → String
  | missing => "No such file or directory (os error 2)"
  | notFolder => "Not a directory (os error 20)"
  | isFolder => "Is a directory (os error 21)"
  | nameTooLong => "File name too long (os error 36)"
  | badPath => "file name contained an unexpected NUL byte"
  | notText => "stream did not contain valid UTF-8"
  | refused reason code => reason ++ " (os error " ++ toString code ++ ")"

/-- A folder with all that is in it, each thing under the names that lead to it. -/
structure Storage where
  /-- The contents of each file. -/
  files : List (List String × Bytes) := []
  /-- The folders that are there even if they hold nothing. -/
  folders : List (List String) := []

/-- Where a path has led so far. -/
inductive Place where
  /-- A folder, by the names that lead to it. -/
  | folder (names : List String)
  /-- A folder that the storage is part of, of which nothing else is known. -/
  | outside
  /-- A file. -/
  | file (contents : Bytes)

namespace Storage

/-- The names in a path, which are empty where slashes meet or stand at an end. -/
def namesOf (path : String) : List String := path.splitOn "/"

/-- The longest name that a folder can hold, in bytes. -/
def maxNameSize : Nat := 255

/-- The longest path that can be opened, in bytes. -/
def maxPathSize : Nat := 4095

/-- Whether names lead to a folder: one listed, or one on the way to something listed. -/
def hasFolder (storage : Storage) (names : List String) : Bool :=
  names.isEmpty || storage.folders.any names.isPrefixOf ||
    storage.files.any fun file => names.isPrefixOf file.1 && names.length < file.1.length

/-- What stands under names inside the storage. -/
def lookUp (storage : Storage) (names : List String) : Except ReadFault Place :=
  match storage.files.find? (·.1 == names) with
  | some file => .ok (.file file.2)
  | none => if storage.hasFolder names then .ok (.folder names) else .error .missing

/-- The place that a name leads to from another. -/
def enter (storage : Storage) (place : Place) (name : String) : Except ReadFault Place :=
  match place with
  | .file _ => .error .notFolder
  | .outside =>
    if name = "" ∨ name = "." ∨ name = ".." then .ok .outside
    else if maxNameSize < name.utf8ByteSize then .error .nameTooLong
    else .error .missing
  | .folder names =>
    if name = "" ∨ name = "." then .ok place
    else if name = ".." then .ok (if names.isEmpty then .outside else .folder names.dropLast)
    else if maxNameSize < name.utf8ByteSize then .error .nameTooLong
    else storage.lookUp (names ++ [name])

/-- The place that a path leads to. -/
def follow (storage : Storage) (path : String) : Except ReadFault Place :=
  let start := if path.startsWith "/" then Place.outside else .folder []
  (namesOf path).foldlM storage.enter start

/-- The contents of the file that a path leads to. -/
def read (storage : Storage) (path : String) : Except ReadFault Bytes :=
  if path.toList.any (·.toNat == 0) then .error .badPath
  else if maxPathSize < path.utf8ByteSize then .error .nameTooLong
  else if path.isEmpty then .error .missing
  else
    match storage.follow path with
    | .ok (.file contents) => .ok contents
    | .ok _ => .error .isFolder
    | .error fault => .error fault

end Storage

end ChipEight
