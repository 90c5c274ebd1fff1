/-
# Files and folders

A disk is a root folder with the files and folders in it, one of which is the folder that a
program works in. A path is followed name by name, slashes separating the names, from the
root if it starts with a slash and from the working folder otherwise:

* an empty name and `.` stay in the folder, `..` goes to the folder around it, and the
  root is the folder around itself;
* a name on the way must be that of a folder;
* a path with a slash at its end must lead to a folder, so no file is written there.

Names of more than 255 bytes and paths of more than 4095 are too long, and no path holds a
NUL. A name is looked at only where the path before it has led to a folder.

| error | shown as |
| --- | --- |
| `notFound` | `No such file or directory (os error 2)` |
| `notFolder` | `Not a directory (os error 20)` |
| `isFolder` | `Is a directory (os error 21)` |
| `nameTooLong` | `File name too long (os error 36)` |
| `nulInPath` | `file name contained an unexpected NUL byte` |
| `full` | `failed to write whole buffer` |
-/

import FormulaGrid.Text.Utf8

namespace FormulaGrid

open Text (Bytes)

/-- Why a file cannot be read or written. -/
inductive FileError where
  | notFound
  | notFolder
  | isFolder
  | nameTooLong
  | nulInPath
  /-- There is no room for all bytes. -/
  | full
  /-- Anything else, in words. -/
  | other (message : String)
deriving DecidableEq, Repr

/-- The wording of a file error. -/
def FileError.text : FileError → String
  | notFound => "No such file or directory (os error 2)"
  | notFolder => "Not a directory (os error 20)"
  | isFolder => "Is a directory (os error 21)"
  | nameTooLong => "File name too long (os error 36)"
  | nulInPath => "file name contained an unexpected NUL byte"
  | full => "failed to write whole buffer"
  | other message => message

/-- A file with its content, or a folder with its named entries. -/
inductive Entry where
  | file (content : Bytes)
  | folder (entries : List (String × Entry))

/-- The named entries of a folder. -/
abbrev Folder := List (String × Entry)

namespace Folder

/-- Sets the entry of a name, in its old place or at the end. -/
def put (name : String) (e : Entry) : Folder → Folder
  | [] => [(name, e)]
  | (n, e') :: rest => if n = name then (n, e) :: rest else (n, e') :: put name e rest

/-- The entry that was set is found. -/
theorem lookup_put (name : String) (e : Entry) (f : Folder) :
    (put name e f).lookup name = some e := by
  induction f with
  | nil => simp [put]
  | cons p rest ih =>
    obtain ⟨n, e'⟩ := p
    by_cases h : n = name
    · simp [put, h]
    · have hn : (name == n) = false := by simpa using Ne.symm h
      simp [put, h, List.lookup_cons, ih, hn]

/-- The folder that names lead to from a folder. -/
def find (f : Folder) : List String → Option Folder
  | [] => some f
  | name :: names =>
    match f.lookup name with
    | some (.folder g) => find g names
    | _ => none

/-- Changes the folder that names lead to; nothing changes if they lead to none. -/
def change (f : Folder) (names : List String) (edit : Folder → Folder) : Folder :=
  match names with
  | [] => edit f
  | name :: names =>
    match f.lookup name with
    | some (.folder g) => f.put name (.folder (change g names edit))
    | _ => f

end Folder

/-- A root folder, and the names that lead from it to the folder a program works in. -/
structure Disk where
  root : Folder
  working : List String

namespace Disk

/-- The longest name, in bytes. -/
def maxNameBytes : Nat := 255

/-- The longest path, in bytes. -/
def maxPathBytes : Nat := 4095

/-- Where a path leads: the folder, by the names that lead there, and the last name in it.
A path that ends in a folder reached without a name of its own has no last name. -/
structure Target where
  folder : List String
  name? : Option String
  /-- Whether the path ends in a slash. -/
  slash : Bool

/-- The parts of a text between its slashes. -/
def splitSlashes : List Char → List (List Char)
  | [] => [[]]
  | c :: r =>
    if c = '/' then [] :: splitSlashes r
    else match splitSlashes r with
      | [] => [[c]]
      | part :: parts => (c :: part) :: parts

/-- The parts of a path between its slashes. -/
def parts (path : String) : List String := (splitSlashes path.toList).map String.ofList

/-- Whether a part of a path stands for a folder reached without a name. -/
def isStep (part : String) : Bool := part = "" || part = "." || part = ".."

/-- Whether a name is longer than any file's. -/
def isTooLong (name : String) : Bool := decide (name.utf8ByteSize > maxNameBytes)

/-- The folder, by the names that lead there, one part of a path further. -/
def step (d : Disk) (here : List String) (part : String) : Except FileError (List String) :=
  if part = "" || part = "." then .ok here
  else if part = ".." then .ok here.dropLast
  else if isTooLong part then .error .nameTooLong
  else match (d.root.find here).bind (·.lookup part) with
    | some (.folder _) => .ok (here ++ [part])
    | some (.file _) => .error .notFolder
    | none => .error .notFound

/-- Where a path leads. -/
def target (d : Disk) (path : String) : Except FileError Target := do
  if path.toList.contains '\x00' then throw .nulInPath
  if path.isEmpty then throw .notFound
  if path.utf8ByteSize > maxPathBytes then throw .nameTooLong
  let start := if path.toList.head? = some '/' then [] else d.working
  let ps := parts path
  let slash := ps.getLast? == some ""
  let ps := (ps.reverse.dropWhile (· == "")).reverse
  let folder ← ps.dropLast.foldlM d.step start
  match ps.getLast? with
  | none => pure ⟨folder, none, slash⟩
  | some last =>
    if isStep last then pure ⟨← d.step folder last, none, slash⟩
    else pure ⟨folder, some last, slash⟩

/-- The entry a path leads to. -/
def entry (d : Disk) (path : String) : Except FileError Entry := do
  let t ← d.target path
  match d.root.find t.folder, t.name? with
  | none, _ => throw .notFound
  | some f, none => pure (.folder f)
  | some f, some name =>
    if isTooLong name then throw .nameTooLong
    else match f.lookup name with
      | none => throw .notFound
      | some (.file content) => if t.slash then throw .notFolder else pure (.file content)
      | some (.folder g) => pure (.folder g)

/-- Whether a path leads to anything. -/
def has (d : Disk) (path : String) : Bool := (d.entry path).isOk

/-- **The content of a file.** -/
def read (d : Disk) (path : String) : Except FileError Bytes := do
  match ← d.entry path with
  | .file content => pure content
  | .folder _ => throw .isFolder

/-- **The disk with a file written**, made if there is none and replaced if there is one. -/
def write (d : Disk) (path : String) (content : Bytes) : Except FileError Disk := do
  let t ← d.target path
  match d.root.find t.folder, t.name? with
  | none, _ => throw .notFound
  | some _, none => throw .isFolder
  | some f, some name =>
    if t.slash then throw .isFolder
    else if isTooLong name then throw .nameTooLong
    else match f.lookup name with
      | some (.folder _) => throw .isFolder
      | _ => pure { d with root := d.root.change t.folder (Folder.put name (.file content)) }

/-- The entries of the working folder, ordered by name; a folder has no content. -/
def listing (d : Disk) : List (String × Option Bytes) :=
  (((d.root.find d.working).getD []).map fun (name, e) =>
    match e with
    | .file content => (name, some content)
    | .folder _ => (name, none)).mergeSort fun a b => decide (a.1 ≤ b.1)

end Disk
end FormulaGrid
