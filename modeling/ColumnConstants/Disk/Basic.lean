import ColumnConstants.Disk.Fault
import ColumnConstants.Path.Basic

namespace ColumnConstants

inductive Entry where
  | file (content : ByteArray)
  | directory

instance : DecidableEq Entry
  | .file a, .file b => decidable_of_iff (a.data = b.data) (by cases a; cases b; simp)
  | .directory, .directory => isTrue rfl
  | .file _, .directory | .directory, .file _ => isFalse (by simp)

abbrev Place := List String

-- A tree of directories and files, without links.
structure Disk where
  entries : List (Place × Entry)

namespace Disk

def get? (disk : Disk) (place : Place) : Option Entry :=
  if place = [] then some .directory else (disk.entries.find? (·.1 = place)).map (·.2)

def put (disk : Disk) (place : Place) (content : ByteArray) : Disk :=
  ⟨(place, .file content) :: disk.entries.filter (·.1 ≠ place)⟩

def maxNameSize : Nat := 255

def maxPathSize : Nat := 4095

def step (disk : Disk) (place : Place) (name : String) : Except Fault Place :=
  match disk.get? place with
  | some .directory =>
    if name = "" ∨ name = "." then .ok place
    else if name = ".." then .ok place.dropLast
    else if maxNameSize < name.utf8ByteSize then .error .nameTooLong
    else if (disk.get? (place ++ [name])).isSome then .ok (place ++ [name])
    else .error .notFound
  | _ => .error .notADirectory

def walk (disk : Disk) (place : Place) (names : List String) : Except Fault Place :=
  names.foldlM disk.step place

def checkPath (path : String) : Except Fault Unit :=
  if '\x00' ∈ path.toList then .error .nulInPath
  else if maxPathSize < path.utf8ByteSize then .error .nameTooLong
  else .ok ()

def pathNames (path : String) : List String :=
  (splitAtEach '/' path.toList).map String.ofList

def locate (disk : Disk) (path : String) : Except Fault Place := do
  checkPath path
  disk.walk [] (pathNames path)

def read (disk : Disk) (path : String) : Except ReadFault String :=
  match disk.locate path with
  | .error fault => .error (.opening fault)
  | .ok place =>
    match disk.get? place with
    | some (.file content) =>
      match String.fromUTF8? content with
      | some text => .ok text
      | none => .error (.reading .notText)
    | _ => .error (.reading .isADirectory)

-- The place that a file called `name` in the directory at `place` has or would have.
def fileIn (disk : Disk) (place : Place) (name : String) : Except Fault Place :=
  match disk.get? place with
  | some .directory =>
    if name ∈ ["", ".", ".."] then .error .isADirectory
    else if maxNameSize < name.utf8ByteSize then .error .nameTooLong
    else if disk.get? (place ++ [name]) = some .directory then .error .isADirectory
    else .ok (place ++ [name])
  | _ => .error .notADirectory

def write (disk : Disk) (path text : String) : Except Fault Disk := do
  checkPath path
  let names := pathNames path
  let place ← disk.walk [] names.dropLast
  let place ← disk.fileIn place (names.getLast?.getD "")
  return disk.put place text.toUTF8

@[simp]
theorem get?_put (disk : Disk) {place : Place} (content : ByteArray) (h : place ≠ []) :
    (disk.put place content).get? place = some (.file content) := by
  simp [get?, put, h]

theorem get?_put_of_ne (disk : Disk) {place other : Place} (content : ByteArray)
    (h : other ≠ place) : (disk.put place content).get? other = disk.get? other := by
  have hf : (disk.entries.filter (·.1 ≠ place)).find? (·.1 = other)
      = disk.entries.find? (·.1 = other) := by
    rw [List.find?_filter]
    congr
    funext e
    by_cases he : e.1 = other <;> simp [he, h]
  simp only [get?, put, List.find?_cons, hf, h.symm, decide_false]

@[simp]
theorem put_put (disk : Disk) (place : Place) (content : ByteArray) :
    (disk.put place content).put place content = disk.put place content := by
  simp [put, List.filter_filter]

end Disk

end ColumnConstants
