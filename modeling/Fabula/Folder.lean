import Fabula.Table
import Fabula.Text.Quoted

/-!
A folder of files, as far as reading by a path, and writing to one, can tell. Files are known by the
names on their way; a folder is there if it is named, or if something is on its way through it.
-/

set_option autoImplicit false

namespace Fabula

inductive Denied where
  | absent
  | isFolder
  | notFolder
  | nameTooLong
  /-- No path can hold the character of number zero. -/
  | unusable
  deriving Repr, DecidableEq

def Denied.message (path : String) (d : Denied) : String :=
  let report (number words : String) : String :=
    "[Errno " ++ number ++ "] " ++ words ++ ": " ++ Text.quoted path
  match d with
  | .absent => report "2" "No such file or directory"
  | .isFolder => report "21" "Is a directory"
  | .notFolder => report "20" "Not a directory"
  | .nameTooLong => report "36" "File name too long"
  | .unusable => "embedded null byte"

namespace Path

def parts (path : String) : List String := (path.toList.splitOn '/').map String.ofList

/-- The names between the slashes of a path; of an empty path, none. -/
def names (path : String) : List String := (parts path).filter fun n => n != "" && n != "."

/-- A path without empty names and names that stay in place. -/
def normal (path : String) : String :=
  let joined := "/".intercalate (names path)
  if path.startsWith "/" then
    (if path.startsWith "//" && !path.startsWith "///" then "//" else "/") ++ joined
  else if joined = "" then "."
  else joined

def lastName (path : String) : String := ((names path).getLast?).getD ""

/-- What the last name ends with, from its last dot on; a dot at either end does not count. -/
def ending (path : String) : String :=
  let name := (lastName path).toList
  let tail := (name.reverse.takeWhile (· != '.')).reverse
  if tail = [] ∨ name.length ≤ tail.length + 1 then "" else String.ofList ('.' :: tail)

end Path

structure Folder where
  files : Table (List String) ByteArray
  folders : List (List String)

namespace Folder

def empty : Folder := ⟨[], []⟩

/-- Where a way leads. A way begins with `/` if it does not start in the folder, or goes up from it
by `..` first. -/
inductive Spot where
  | file (octets : ByteArray)
  | folder (way : List String)

/-- What is written to this file is lost. -/
def sink : List String := ["/", "dev", "null"]

def around : List (List String) :=
  ["/"] :: ["dev", "etc", "home", "root", "tmp", "usr", "var"].map (["/", ·])

def isFolder (f : Folder) (way : List String) : Bool :=
  way.all (· == "..") || around.contains way || f.folders.any way.isPrefixOf ||
    f.files.any fun (other, _) => way.isPrefixOf other && way != other

def file? (f : Folder) (way : List String) : Option ByteArray :=
  if way = sink then some ByteArray.empty else f.files.get? way

def longestName : Nat := 255

def longestPath : Nat := 4095

def above (way : List String) : List String :=
  if way = ["/"] then way
  else if way.all (· == "..") then ".." :: way
  else way.dropLast

def stepTo (f : Folder) (spot : Spot) (name : String) : Except Denied Spot :=
  match spot with
  | .file _ => .error .notFolder
  | .folder way =>
    if name = "." then .ok spot
    else if name = ".." then .ok (.folder (above way))
    else if longestName < name.utf8ByteSize then .error .nameTooLong
    else
      let way := way ++ [name]
      match f.file? way with
      | some octets => .ok (.file octets)
      | none => if f.isFolder way then .ok (.folder way) else .error .absent

/-- What is where the names of a path lead. -/
def follow (f : Folder) (path : String) (names : List String) : Except Denied Spot :=
  if '\x00' ∈ path.toList then .error .unusable
  else if longestPath < path.utf8ByteSize then .error .nameTooLong
  else names.foldlM f.stepTo (.folder (if path.startsWith "/" then ["/"] else []))

def read (f : Folder) (path : String) : Except Denied ByteArray := do
  match ← f.follow path (Path.names path) with
  | .file octets => pure octets
  | _ => .error .isFolder

def wayTo (f : Folder) (path : String) : Except Denied (List String) := do
  if path = "" then .error .absent
  else
    let names := (Path.parts path).filter (· != "")
    match ← f.follow path names.dropLast, names.getLast? with
    | .file _, _ => .error .notFolder
    | .folder _, none => .error .isFolder
    | .folder way, some name =>
      if name = "." ∨ name = ".." ∨ path.endsWith "/" ∨ f.isFolder (way ++ [name]) then
        .error .isFolder
      else if longestName < name.utf8ByteSize then .error .nameTooLong
      else pure (way ++ [name])

def write (f : Folder) (way : List String) (octets : ByteArray) : Folder :=
  if way = sink then f else { f with files := f.files.put way octets }

end Folder

end Fabula
