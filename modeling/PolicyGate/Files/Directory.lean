import PolicyGate.Data.StringMap
import PolicyGate.Text.Bytes
/-! # Directories

A working directory, seen through its regular files. A path leads from it step by step: a step `.` and a
doubled slash stay where they are, `..` leads one folder up, and a slash at the start leads to the root. -/

namespace PolicyGate

/-- The regular files of a working directory, by path, and folders in which files can be made. -/
structure Directory where
  files : Data.StringMap Bytes := .empty
  folders : List String := []

inductive FileFault
  | missing
  | notFolder
  | folder
  | longName
  | zeroInPath
  | notText
deriving DecidableEq, Repr

def FileFault.message : FileFault → String
  | missing => "No such file or directory (os error 2)"
  | notFolder => "Not a directory (os error 20)"
  | folder => "Is a directory (os error 21)"
  | longName => "File name too long (os error 36)"
  | zeroInPath => "file name contained an unexpected NUL byte"
  | notText => "stream did not contain valid UTF-8"

namespace Directory

/-- The path of a place, which is given by its steps, the innermost first. The working directory has no
steps; a step `..` stands for a folder above it, and the empty step for the root. -/
def pathOf (place : List String) : String :=
  String.intercalate "/" place.reverse

def above : List String → List String
  | [] => [".."]
  | ".." :: rest => ".." :: ".." :: rest
  | [""] => [""]
  | _ :: rest => rest

def start (path : String) : List String :=
  if path.startsWith "/" then [""] else []

def afterStep (place : List String) (step : String) : List String :=
  if step = "" ∨ step = "." then place else if step = ".." then above place else step :: place

def shortest (path : String) : String :=
  pathOf ((path.splitOn "/").foldl afterStep (start path))

def foldersOn (path : String) : List String :=
  let steps := path.splitOn "/"
  (List.range steps.length).map fun n => pathOf ((steps.take n).foldl afterStep (start path))

/-- There is a folder at a place. A file is in a folder, which is in a folder in turn; the folders above the
working directory are there too. -/
def isFolder (d : Directory) (place : List String) : Bool :=
  let within (path : String) : Bool := path.startsWith (pathOf place ++ "/")
  (place.all fun step => step = "" ∨ step = "..") || d.folders.contains (pathOf place) ||
    d.folders.any within || d.files.entries.any fun (path, _) => within path

inductive Spot
  | file (content : Bytes)
  | folder
  | free
deriving DecidableEq, Repr

def longestName : Nat := 255

def longestPath : Nat := 4095

/-- What steps from a folder lead to. Every step but the last must lead to a folder. -/
def follow (d : Directory) (place : List String) : List String → Except FileFault Spot
  | [] => .ok .folder
  | step :: rest =>
    let next := afterStep place step
    if longestName < step.utf8ByteSize then .error .longName
    else if d.isFolder next then d.follow next rest
    else
      match d.files.get? (pathOf next), rest with
      | some content, [] => .ok (.file content)
      | some _, _ :: _ => .error .notFolder
      | none, [] => .ok .free
      | none, _ :: _ => .error .missing

def find (d : Directory) (path : String) : Except FileFault Spot :=
  if path = "" then .error .missing
  else if path.contains '\x00' then .error .zeroInPath
  else if longestPath < path.utf8ByteSize then .error .longName
  else d.follow (start path) (path.splitOn "/")

def read (d : Directory) (path : String) : Except FileFault Bytes := do
  match ← d.find path with
  | .file content => return content
  | .folder => throw .folder
  | .free => throw .missing

def readText (d : Directory) (path : String) : Except FileFault String := do
  match Text.ofBytes? (← d.read path) with
  | some text => return text
  | none => throw .notText

def folderSize : Nat := 4096

def sizeOf (d : Directory) (path : String) : Except FileFault Nat := do
  match ← d.find path with
  | .file content => return content.length
  | .folder => return folderSize
  | .free => throw .missing

def has (d : Directory) (path : String) : Bool :=
  (d.sizeOf path).isOk

def isWritable (d : Directory) (path : String) : Bool :=
  match d.find path with
  | .ok (.file _) | .ok .free => true
  | .ok .folder | .error _ => false

def write (d : Directory) (path : String) (content : Bytes) : Directory :=
  { d with files := d.files.set (shortest path) fun _ => content }

end Directory
end PolicyGate
