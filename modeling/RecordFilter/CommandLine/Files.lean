import RecordFilter.Text.Quoted

/-!
# Files

What the program has to know of the file system to open its log: which paths are directories and
which are files, and what it may not do with them. Opening a log makes the directories above it as
far as they are missing. Nothing is read or written here; the functions say what will come of it.
-/

namespace RecordFilter.CommandLine

open Text (quoted)

/-- A reason of the system's own to refuse something: its number and its wording. -/
structure Denial where
  number : Nat
  wording : String
  deriving DecidableEq, Repr

/-- Why a path cannot be made or opened. -/
inductive FileError
  | notFound (path : String)
  | occupied (path : String)
  | notDirectory (path : String)
  | isDirectory (path : String)
  | nameTooLong (path : String)
  | denied (reason : Denial) (path : String)
  deriving DecidableEq, Repr

namespace FileError

/-- The number of the cause, its wording, and the path. -/
def parts : FileError → Nat × String × String
  | notFound path => (2, "No such file or directory", path)
  | occupied path => (17, "File exists", path)
  | notDirectory path => (20, "Not a directory", path)
  | isDirectory path => (21, "Is a directory", path)
  | nameTooLong path => (36, "File name too long", path)
  | denied reason path => (reason.number, reason.wording, path)

def message (e : FileError) : String :=
  let (number, wording, path) := e.parts
  s!"[Errno {number}] {wording}: {quoted path}"

end FileError

/-- A path: what it starts with, and its parts. It starts with nothing, or with a slash if it starts
at the root; two slashes are the root too, but are kept. -/
structure Path where
  root : String
  parts : List String
  deriving DecidableEq, Repr

namespace Path

/-- The slashes that a path starts with. More than two count as one. -/
def rootOf (s : String) : String :=
  match (s.toList.takeWhile (· = '/')).length with
  | 0 => ""
  | 2 => "//"
  | _ => "/"

/-- Empty parts and single points are left out. -/
def ofString (s : String) : Path :=
  ⟨rootOf s, (s.splitOn "/").filter fun p => p != "" && p != "."⟩

def isAbsolute (p : Path) : Bool := p.root != ""

def toString (p : Path) : String :=
  if p.isAbsolute || !p.parts.isEmpty then p.root ++ "/".intercalate p.parts else "."

def parent (p : Path) : Path := { p with parts := p.parts.dropLast }

/-- Follow one path from another. -/
def join (p q : Path) : Path := if q.isAbsolute then q else { p with parts := p.parts ++ q.parts }

/-- Cancel each pair of points with the part before it. The first argument is the path so far, last
part first. -/
def cancelUp : List String → List String → List String
  | done, [] => done.reverse
  | done, ".." :: rest => cancelUp done.tail rest
  | done, part :: rest => cancelUp (part :: done) rest

/-- The absolute path without pairs of points. -/
def resolved (cwd p : Path) : Path := let q := cwd.join p; { q with parts := cancelUp [] q.parts }

end Path

/-- The places that a walk along the parts comes by. -/
def Path.places : List String → List String → List (List String)
  | here, [] => [here]
  | here, ".." :: rest => here :: places here.dropLast rest
  | here, part :: rest => here :: places (here ++ [part]) rest

/-- What may be denied at a place: to make a directory there, to write to a file or to read it. -/
inductive Access
  | make
  | write
  | read
  deriving DecidableEq, Repr

/-- The directories and files there are, by their absolute paths, the working directory, and what
the system denies the program, be it for want of rights or of room. -/
structure FileSystem where
  directories : List (List String)
  files : List (List String)
  workingDirectory : Path
  denies : Access → List String → Option Denial

/-- What is found at the end of a path. -/
inductive Found
  | directory
  | file
  | missing
  | blocked
  | nameTooLong
  deriving DecidableEq, Repr

namespace FileSystem

/-- The most bytes that a part of a path may have. -/
def partLimit : Nat := 255

/-- A path must have fewer bytes than this. -/
def pathLimit : Nat := 4096

/-- Is the text too long for a path? -/
def isTooLong (path : String) : Bool := pathLimit ≤ path.utf8ByteSize

/-- Walk along the parts from a directory. -/
def walk (fs : FileSystem) : List String → List String → Found
  | _, [] => .directory
  | here, ".." :: rest => fs.walk here.dropLast rest
  | here, part :: rest =>
    let there := here ++ [part]
    if part.utf8ByteSize > partLimit then .nameTooLong
    else if fs.directories.contains there then fs.walk there rest
    else if fs.files.contains there then (if rest.isEmpty then .file else .blocked)
    else .missing

/-- What is found at a path. One that is too long as a whole is not walked along. -/
def find (fs : FileSystem) (p : Path) : Found :=
  if isTooLong p.toString then .nameTooLong else fs.walk [] (fs.workingDirectory.join p).parts

/-- The place that a path leads to, if all directories on the way are there. -/
def placeOf (fs : FileSystem) (p : Path) : List String := (Path.resolved fs.workingDirectory p).parts

/-- Make a directory in one that is there. -/
def makeDirectory (fs : FileSystem) (p : Path) : Except FileError FileSystem :=
  match fs.denies .make (fs.placeOf p) with
  | some reason => .error (.denied reason p.toString)
  | none => .ok { fs with directories := fs.placeOf p :: fs.directories }

/-- Make a directory and the ones above it, as far as they are missing. -/
def makeDirectories : Nat → FileSystem → Path → Except FileError FileSystem
  | 0, _, p => .error (.notFound p.toString)
  | fuel + 1, fs, p =>
    match fs.find p with
    | .directory => .ok fs
    | .file => .error (.occupied p.toString)
    | .blocked => .error (.notDirectory p.toString)
    | .nameTooLong => .error (.nameTooLong p.toString)
    | .missing =>
      if fs.find p.parent = .directory then fs.makeDirectory p
      else do
        let fs ← makeDirectories fuel fs p.parent
        makeDirectories fuel fs p

/-- Open a file to write to, where there is one or can be one. -/
def openTarget (fs : FileSystem) (target : Path) : Except FileError Path :=
  match fs.denies .write target.parts with
  | some reason => .error (.denied reason target.toString)
  | none => .ok target

/-- Open a file to write to: its absolute path, or why it cannot be opened. -/
def openFile (fs : FileSystem) (p : Path) : Except FileError Path := do
  let fs ← makeDirectories (p.parts.length + 2) fs p.parent
  let target := Path.resolved fs.workingDirectory p
  match fs.find target with
  | .directory => .error (.isDirectory target.toString)
  | .blocked => .error (.notDirectory target.toString)
  | .nameTooLong => .error (.nameTooLong target.toString)
  | .missing =>
    if fs.find target.parent = .directory then fs.openTarget target
    else .error (.notFound target.toString)
  | .file => fs.openTarget target

/-- A file may be there that the program may not read. -/
def hidesFile (fs : FileSystem) (p : Path) : Bool :=
  fs.find p = .file && (fs.denies .read (fs.placeOf p)).isSome

end FileSystem

end RecordFilter.CommandLine
