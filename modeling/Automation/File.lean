import Automation.Text.Quoted

/-!
# Files

The files that a process can read, by their paths. A path is walked name by name; empty names and
single dots lead nowhere, double dots one directory up.

## Main definitions

* `DiskPath` — a path in normal form.
* `Files`, `Files.read` — the files that can be read, and reading one of them.
* `FileFault` — why a file cannot be read.
-/

namespace Automation

/-- A path in normal form: the slashes in front and the names behind them. -/
structure DiskPath where
  root : String
  names : List String
  deriving DecidableEq, Repr

namespace DiskPath

/-- The path that a text spells. Two slashes in front are kept, more of them count as one. -/
def ofText (s : String) : DiskPath :=
  let root := match (s.toList.takeWhile (· = '/')).length with
    | 0 => ""
    | 2 => "//"
    | _ => "/"
  ⟨root, (s.splitOn "/").filter fun name => name ≠ "" && name ≠ "."⟩

/-- The text of a path; without root and names it is the directory of the process. -/
def text (path : DiskPath) : String :=
  if path.root = "" ∧ path.names = [] then "." else path.root ++ "/".intercalate path.names

end DiskPath

/-- What keeps a file from being read. -/
inductive FileFault.Cause where
  | absent
  | behindFile
  | isDirectory
  | nameTooLong
  deriving DecidableEq, Repr

/-- Why the file at a path cannot be read. -/
structure FileFault where
  cause : FileFault.Cause
  path : DiskPath
  deriving DecidableEq, Repr

/-- The number and the name of a cause. -/
def FileFault.Cause.title : FileFault.Cause → String
  | .absent => "[Errno 2] No such file or directory"
  | .behindFile => "[Errno 20] Not a directory"
  | .isDirectory => "[Errno 21] Is a directory"
  | .nameTooLong => "[Errno 36] File name too long"

/-- The message about a file that cannot be read. -/
def FileFault.message (fault : FileFault) : String :=
  fault.cause.title ++ ": " ++ Text.quoted fault.path.text

/-- The files that a process can read next to those of the system, with their contents. -/
structure Files where
  contents : List (DiskPath × String)

namespace Files

/-- The longest path, in bytes. -/
def maxPathBytes : Nat := 4095

/-- The longest name in a path, in bytes. -/
def maxNameBytes : Nat := 255

/-- The files that every system has. -/
def systemFiles : List (DiskPath × String) := [
  (.ofText "/dev/null", ""), (.ofText "/etc/passwd", "root:x:0:0:root:/root:/bin/sh\n")]

/-- The content at a path, if a file is there. -/
def content? (files : Files) (path : DiskPath) : Option String :=
  (files.contents ++ systemFiles).lookup path

/-- Whether a path leads through a file, as if it were a directory. -/
def leadsThroughFile (files : Files) (path : DiskPath) : Bool :=
  (List.range path.names.length).any fun n =>
    (files.content? { path with names := path.names.take n }).isSome

/-- The directories that every system has below its root. -/
def systemDirectories : List String := [
  "bin", "boot", "dev", "etc", "home", "lib", "media", "mnt", "opt", "proc", "root", "run", "sbin",
  "srv", "sys", "tmp", "usr", "var"]

/-- The directory where a walk stands: the root, one right below it, or that of the process or
above. -/
inductive Stand where
  | root
  | top
  | ofProcess
  deriving DecidableEq, Repr

/-- The directory above. -/
def Stand.up : Stand → Stand
  | .root | .top => .root
  | .ofProcess => .ofProcess

/-- Why walking the names from a directory ends at no file. -/
def walk (stand : Stand) : List String → FileFault.Cause
  | [] => .isDirectory
  | name :: rest =>
    if name = ".." then walk stand.up rest
    else if maxNameBytes < name.utf8ByteSize then .nameTooLong
    else if stand = .root ∧ name ∈ systemDirectories then walk .top rest
    else .absent

/-- The content of the file at a path. -/
def read (files : Files) (path : DiskPath) : Except FileFault String :=
  match files.content? path with
  | some text => .ok text
  | none =>
    if maxPathBytes < path.text.utf8ByteSize then .error ⟨.nameTooLong, path⟩
    else if files.leadsThroughFile path then .error ⟨.behindFile, path⟩
    else .error ⟨walk (if path.root = "" then .ofProcess else .root) path.names, path⟩

end Files

end Automation
