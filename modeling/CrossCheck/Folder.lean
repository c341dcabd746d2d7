import CrossCheck.Path

/-!
The files and directories that a program sees, by their absolute paths, and what stands in the way
of a file that is to be written.
-/

namespace CrossCheck

/-- What a file holds. -/
inductive Content where
  | text (s : String)
  /-- Bytes that are no text. -/
  | bytes (bs : List UInt8)
deriving DecidableEq

structure Folder where
  /-- Where relative paths start. -/
  working : Path
  files : List (Path × Content)
  directories : List Path

namespace Folder

/-- What is found under a path. -/
inductive Place where
  | missing
  | directory
  | file (content : Content)
  /-- No file can have such a name. -/
  | tooLong
deriving DecidableEq

/-- Why a file cannot be written. -/
inductive Obstacle where
  /-- A directory is where the file belongs. -/
  | directory
  /-- A file is where its directory belongs. -/
  | fileForDirectory
  /-- A file is further up. -/
  | fileOnTheWay
  | nameTooLong
  /-- A name holds the null character. -/
  | noName
deriving DecidableEq

def empty (working : Path) : Folder := ⟨working, [], []⟩

variable (f : Folder)

/-- What lies at an absolute path in which nothing is to be taken back.  The directories above
the working directory are there too. -/
def place (p : Path) : Place :=
  match f.files.lookup p with
  | some content => .file content
  | none =>
    if f.directories.contains p ||
        (p.root = f.working.root && p.parts.isPrefixOf f.working.parts) then
      .directory
    else .missing

/-- The longest name of a file, and the longest path, in bytes. -/
def longestName : Nat := 255

def longestPath : Nat := 4095

/-- Goes down the parts of a path.  Something can be found in a directory only. -/
def walk (p : Path) : List String → Place
  | [] => f.place p
  | part :: parts =>
    if f.place p ≠ .directory then .missing
    else if part = ".." then walk p.parent parts
    else if longestName < part.utf8ByteSize then .tooLong
    else walk (p.join ⟨0, [part]⟩) parts

def find (p : Path) : Place :=
  if longestPath < p.text.utf8ByteSize then .tooLong
  else if p.isAbsolute then f.walk ⟨1, []⟩ p.parts
  else f.walk f.working p.parts

/-- What stands in the way of a directory that is to be made, from a directory on. -/
def obstacleFrom? (p : Path) : List String → Option Obstacle
  | [] => none
  | part :: parts =>
    if longestName < part.utf8ByteSize then some .nameTooLong
    else match f.place (p.join ⟨0, [part]⟩) with
      | .file _ => some (if parts.isEmpty then .fileForDirectory else .fileOnTheWay)
      | _ => obstacleFrom? (p.join ⟨0, [part]⟩) parts

/-- What stands in the way of a file; the directories above it are made. -/
def obstacle? (p : Path) : Option Obstacle :=
  let target := Path.resolve f.working p
  if !p.isNameable then some .noName
  else
    (f.obstacleFrom? ⟨target.root, []⟩ target.parts.dropLast).or
      (match f.walk ⟨target.root, []⟩ target.parts with
        | .directory => some .directory
        | .tooLong => some .nameTooLong
        | _ => none)

/-- The text in a file. -/
def read? (p : Path) : Option String :=
  match f.find p with
  | .file (.text s) => some s
  | _ => none

/-- The directories on the way to a path, also those that are left again. -/
def directoriesOn (p : Path) : List Path :=
  let joined := f.working.join p
  (List.range joined.parts.length).map fun n =>
    { joined with parts := Path.collapse (joined.parts.take n) }

/-- The file of a path holds this from now on; the directories on the way are made. -/
def write (p : Path) (content : Content) : Folder :=
  let target := Path.resolve f.working p
  { f with
    files := (target, content) :: f.files.filter fun (q, _) => q ≠ target
    directories := f.directories ++ f.directoriesOn p }

/-- A path is a directory from now on. -/
def makeDirectory (p : Path) : Folder :=
  { f with directories := f.directories ++ Path.resolve f.working p :: f.directoriesOn p }

end Folder
end CrossCheck
