import CommandBridge.Failure
import CommandBridge.Files.Path
import CommandBridge.Text.Utf8

/-!
# CommandBridge.Files.Tree

The files below the working directory.  A tree holds directories and regular
files under normalized paths.  An operation on a path that cannot be followed,
or on an entry of the wrong sort, fails with the system error of that case and
leaves the tree as it is.

Links are left out, and so are permissions: an entry is what its path leads to, and nothing is
forbidden.
-/

namespace CommandBridge

/-- What a path can lead to. -/
inductive Entry where
  | directory
  | file (bytes : List UInt8)
  deriving DecidableEq, Repr

/-- The entries below the working directory, each path once. -/
structure FileTree where
  entries : List (Path × Entry) := []
  deriving DecidableEq, Repr

namespace FileTree

/-- The system errors that files give. -/
inductive FileError where
  | notFound
  | notDirectory
  | isDirectory
  | exists
  | nameTooLong
  deriving DecidableEq, Repr

/-- The number of a file error. -/
def FileError.code : FileError → Nat
  | .notFound => 2
  | .exists => 17
  | .notDirectory => 20
  | .isDirectory => 21
  | .nameTooLong => 36

/-- The description of a file error. -/
def FileError.description : FileError → String
  | .notFound => "No such file or directory"
  | .exists => "File exists"
  | .notDirectory => "Not a directory"
  | .isDirectory => "Is a directory"
  | .nameTooLong => "File name too long"

/-- The failure of an operation on a path. -/
def FileError.at (e : FileError) (p : Path) : Failure :=
  .fault (.ofFile e.code e.description p.toString)

/-- The failure of an operation on two paths. -/
def FileError.between (e : FileError) (p q : Path) : Failure :=
  .fault ⟨.system, [.nat e.code, .string e.description, .string p.toString, .null,
    .string q.toString]⟩

/-- The entry of a normalized path; the working directory itself is one. -/
def entry? (t : FileTree) (p : Path) : Option Entry :=
  if p.parts.isEmpty then some .directory
  else (t.entries.find? fun e => e.1 = p).map (·.2)

/-- The longest name a file system takes, in bytes. -/
def maxNameBytes : Nat := 255

/-- Follows the parts of a path from a directory to the last one, which need not be there. -/
def follow (t : FileTree) (done : Path) : List String → Except FileError Path
  | [] => .ok done
  | part :: rest =>
    if maxNameBytes < part.utf8ByteSize then .error .nameTooLong
    else
      let here := (Path.mk (done.parts ++ [part])).normalize
      if rest.isEmpty then .ok here
      else
        match t.entry? here with
        | some .directory => follow t here rest
        | some (.file _) => .error .notDirectory
        | none => .error .notFound

/-- The normalized path that a path leads to. -/
def resolve (t : FileTree) (p : Path) : Except FileError Path := t.follow ⟨[]⟩ p.parts

/-- The tree with an entry at a normalized path. -/
def set (t : FileTree) (p : Path) (e : Entry) : FileTree :=
  ⟨(p, e) :: t.entries.filter fun x => x.1 ≠ p⟩

/-- The tree without the entry at a normalized path. -/
def erase (t : FileTree) (p : Path) : FileTree := ⟨t.entries.filter fun x => x.1 ≠ p⟩

/-- Makes a directory and those above it. -/
def makeDirs (t : FileTree) (p : Path) : Except Failure FileTree :=
  go t ⟨[]⟩ p.parts
where
  /-- Makes the directories on the way down from `done`. -/
  go (t : FileTree) (done : Path) : List String → Except Failure FileTree
    | [] => .ok t
    | part :: rest =>
      let here := (Path.mk (done.parts ++ [part])).normalize
      match t.entry? here with
      | some .directory => go t here rest
      | some (.file _) =>
        .error ((if rest.isEmpty then FileError.exists else FileError.notDirectory).at p)
      | none => go (t.set here .directory) here rest

/-- The bytes of a file. -/
def read (t : FileTree) (p : Path) : Except Failure (List UInt8) :=
  match t.resolve p with
  | .error e => .error (e.at p)
  | .ok q =>
    match t.entry? q with
    | some (.file bytes) => .ok bytes
    | some .directory => .error (FileError.isDirectory.at p)
    | none => .error (FileError.notFound.at p)

/-- Writes a file, in place of what it held. -/
def write (t : FileTree) (p : Path) (bytes : List UInt8) : Except Failure FileTree :=
  match t.resolve p with
  | .error e => .error (e.at p)
  | .ok q =>
    match t.entry? q with
    | some .directory => .error (FileError.isDirectory.at p)
    | _ => .ok (t.set q (.file bytes))

/-- Gives a file another path, in place of the file that was there. -/
def rename (t : FileTree) (p q : Path) : Except Failure FileTree :=
  match t.resolve p, t.resolve q with
  | .error e, _ | _, .error e => .error (e.between p q)
  | .ok p', .ok q' =>
    match t.entry? p', t.entry? q' with
    | none, _ => .error (FileError.notFound.between p q)
    | some (.file _), some .directory => .error (FileError.isDirectory.between p q)
    | some .directory, some (.file _) => .error (FileError.notDirectory.between p q)
    | some e, _ => .ok ((t.erase p').set q' e)

/-- Removes a file. -/
def remove (t : FileTree) (p : Path) : Except Failure FileTree :=
  match t.resolve p with
  | .error e => .error (e.at p)
  | .ok q =>
    match t.entry? q with
    | some (.file _) => .ok (t.erase q)
    | some .directory => .error (FileError.isDirectory.at p)
    | none => .error (FileError.notFound.at p)

/-- Whether a text comes before another in code point order. -/
def before (a b : String) : Bool := !decide (b.toList < a.toList)

/-- The names in a directory that end with a suffix, in code point order. -/
def names (t : FileTree) (directory : Path) (suffix : String) : List String :=
  match t.resolve directory with
  | .error _ => []
  | .ok d =>
    (t.entries.filterMap fun e =>
      if e.1.parts.dropLast = d.parts && e.1.parts ≠ [] && suffix.toList.isSuffixOf e.1.name.toList
      then some e.1.name else none).mergeSort before

/-- The paths of all files, in code point order. -/
def files (t : FileTree) : List String :=
  (t.entries.filterMap fun e =>
    match e.2 with
    | .file _ => some e.1.toString
    | .directory => none).mergeSort before

/-- The paths of all directories, in code point order. -/
def directories (t : FileTree) : List String :=
  (t.entries.filterMap fun e =>
    match e.2 with
    | .directory => some e.1.toString
    | .file _ => none).mergeSort before

end FileTree

end CommandBridge
