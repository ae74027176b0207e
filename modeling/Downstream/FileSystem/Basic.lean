import Downstream.FileSystem.Listing
import Downstream.FileSystem.PathText
import Downstream.FileSystem.Problem

/-!
A file system with a working directory: following paths through links, reading, writing, and the
real path behind a path.
-/
namespace Downstream

/-- A tree below the root, the working directory, the home directory, and the sizes that the
directories show by their real paths. -/
structure FileSystem where
  root : Listing
  workingDirectory : List String
  home : String
  directorySize : List String → Nat

namespace FileSystem

def maxComponent : Nat := 255

def maxPath : Nat := 4095

def maxLinks : Nat := 40

/-- Where a path leads: to an entry at a real path, or to a free name in a directory. A name with a
slash behind it that is no directory leads nowhere; it is told apart because no file can be made
under it. -/
inductive Destination where
  | found (path : List String) (entry : Entry)
  | free (directory : List String) (name : String)
  | noDirectory (problem : FileProblem)

def behindSlash : Except FileProblem Destination → Except FileProblem Destination
  | .error problem => .ok (.noDirectory problem)
  | found => found

/-- Follows components from a directory; `onLink` goes on behind a link with the directory and the
components still to follow. -/
def followWith (root : Listing)
    (onLink : List String → List String → Except FileProblem Destination) :
    (directory components : List String) → Except FileProblem Destination
  | directory, [] =>
    match root.at? directory with
    | some entry => .ok (.found directory entry)
    | none => .error .notFound
  | directory, part :: rest =>
    if part = "" || part = "." then followWith root onLink directory rest
    else if part = ".." then followWith root onLink directory.dropLast rest
    else
      let found :=
        if maxComponent < part.utf8ByteSize then .error .nameTooLong
        else
          match root.at? (directory ++ [part]) with
          | none => if rest.isEmpty then .ok (.free directory part) else .error .notFound
          | some (.file bytes) =>
            if rest.isEmpty then .ok (.found (directory ++ [part]) (.file bytes))
            else .error .notADirectory
          | some (.folder _) => followWith root onLink (directory ++ [part]) rest
          | some (.link target) =>
            onLink (if (PathText.ofString target).isAbsolute then [] else directory)
              (PathText.steps target ++ rest)
      if rest = [""] then behindSlash found else found

def followLinks (root : Listing) : (links : Nat) → (directory components : List String) →
    Except FileProblem Destination
  | 0 => followWith root fun _ _ => .error .tooManyLinks
  | links + 1 => followWith root (followLinks root links)

def destination (fs : FileSystem) (path : PathText) : Except FileProblem Destination :=
  if maxPath < path.toString.utf8ByteSize then .error .nameTooLong
  else
    followLinks fs.root maxLinks (if path.isAbsolute then [] else fs.workingDirectory)
      path.components

def lookup (fs : FileSystem) (path : PathText) : Except FileProblem (List String × Entry) := do
  match ← fs.destination path with
  | .found path entry => return (path, entry)
  | .free _ _ => .error .notFound
  | .noDirectory problem => .error problem

/-- Why a path has no real path: a link leads back to itself, the path holds a character that no
path can hold, or it begins at the home directory of a user who is not known or whose name cannot be
written in bytes. -/
inductive PathError where
  | linkLoop (path : String)
  | nullCharacter
  | unknownHome
  | unencodableUser (halves : Text.Unencodable)
  deriving DecidableEq, Repr

/-- The path in which a leading tilde stands for the home directory. Only the user's own one is
known. -/
def expandHome (fs : FileSystem) (path : PathText) : Except PathError PathText :=
  match path.slashes, path.components with
  | 0, first :: rest =>
    if first = "~" then .ok ((PathText.ofString fs.home).append ⟨0, rest⟩)
    else if !first.startsWith "~" then .ok path
    else if first.toList.contains '\u0000' then .error .nullCharacter
    else
      match Text.halves? (first.drop 1).toString with
      | some halves => .error (.unencodableUser halves)
      | none => .error .unknownHome
  | _, _ => .ok path

/-- What is known about a link while real paths are worked out: nothing but that it is being
followed, or where it leads. -/
abbrev KnownLinks := List (PathText × Option PathText)

/-- A real path in the making: the path so far, the links known, and whether a link led back to
itself. A path that began at the working directory stays relative until a link leads to the root. -/
structure RealPath where
  path : PathText
  known : KnownLinks
  looped : Bool

/-- Works out the real path of components behind a path. Names that lead nowhere are kept as they
are; from a link that leads back to itself on, so is everything. `entryAt` gives the entry at a path
that holds no links. -/
def realPathWith (entryAt : PathText → Option Entry)
    (onLink : PathText → PathText → KnownLinks → RealPath) :
    (path : PathText) → (components : List String) → (known : KnownLinks) → RealPath
  | path, [], known => ⟨path, known, false⟩
  | path, part :: rest, known =>
    if part = ".." then realPathWith entryAt onLink path.up rest known
    else
      let here := path.child part
      match entryAt here with
      | some (.link target) =>
        match known.lookup here with
        | some (some real) => realPathWith entryAt onLink real rest known
        | some none => ⟨here.append ⟨0, rest⟩, known, true⟩
        | none =>
          let behind := onLink path (PathText.ofString target) ((here, none) :: known)
          if behind.looped then ⟨behind.path.append ⟨0, rest⟩, behind.known, true⟩
          else
            realPathWith entryAt onLink behind.path rest ((here, some behind.path) :: behind.known)
      | _ => realPathWith entryAt onLink here rest known

def realPathLinks (entryAt : PathText → Option Entry) : (depth : Nat) →
    (path target : PathText) → (known : KnownLinks) → RealPath
  | 0, path, target, known => ⟨path.append target, known, true⟩
  | depth + 1, path, target, known =>
    let start := if target.isAbsolute then .absolute [] else path
    realPathWith entryAt (realPathLinks entryAt depth) start target.components known

/-- The real path of a path. Every link is followed at most once by its absolute path and once by
its relative one, which bounds the depth. -/
def realPath (fs : FileSystem) (path : PathText) : List String :=
  let entryAt (path : PathText) := fs.root.at? (path.collapse fs.workingDirectory)
  let depth := 2 * fs.root.linkCount + 2
  (realPathLinks entryAt depth ⟨0, []⟩ path []).path.collapse fs.workingDirectory

def resolve (fs : FileSystem) (path : PathText) : Except PathError (List String) :=
  if path.holdsNull then .error .nullCharacter
  else
    let real := fs.realPath path
    match fs.lookup (.absolute real) with
    | .error .tooManyLinks => .error (.linkLoop (PathText.absolute real).toString)
    | _ => .ok real

/-- Whether a path leads to an entry. A path that runs into a file, a circle or a missing name leads
nowhere; other problems are passed on. -/
def exists? (fs : FileSystem) (path : PathText) :
    Except FileProblem (Option (List String × Entry)) :=
  if path.holdsNull || path.holdsHalf then .ok none
  else
    match fs.lookup path with
    | .ok found => .ok (some found)
    | .error .nameTooLong => .error .nameTooLong
    | .error _ => .ok none

def sink : List String := ["dev", "null"]

def read (fs : FileSystem) (path : PathText) : Except FileProblem ByteArray := do
  match ← fs.lookup path with
  | (_, .file bytes) => return bytes
  | _ => .error .isADirectory

/-- Where a file may be opened for writing: the real path of its directory, its name, and the bytes
that it holds. -/
def writable (fs : FileSystem) (path : PathText) :
    Except FileProblem (List String × String × ByteArray) := do
  match ← fs.destination path with
  | .found path (.file bytes) => return (path.dropLast, path.getLast?.getD "", bytes)
  | .found _ _ => .error .isADirectory
  | .free directory name => return (directory, name, .empty)
  | .noDirectory _ => .error .isADirectory

def setFile (fs : FileSystem) (directory : List String) (name : String) (bytes : ByteArray) :
    FileSystem :=
  if directory ++ [name] = sink then fs
  else { fs with root := fs.root.updateAt (·.put name (.file bytes)) directory }

def write (fs : FileSystem) (path : PathText) (bytes : ByteArray) :
    Except FileProblem FileSystem := do
  let (directory, name, _) ← fs.writable path
  return fs.setFile directory name bytes

def append (fs : FileSystem) (real : List String) (bytes : ByteArray) : FileSystem :=
  match fs.root.at? real with
  | some (.file old) => fs.setFile real.dropLast (real.getLast?.getD "") (old ++ bytes)
  | _ => fs

def makeDirectories (fs : FileSystem) (components : List String) : FileSystem :=
  let step (done : List String × FileSystem) (part : String) : List String × FileSystem :=
    let (directory, fs) := done
    match fs.lookup (.absolute (directory ++ [part])) with
    | .ok (real, _) => (real, fs)
    | .error _ =>
      (directory ++ [part],
        { fs with root := fs.root.updateAt (·.put part (.folder .empty)) directory })
  (components.foldl step ([], fs)).2

def makeLink (fs : FileSystem) (path : List String) (target : String) : FileSystem :=
  match fs.lookup (.absolute path.dropLast) with
  | .ok (real, .folder _) =>
    { fs with root := fs.root.updateAt (·.put (path.getLast?.getD "") (.link target)) real }
  | _ => fs

/-- Removes the entry at a path, a link itself and a directory with all it holds; none where there
is no entry. -/
def remove? (fs : FileSystem) (path : List String) : Option FileSystem :=
  match fs.lookup (.absolute path.dropLast), path.getLast? with
  | .ok (real, .folder inside), some name =>
    (inside.find? name).map fun _ => { fs with root := fs.root.updateAt (·.erase name) real }
  | _, _ => none

end FileSystem

end Downstream
