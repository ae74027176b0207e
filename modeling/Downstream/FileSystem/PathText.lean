import Downstream.Text.Encoding
import Downstream.Text.Search

/-!
Paths as text: the slashes in front, and the components between slashes. Empty components and single
dots say nothing and are dropped; two dots stay, because what they stand for depends on links.
-/
namespace Downstream

/-- A path taken apart. `slashes` counts the slashes in front: none for a relative path, else one,
or two where exactly two were written. -/
structure PathText where
  slashes : Nat
  components : List String
  deriving DecidableEq, Repr

namespace PathText

def ofString (text : String) : PathText :=
  let cs := text.toList
  let lead := (cs.takeWhile (· == '/')).length
  let slashes := if lead = 2 then 2 else min lead 1
  ⟨slashes, (Text.splitAt '/' text).filter fun part => part != "" && part != "."⟩

/-- The components of a link's target as they are followed. A slash or a dot at the end asks for a
directory, so it counts as one more component, an empty one for a slash. -/
def steps (target : String) : List String :=
  let fields := Text.splitAt '/' target
  let ending :=
    if (fields.filter (· != "")).getLast? = some "." then ["."]
    else if fields.getLast? = some "" then [""]
    else []
  (ofString target).components ++ ending

def isAbsolute (p : PathText) : Bool :=
  p.slashes != 0

/-- The text of the path; a relative path without components is written as a dot. -/
def toString (p : PathText) : String :=
  let body := Text.join "/" p.components
  if p.slashes = 0 && p.components.isEmpty then "."
  else String.ofList (List.replicate p.slashes '/') ++ body

def name (p : PathText) : String :=
  p.components.getLast?.getD ""

def parent (p : PathText) : PathText :=
  { p with components := p.components.dropLast }

def append (p q : PathText) : PathText :=
  if q.isAbsolute then q else { p with components := p.components ++ q.components }

def child (p : PathText) (name : String) : PathText :=
  { p with components := p.components ++ [name] }

/-- The directory above a path that holds no links; above the working directory it is written with
two dots, and above the root there is none. -/
def up (p : PathText) : PathText :=
  match p.components.getLast? with
  | none => if p.isAbsolute then p else p.child ".."
  | some name => if name = ".." then p.child ".." else p.parent

def holdsNull (p : PathText) : Bool :=
  p.components.any fun part => part.toList.contains '\u0000'

/-- Whether the text holds a half. Every name in a file system here is a string, so such a path leads
nowhere. -/
def holdsHalf (p : PathText) : Bool :=
  p.components.any fun part => part.toList.any Text.isHalf

def absolute (components : List String) : PathText :=
  ⟨1, components⟩

/-- The components from the root once two dots have taken back the component before them, links not
looked at; `base` is where a relative path starts. -/
def collapse (base : List String) (p : PathText) : List String :=
  let start := if p.isAbsolute then [] else base
  p.components.foldl (fun done part => if part = ".." then done.dropLast else done ++ [part]) start

end PathText

end Downstream
