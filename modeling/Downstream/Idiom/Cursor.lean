import Downstream.Text.Alphanumeric
import Downstream.Text.Blank
import Downstream.Text.Search

/-!
A place in a text during a match: how many characters the match has passed, and the text that is
left. Each step passes something definite or fails, so no step is ever taken back.
-/
namespace Downstream

structure Cursor where
  taken : Nat
  rest : List Char
  deriving DecidableEq, Repr

namespace Cursor

def start (cs : List Char) : Cursor := ⟨0, cs⟩

def passRun (p : Char → Bool) (place : Cursor) : Cursor :=
  let run := place.rest.takeWhile p
  ⟨place.taken + run.length, place.rest.drop run.length⟩

def behind? : (front cs : List Char) → Option (List Char)
  | [], cs => some cs
  | f :: front, c :: cs => if f = c then behind? front cs else none
  | _ :: _, [] => none

@[inline]
def passText (text : String) (place : Cursor) : Option Cursor :=
  (behind? text.toList place.rest).map fun rest => ⟨place.taken + text.length, rest⟩

def passBlanks (place : Cursor) : Cursor :=
  place.passRun Text.isBlank

def passSomeBlanks (place : Cursor) : Option Cursor :=
  if place.rest.head?.any Text.isBlank then some place.passBlanks else none

def readRun (p : Char → Bool) (place : Cursor) : Option (List Char × Cursor) :=
  let run := place.rest.takeWhile p
  if run.isEmpty then none else some (run, ⟨place.taken + run.length, place.rest.drop run.length⟩)

def readWord (place : Cursor) : Option (List Char × Cursor) :=
  place.readRun Text.isWord

def atWordEnd (place : Cursor) : Bool :=
  !place.rest.head?.any Text.isWord

end Cursor

def hasTypeSuffix (suffixes : List String) (word : List Char) : Bool :=
  suffixes.any fun suffix => Text.endsIn suffix.toList word && suffix.length < word.length

def Cursor.readSuffixed (suffixes : List String) (place : Cursor) :
    Option (List Char × Cursor) := do
  let (word, next) ← place.readWord
  if hasTypeSuffix suffixes word then some (word, next) else none

structure Capture where
  typeName : List Char
  length : Nat
  deriving DecidableEq, Repr

def Cursor.capture (place : Cursor) (typeName : List Char) : Capture :=
  ⟨typeName, place.taken⟩

end Downstream
