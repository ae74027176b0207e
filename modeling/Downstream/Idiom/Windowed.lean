import Downstream.Idiom.Cursor

/-!
Idioms in two parts: an anchor, and a declaration that begins within a window behind the anchor's
end. The first declaration in the window counts.
-/
namespace Downstream

structure Windowed where
  anchor : Cursor → Option Cursor
  window : Nat
  declaration : Cursor → Option Capture

namespace Windowed

/-- The first declaration that begins at the place or at most `window` characters behind it. -/
def firstDeclaration (declaration : Cursor → Option Capture) :
    (window taken : Nat) → List Char → Option Capture
  | 0, taken, cs => declaration ⟨taken, cs⟩
  | _, taken, [] => declaration ⟨taken, []⟩
  | window + 1, taken, c :: cs =>
    match declaration ⟨taken, c :: cs⟩ with
    | some found => some found
    | none => firstDeclaration declaration window (taken + 1) cs

def matchAt (idiom : Windowed) (cs : List Char) : Option Capture := do
  let anchored ← idiom.anchor (.start cs)
  firstDeclaration idiom.declaration idiom.window anchored.taken anchored.rest

@[inline]
def memberDeclaration (visibility : String) (suffixes : List String) (place : Cursor) :
    Option Capture := do
  let place ← place.passText visibility
  let place ← place.passSomeBlanks
  let (typeName, place) ← place.readSuffixed suffixes
  let place ← place.passSomeBlanks
  let (_, place) ← place.readWord
  return place.capture typeName

@[inline]
def wholeAnnotation (mark : String) (place : Cursor) : Option Cursor := do
  let place ← place.passText mark
  if place.atWordEnd then some place else none

def providerMethod : Windowed where
  anchor := Cursor.passText "@Provides"
  window := 200
  declaration := memberDeclaration "public" ["Client", "Service", "Lambda", "Authority"]

def beanMethod : Windowed where
  anchor := wholeAnnotation "@Bean"
  window := 200
  declaration := memberDeclaration "public" ["Client", "Service"]

def injectedField : Windowed where
  anchor := wholeAnnotation "@Autowired"
  window := 200
  declaration := memberDeclaration "private" ["Client", "Service"]

def newBuilder (place : Cursor) : Option Cursor := do
  let place ← place.passText "new"
  let place ← place.passSomeBlanks
  place.passText "ClientBuilder()"

def remoteClass (place : Cursor) : Option Capture := do
  let place ← place.passText ".remoteOf("
  let (typeName, place) ← place.readWord
  let place ← place.passText ".class)"
  return place.capture typeName

def builderCall : Windowed where
  anchor := newBuilder
  window := 100
  declaration := remoteClass

end Windowed

end Downstream
