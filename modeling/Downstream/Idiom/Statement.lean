import Downstream.Idiom.Cursor

/-!
Idioms that are one statement: a keyword that begins a word, and a fixed order of words and marks
with white space between them. Every part is a longest run, so a statement reads in one way only.
-/
namespace Downstream.Statement

def isDotted (c : Char) : Bool :=
  Text.isWord c || c == '.'

def lastSegment? (dotted : List Char) : Option (List Char) :=
  let segment := Text.afterLast '.' dotted
  if segment.length + 1 < dotted.length then some segment else none

/-- A statement such as `import a.b.FooClient;`. -/
def qualifiedImport (cs : List Char) : Option Capture := do
  let place ← (Cursor.start cs).passText "import"
  let place ← place.passSomeBlanks
  let (dotted, place) ← place.readRun isDotted
  let typeName ← lastSegment? dotted
  if hasTypeSuffix ["Client", "Service", "Lambda", "Authority", "Resource"] typeName then
    let place ← place.passBlanks.passText ";"
    return place.capture typeName
  else none

/-- A statement such as `from a.b import FooClient`. -/
def fromImport (cs : List Char) : Option Capture := do
  let place ← (Cursor.start cs).passText "from"
  let place ← place.passSomeBlanks
  let (_, place) ← place.readRun isDotted
  let place ← place.passSomeBlanks
  let place ← place.passText "import"
  let place ← place.passSomeBlanks
  let (typeName, place) ← place.readSuffixed ["Client", "Service"]
  return place.capture typeName

/-- A statement that begins like `self.foo = FooClient(`. -/
def clientAttribute (cs : List Char) : Option Capture := do
  let place ← (Cursor.start cs).passText "self."
  let (_, place) ← place.readWord
  let place ← place.passBlanks.passText "="
  let (typeName, place) ← place.passBlanks.readSuffixed ["Client"]
  let place ← place.passText "("
  return place.capture typeName

def passOptional (mark : String) (place : Cursor) : Cursor :=
  (place.passText mark).getD place

/-- A statement that begins like `import { FooClient } from`. -/
def namedImport (cs : List Char) : Option Capture := do
  let place ← (Cursor.start cs).passText "import"
  let place ← place.passSomeBlanks
  let place := (passOptional "\x7b" place).passBlanks
  let (typeName, place) ← place.readSuffixed ["Client", "Service"]
  let afterBlanks := place.passBlanks
  let place ←
    match afterBlanks.passText "\x7d" with
    | some closed => closed.passSomeBlanks
    | none => place.passSomeBlanks
  let place ← place.passText "from"
  if place.atWordEnd then some (place.capture typeName) else none

end Downstream.Statement
