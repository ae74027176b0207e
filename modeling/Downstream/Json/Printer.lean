import Downstream.Json.Basic
import Downstream.Number.Shortest
import Downstream.Text.Quoted

/-!
Writing JSON values, on one line or indented by two columns for each level. Only quotes, backslashes
and control characters are escaped; every other character stands for itself.
-/
namespace Downstream.Json

def escapeChar (c : Char) : List Char :=
  if c = '"' then ['\\', '"']
  else if c = '\\' then ['\\', '\\']
  else if c = '\n' then ['\\', 'n']
  else if c = '\r' then ['\\', 'r']
  else if c = '\t' then ['\\', 't']
  else if c = '\u0008' then ['\\', 'b']
  else if c = '\u000c' then ['\\', 'f']
  else if c.toNat < 0x20 then '\\' :: 'u' :: Text.hexDigits 4 c.toNat
  else [c]

def writeString (s : String) : List Char :=
  '"' :: s.toList.flatMap escapeChar ++ ['"']

def realText (bits : Nat) : String :=
  if Number.isFinite bits then Number.doubleText bits
  else if bits = Number.infinityBits then "Infinity"
  else if bits = Number.negateBits Number.infinityBits then "-Infinity"
  else "NaN"

def newLine (level : Nat) : List Char :=
  '\n' :: List.replicate (2 * level) ' '

mutual

def writeIndented (level : Nat) : Json → List Char
  | .null => "null".toList
  | .bool true => "true".toList
  | .bool false => "false".toList
  | .int value => (toString value).toList
  | .real bits => (realText bits).toList
  | .str value => writeString value
  | .arr [] => ['[', ']']
  | .arr (item :: items) =>
    '[' :: newLine (level + 1) ++ writeIndented (level + 1) item ++ writeItems (level + 1) items
      ++ newLine level ++ [']']
  | .obj [] => ['\x7b', '\x7d']
  | .obj ((key, value) :: members) =>
    '\x7b' :: newLine (level + 1) ++ writeString key ++ ':' :: ' '
      :: writeIndented (level + 1) value ++ writeMembers (level + 1) members
      ++ newLine level ++ ['\x7d']

def writeItems (level : Nat) : List Json → List Char
  | [] => []
  | item :: items => ',' :: newLine level ++ writeIndented level item ++ writeItems level items

def writeMembers (level : Nat) : List (String × Json) → List Char
  | [] => []
  | (key, value) :: members =>
    ',' :: newLine level ++ writeString key ++ ':' :: ' ' :: writeIndented level value
      ++ writeMembers level members

end

def indented (value : Json) : String :=
  String.ofList (writeIndented 0 value)

mutual

def compact : Json → String
  | .null => "null"
  | .bool true => "true"
  | .bool false => "false"
  | .int value => toString value
  | .real bits => realText bits
  | .str value => String.ofList (writeString value)
  | .arr items => "[" ++ ",".intercalate (compactItems items) ++ "]"
  | .obj members => "\x7b" ++ ",".intercalate (compactMembers members) ++ "\x7d"

def compactItems : List Json → List String
  | [] => []
  | item :: items => compact item :: compactItems items

def compactMembers : List (String × Json) → List String
  | [] => []
  | (key, value) :: members =>
    (String.ofList (writeString key) ++ ":" ++ compact value) :: compactMembers members

end

end Downstream.Json
