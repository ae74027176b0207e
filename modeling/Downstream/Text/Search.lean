/-!
Finding and cutting texts: occurrence inside another text, endings, and fields between separators.
-/
namespace Downstream.Text

def occursIn (part : List Char) : List Char → Bool
  | [] => part.isEmpty
  | c :: cs => part.isPrefixOf (c :: cs) || occursIn part cs

def mentions (s part : String) : Bool :=
  occursIn part.toList s.toList

def endsIn (ending cs : List Char) : Bool :=
  ending.isSuffixOf cs

def dropLast (n : Nat) (cs : List Char) : List Char :=
  cs.take (cs.length - n)

/-- The fields between separators: one more than there are separators, empty ones included. -/
def fields (separator : Char) : List Char → List (List Char)
  | [] => [[]]
  | c :: cs =>
    if c = separator then [] :: fields separator cs
    else
      match fields separator cs with
      | [] => [[c]]
      | field :: rest => (c :: field) :: rest

def splitAt (separator : Char) (s : String) : List String :=
  (fields separator s.toList).map String.ofList

/-- Everything after the last occurrence of `c`; the whole text where there is none. -/
def afterLast (c : Char) (cs : List Char) : List Char :=
  (cs.reverse.takeWhile (· != c)).reverse

def join (separator : String) (parts : List String) : String :=
  separator.intercalate parts

end Downstream.Text
