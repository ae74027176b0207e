import Downstream.Number.Decimal
import Downstream.Text.Encoding

/-!
Values of the JSON data format. An object keeps its members in the order written.
-/
namespace Downstream

/-- A JSON value. A number that is no integer is a double, given by its bits; it may be infinite or
no number at all, for which the format has no text but its readers have words. -/
inductive Json where
  | null
  | bool (value : Bool)
  | int (value : Int)
  | real (bits : Nat)
  | str (value : String)
  | arr (items : List Json)
  | obj (members : List (String × Json))
  deriving Repr

namespace Json

mutual

def isFinite : Json → Bool
  | .real bits => Number.isFinite bits
  | .arr items => areFinite items
  | .obj members => membersAreFinite members
  | _ => true

def areFinite : List Json → Bool
  | [] => true
  | item :: items => isFinite item && areFinite items

def membersAreFinite : List (String × Json) → Bool
  | [] => true
  | (_, value) :: members => isFinite value && membersAreFinite members

end

mutual

/-- The halves in the first text value that holds any; the names of members are left out. -/
def halves? : Json → Option Text.Unencodable
  | .str value => Text.halves? value
  | .arr items => itemHalves? items
  | .obj members => memberHalves? members
  | _ => none

def itemHalves? : List Json → Option Text.Unencodable
  | [] => none
  | item :: items => (halves? item).or (itemHalves? items)

def memberHalves? : List (String × Json) → Option Text.Unencodable
  | [] => none
  | (_, value) :: members => (halves? value).or (memberHalves? members)

end

def setMember (key : String) (value : Json) : List (String × Json) → List (String × Json)
  | [] => [(key, value)]
  | (other, old) :: members =>
    if other = key then (other, value) :: members else (other, old) :: setMember key value members

mutual

/-- The value in which no object names a member twice: the last value counts, in the first place. -/
def withoutRepeats : Json → Json
  | .arr items => .arr (itemsWithoutRepeats items)
  | .obj members => .obj (membersWithoutRepeats [] members)
  | value => value

def itemsWithoutRepeats : List Json → List Json
  | [] => []
  | item :: items => withoutRepeats item :: itemsWithoutRepeats items

def membersWithoutRepeats (done : List (String × Json)) : List (String × Json) →
    List (String × Json)
  | [] => done
  | (key, value) :: members =>
    membersWithoutRepeats (setMember key (withoutRepeats value) done) members

end

def members? : Json → Option (List (String × Json))
  | .obj members => some members
  | _ => none

/-- The member of that name; of several the last one counts. -/
def get? (key : String) : Json → Option Json
  | .obj members => (members.reverse.find? fun member => member.1 == key).map (·.2)
  | _ => none

def str? : Json → Option String
  | .str value => some value
  | _ => none

end Json

end Downstream
