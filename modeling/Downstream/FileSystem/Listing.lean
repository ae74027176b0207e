/-!
Directory trees. A directory is the listing of its entries: files with their bytes, symbolic links
with their targets, and folders with listings of their own.
-/
namespace Downstream

inductive Listing where
  | empty
  | file (name : String) (bytes : ByteArray) (rest : Listing)
  | link (name target : String) (rest : Listing)
  | folder (name : String) (inside rest : Listing)

inductive Entry where
  | file (bytes : ByteArray)
  | link (target : String)
  | folder (inside : Listing)

namespace Listing

def find? (name : String) : Listing → Option Entry
  | .empty => none
  | .file n bytes rest => if n = name then some (.file bytes) else find? name rest
  | .link n target rest => if n = name then some (.link target) else find? name rest
  | .folder n inside rest => if n = name then some (.folder inside) else find? name rest

def push (name : String) (entry : Entry) (rest : Listing) : Listing :=
  match entry with
  | .file bytes => .file name bytes rest
  | .link target => .link name target rest
  | .folder inside => .folder name inside rest

/-- Gives a name an entry: in the place of its old one, or behind all others. -/
def put (name : String) (entry : Entry) : Listing → Listing
  | .empty => push name entry .empty
  | .file n bytes rest =>
    if n = name then push name entry rest else .file n bytes (put name entry rest)
  | .link n target rest =>
    if n = name then push name entry rest else .link n target (put name entry rest)
  | .folder n inside rest =>
    if n = name then push name entry rest else .folder n inside (put name entry rest)

def erase (name : String) : Listing → Listing
  | .empty => .empty
  | .file n bytes rest => if n = name then rest else .file n bytes (erase name rest)
  | .link n target rest => if n = name then rest else .link n target (erase name rest)
  | .folder n inside rest => if n = name then rest else .folder n inside (erase name rest)

def at? (listing : Listing) : List String → Option Entry
  | [] => some (.folder listing)
  | [name] => listing.find? name
  | name :: path =>
    match listing.find? name with
    | some (.folder inside) => inside.at? path
    | _ => none

/-- Changes the directory at a path of names; nothing changes where there is none. -/
def updateAt (change : Listing → Listing) : List String → Listing → Listing
  | [], listing => change listing
  | name :: path, listing =>
    match listing.find? name with
    | some (.folder inside) => listing.put name (.folder (updateAt change path inside))
    | _ => listing

def linkCount : Listing → Nat
  | .empty => 0
  | .file _ _ rest => rest.linkCount
  | .link _ _ rest => rest.linkCount + 1
  | .folder _ inside rest => inside.linkCount + rest.linkCount

def names : Listing → List String
  | .empty => []
  | .file name _ rest => name :: rest.names
  | .link name _ rest => name :: rest.names
  | .folder name _ rest => name :: rest.names

def insertByName (name : String) (entry : Entry) : Listing → Listing
  | .empty => push name entry .empty
  | .file n bytes rest =>
    if n < name then .file n bytes (insertByName name entry rest)
    else push name entry (.file n bytes rest)
  | .link n target rest =>
    if n < name then .link n target (insertByName name entry rest)
    else push name entry (.link n target rest)
  | .folder n inside rest =>
    if n < name then .folder n inside (insertByName name entry rest)
    else push name entry (.folder n inside rest)

def sorted : Listing → Listing
  | .empty => .empty
  | .file name bytes rest => insertByName name (.file bytes) rest.sorted
  | .link name target rest => insertByName name (.link target) rest.sorted
  | .folder name inside rest => insertByName name (.folder inside.sorted) rest.sorted

end Listing

end Downstream
