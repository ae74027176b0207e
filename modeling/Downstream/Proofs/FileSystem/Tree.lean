import Downstream.FileSystem.Listing
import Mathlib.Data.String.Basic

/-!
Directory trees as sets of paths. In a tree no directory lists a name twice, so what stands at a
path does not depend on the order of the listings. The leaves are the paths of everything that is
no folder, and once the listings are sorted they come in increasing order.
-/
namespace Downstream

structure IsFileName (name : String) : Prop where
  nonempty : name ≠ ""
  notHere : name ≠ "."
  notAbove : name ≠ ".."
  noSlash : '/' ∉ name.toList

instance (name : String) : Decidable (IsFileName name) :=
  decidable_of_iff (name ≠ "" ∧ name ≠ "." ∧ name ≠ ".." ∧ '/' ∉ name.toList)
    ⟨fun ⟨nonempty, notHere, notAbove, noSlash⟩ => ⟨nonempty, notHere, notAbove, noSlash⟩,
      fun named => ⟨named.nonempty, named.notHere, named.notAbove, named.noSlash⟩⟩

def Listing.IsTree : Listing → Prop
  | .empty => True
  | .file name _ rest => IsFileName name ∧ name ∉ rest.names ∧ rest.IsTree
  | .link name _ rest => IsFileName name ∧ name ∉ rest.names ∧ rest.IsTree
  | .folder name inside rest =>
    IsFileName name ∧ name ∉ rest.names ∧ inside.IsTree ∧ rest.IsTree

instance Listing.decidableIsTree : (listing : Listing) → Decidable listing.IsTree
  | .empty => isTrue trivial
  | .file name _ rest =>
    have := decidableIsTree rest
    inferInstanceAs (Decidable (IsFileName name ∧ name ∉ rest.names ∧ rest.IsTree))
  | .link name _ rest =>
    have := decidableIsTree rest
    inferInstanceAs (Decidable (IsFileName name ∧ name ∉ rest.names ∧ rest.IsTree))
  | .folder name inside rest =>
    have := decidableIsTree inside
    have := decidableIsTree rest
    inferInstanceAs
      (Decidable (IsFileName name ∧ name ∉ rest.names ∧ inside.IsTree ∧ rest.IsTree))

def leafIn (name : String) (leaf : List String × Entry) : List String × Entry :=
  (name :: leaf.1, leaf.2)

@[simp]
theorem leafIn_mk (name : String) (path : List String) (entry : Entry) :
    leafIn name (path, entry) = (name :: path, entry) := by
  rfl

def Listing.leaves : Listing → List (List String × Entry)
  | .empty => []
  | .file name bytes rest => ([name], .file bytes) :: rest.leaves
  | .link name target rest => ([name], .link target) :: rest.leaves
  | .folder name inside rest =>
    inside.leaves.map (leafIn name) ++ rest.leaves

namespace Entry

def isFolder : Entry → Bool
  | .folder _ => true
  | _ => false

def IsTree : Entry → Prop
  | .folder inside => inside.IsTree
  | _ => True

def sorted : Entry → Entry
  | .folder inside => .folder inside.sorted
  | entry => entry

def at? : Entry → List String → Option Entry
  | .folder inside, path => inside.at? path
  | entry, [] => some entry
  | _, _ :: _ => none

def leaves : Entry → List (List String × Entry)
  | .folder inside => inside.leaves
  | entry => [([], entry)]

end Entry

namespace Listing

@[elab_as_elim]
theorem byEntry {motive : Listing → Prop} (empty : motive .empty)
    (add : ∀ name entry rest, (∀ inside, entry = .folder inside → motive inside) →
      motive rest → motive (push name entry rest)) : ∀ listing, motive listing
  | .empty => empty
  | .file name bytes rest => add name (.file bytes) rest nofun (byEntry empty add rest)
  | .link name target rest => add name (.link target) rest nofun (byEntry empty add rest)
  | .folder name inside rest =>
    add name (.folder inside) rest (fun _ same => Entry.folder.inj same ▸ byEntry empty add inside)
      (byEntry empty add rest)

variable {name other : String} {entry : Entry} {rest listing : Listing}

@[simp]
theorem names_push : (push name entry rest).names = name :: rest.names := by
  cases entry <;> rfl

@[simp]
theorem isTree_push : (push name entry rest).IsTree ↔
    IsFileName name ∧ name ∉ rest.names ∧ entry.IsTree ∧ rest.IsTree := by
  cases entry <;> simp [push, IsTree, Entry.IsTree]

@[simp]
theorem find?_push : (push name entry rest).find? other =
    if name = other then some entry else rest.find? other := by
  cases entry <;> rfl

@[simp]
theorem leaves_push : (push name entry rest).leaves =
    entry.leaves.map (leafIn name) ++ rest.leaves := by
  cases entry <;> rfl

@[simp]
theorem sorted_push : (push name entry rest).sorted =
    insertByName name entry.sorted rest.sorted := by
  cases entry <;> rfl

@[simp]
theorem insertByName_push {first : Entry} : insertByName name entry (push other first rest) =
    if other < name then push other first (insertByName name entry rest)
    else push name entry (push other first rest) := by
  cases first <;> rfl

@[simp]
theorem at?_nil : listing.at? [] = some (.folder listing) := by
  cases listing <;> rfl

theorem at?_cons {path : List String} :
    listing.at? (name :: path) = (listing.find? name).bind (·.at? path) := by
  cases path with
  | nil =>
    rw [at?]
    cases found : listing.find? name with
    | none => rfl
    | some entry => cases entry <;> simp [Entry.at?]
  | cons next path =>
    rw [at?]
    · cases found : listing.find? name with
      | none => rfl
      | some entry => cases entry <;> rfl
    · simp

end Listing

theorem Entry.at?_append (entry : Entry) (above below : List String) :
    entry.at? (above ++ below) = (entry.at? above).bind (·.at? below) := by
  induction above generalizing entry with
  | nil => cases entry <;> simp [Entry.at?]
  | cons part above ih =>
    cases entry with
    | folder inside =>
      simp only [Entry.at?, List.cons_append, Listing.at?_cons, Option.bind_assoc]
      cases inside.find? part with
      | none => rfl
      | some first => exact ih first
    | _ => rfl

namespace Listing

variable {name other : String} {entry : Entry} {rest listing : Listing}

theorem find?_eq_none (absent : name ∉ listing.names) : listing.find? name = none := by
  induction listing using byEntry with
  | empty => rfl
  | add first entry rest _ ih =>
    simp only [names_push, List.mem_cons, not_or] at absent
    rw [find?_push, if_neg (Ne.symm absent.1), ih absent.2]

theorem head_mem_names {path : List String} {leaf : Entry}
    (member : (path, leaf) ∈ listing.leaves) :
    ∃ first below, path = first :: below ∧ first ∈ listing.names := by
  induction listing using byEntry with
  | empty => simp [leaves] at member
  | add first entry rest _ ih =>
    rw [leaves_push, List.mem_append] at member
    rcases member with here | later
    · obtain ⟨⟨below, _⟩, _, same⟩ := List.mem_map.mp here
      obtain ⟨rfl, _⟩ := Prod.mk.inj same
      exact ⟨first, below, rfl, by simp⟩
    · obtain ⟨head, below, rfl, listed⟩ := ih later
      exact ⟨head, below, rfl, by simp [listed]⟩

theorem mem_leaves_iff {path : List String} {leaf : Entry} (tree : listing.IsTree) :
    (path, leaf) ∈ listing.leaves ↔ listing.at? path = some leaf ∧ leaf.isFolder = false := by
  induction listing using byEntry generalizing path with
  | empty =>
    cases path with
    | nil => cases leaf <;> simp [leaves, Entry.isFolder]
    | cons first below => simp [leaves, at?_cons, find?]
  | add name entry rest within later =>
    obtain ⟨_, absent, treeWithin, treeRest⟩ := isTree_push.mp tree
    have inEntry (below : List String) :
        (below, leaf) ∈ entry.leaves ↔ entry.at? below = some leaf ∧ leaf.isFolder = false := by
      cases entry with
      | folder inside => exact within inside rfl treeWithin
      | _ => cases below <;> cases leaf <;> simp [Entry.leaves, Entry.at?, Entry.isFolder, eq_comm]
    rw [leaves_push, List.mem_append, later treeRest]
    cases path with
    | nil => cases leaf <;> simp [Entry.isFolder]
    | cons first below =>
      rw [at?_cons, at?_cons, find?_push]
      -- The rest does not list the name in front, so at most one of the two sides can hold.
      by_cases same : name = first
      · subst same
        simp [find?_eq_none absent, inEntry]
      · simp [same]

theorem isFileName_of_mem_leaves {path : List String} {leaf : Entry} (tree : listing.IsTree)
    (member : (path, leaf) ∈ listing.leaves) : ∀ part ∈ path, IsFileName part := by
  induction listing using byEntry generalizing path with
  | empty => simp [leaves] at member
  | add name entry rest within later =>
    obtain ⟨named, _, treeWithin, treeRest⟩ := isTree_push.mp tree
    rw [leaves_push, List.mem_append] at member
    rcases member with here | behind
    · obtain ⟨⟨below, _⟩, inEntry, same⟩ := List.mem_map.mp here
      obtain ⟨rfl, rfl⟩ := Prod.mk.inj same
      intro part inPath
      rcases List.mem_cons.mp inPath with rfl | deeper
      · exact named
      · cases entry with
        | folder inside => exact within inside rfl treeWithin inEntry part deeper
        | _ =>
          obtain ⟨rfl, _⟩ := Prod.mk.inj (List.mem_singleton.mp inEntry)
          simp at deeper
    · exact later treeRest behind

theorem mem_names_insertByName :
    other ∈ (insertByName name entry listing).names ↔ other = name ∨ other ∈ listing.names := by
  induction listing using byEntry with
  | empty => simp [insertByName, names]
  | add first _ rest _ ih =>
    rw [insertByName_push]
    split
    · simp only [names_push, List.mem_cons, ih]
      exact or_left_comm
    · simp

@[simp]
theorem mem_names_sorted : other ∈ listing.sorted.names ↔ other ∈ listing.names := by
  induction listing using byEntry with
  | empty => rfl
  | add name entry rest _ ih => simp [mem_names_insertByName, ih]

theorem insertByName_isTree (named : IsFileName name) (absent : name ∉ listing.names)
    (within : entry.IsTree) (tree : listing.IsTree) : (insertByName name entry listing).IsTree := by
  induction listing using byEntry with
  | empty => simp [insertByName, named, within, names, IsTree]
  | add first _ rest _ ih =>
    obtain ⟨namedFirst, absentFirst, withinFirst, treeRest⟩ := isTree_push.mp tree
    simp only [names_push, List.mem_cons, not_or] at absent
    rw [insertByName_push]
    split
    · have differs : first ∉ (insertByName name entry rest).names :=
        mt mem_names_insertByName.mp (not_or.mpr ⟨Ne.symm absent.1, absentFirst⟩)
      exact isTree_push.mpr ⟨namedFirst, differs, withinFirst, ih absent.2 treeRest⟩
    · exact isTree_push.mpr ⟨named, by simpa using absent, within, tree⟩

theorem sorted_isTree (tree : listing.IsTree) : listing.sorted.IsTree := by
  induction listing using byEntry with
  | empty => trivial
  | add name entry rest within later =>
    obtain ⟨named, absent, treeWithin, treeRest⟩ := isTree_push.mp tree
    have sortedWithin : entry.sorted.IsTree := by
      cases entry with
      | folder inside => exact within inside rfl treeWithin
      | _ => trivial
    rw [sorted_push]
    exact insertByName_isTree named (by simpa using absent) sortedWithin (later treeRest)

theorem find?_insertByName (absent : name ∉ listing.names) :
    (insertByName name entry listing).find? other =
      if name = other then some entry else listing.find? other := by
  induction listing using byEntry with
  | empty => simp [insertByName]
  | add first _ rest _ ih =>
    simp only [names_push, List.mem_cons, not_or] at absent
    rw [insertByName_push]
    split
    · rw [find?_push, find?_push, ih absent.2]
      by_cases same : first = other
      · have differs : name ≠ other := same ▸ absent.1
        simp [same, differs]
      · simp [same]
    · rw [find?_push]

theorem find?_sorted (tree : listing.IsTree) :
    listing.sorted.find? other = (listing.find? other).map Entry.sorted := by
  induction listing using byEntry with
  | empty => rfl
  | add name entry rest _ ih =>
    obtain ⟨_, absent, _, treeRest⟩ := isTree_push.mp tree
    rw [sorted_push, find?_insertByName (by simpa using absent), find?_push, ih treeRest]
    split <;> rfl

theorem isTree_of_find? (tree : listing.IsTree) (found : listing.find? name = some entry) :
    entry.IsTree := by
  induction listing using byEntry with
  | empty => simp [find?] at found
  | add first _ rest _ ih =>
    obtain ⟨_, _, treeWithin, treeRest⟩ := isTree_push.mp tree
    rw [find?_push] at found
    split at found
    · exact Option.some.inj found ▸ treeWithin
    · exact ih treeRest found

theorem isTree_of_at? {path : List String} (tree : listing.IsTree)
    (found : listing.at? path = some entry) : entry.IsTree := by
  induction path generalizing listing with
  | nil =>
    rw [at?_nil] at found
    exact Option.some.inj found ▸ tree
  | cons name path ih =>
    rw [at?_cons] at found
    obtain ⟨first, here, below⟩ := Option.bind_eq_some_iff.mp found
    have treeWithin := isTree_of_find? tree here
    cases first with
    | folder inside => exact ih treeWithin below
    | _ =>
      cases path <;> simp only [Entry.at?, Option.some.injEq, reduceCtorEq] at below
      exact below ▸ trivial

theorem at?_sorted {path : List String} (tree : listing.IsTree) :
    listing.sorted.at? path = (listing.at? path).map Entry.sorted := by
  induction path generalizing listing with
  | nil => simp [Entry.sorted]
  | cons name path ih =>
    rw [at?_cons, at?_cons, find?_sorted tree]
    cases found : listing.find? name with
    | none => rfl
    | some entry =>
      have treeWithin := isTree_of_find? tree found
      cases entry with
      | folder inside => exact ih treeWithin
      | _ => cases path <;> rfl

theorem mem_sorted_leaves_iff {path : List String} {leaf : Entry} (tree : listing.IsTree) :
    (path, leaf) ∈ listing.sorted.leaves ↔
      listing.at? path = some leaf ∧ leaf.isFolder = false := by
  rw [mem_leaves_iff (sorted_isTree tree), at?_sorted tree]
  cases listing.at? path with
  | none => simp
  | some entry => cases entry <;> cases leaf <;> simp [Entry.sorted, Entry.isFolder]

end Listing

end Downstream
