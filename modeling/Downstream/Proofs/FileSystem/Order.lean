import Downstream.FileSystem.Basic
import Downstream.Proofs.FileSystem.Tree

/-!
The order of listings. Sorting gives two listings of one tree the same form, whatever order their
entries came in; the leaves of a sorted tree increase component by component; and where a path leads
does not depend on the order at all.
-/
namespace Downstream

def Listing.IsSorted : Listing → Prop
  | .empty => True
  | .file name _ rest => (∀ later ∈ rest.names, name < later) ∧ rest.IsSorted
  | .link name _ rest => (∀ later ∈ rest.names, name < later) ∧ rest.IsSorted
  | .folder name inside rest =>
    (∀ later ∈ rest.names, name < later) ∧ inside.IsSorted ∧ rest.IsSorted

def Entry.IsSorted : Entry → Prop
  | .folder inside => inside.IsSorted
  | _ => True

inductive Listing.Reordered : Listing → Listing → Prop where
  | empty : Reordered .empty .empty
  | file (name : String) (bytes : ByteArray) {rest rest' : Listing} :
      Reordered rest rest' → Reordered (.file name bytes rest) (.file name bytes rest')
  | link (name target : String) {rest rest' : Listing} :
      Reordered rest rest' → Reordered (.link name target rest) (.link name target rest')
  | folder (name : String) {inside inside' rest rest' : Listing} :
      Reordered inside inside' → Reordered rest rest' →
      Reordered (.folder name inside rest) (.folder name inside' rest')
  | swap (name other : String) (entry next : Entry) (rest : Listing) :
      Reordered (push name entry (push other next rest)) (push other next (push name entry rest))
  | trans {first second third : Listing} :
      Reordered first second → Reordered second third → Reordered first third

namespace Listing

variable {name other : String} {entry : Entry} {rest listing : Listing}

@[simp]
theorem isSorted_push : (push name entry rest).IsSorted ↔
    (∀ later ∈ rest.names, name < later) ∧ entry.IsSorted ∧ rest.IsSorted := by
  cases entry <;> simp [push, IsSorted, Entry.IsSorted]

theorem insertByName_isSorted (absent : name ∉ listing.names) (within : entry.IsSorted)
    (increasing : listing.IsSorted) : (insertByName name entry listing).IsSorted := by
  induction listing using byEntry with
  | empty => simp [insertByName, names, within, IsSorted]
  | add first _ rest _ ih =>
    obtain ⟨below, withinFirst, increasingRest⟩ := isSorted_push.mp increasing
    simp only [names_push, List.mem_cons, not_or] at absent
    rw [insertByName_push]
    split
    · rename_i smaller
      refine isSorted_push.mpr ⟨fun later listed => ?_, withinFirst, ih absent.2 increasingRest⟩
      rcases mem_names_insertByName.mp listed with rfl | old
      · exact smaller
      · exact below later old
    · rename_i notSmaller
      have front : name < first := lt_of_le_of_ne (not_lt.mp notSmaller) absent.1
      refine isSorted_push.mpr ⟨fun later listed => ?_, within, increasing⟩
      rw [names_push, List.mem_cons] at listed
      rcases listed with rfl | old
      · exact front
      · exact front.trans (below later old)

theorem sorted_isSorted (tree : listing.IsTree) : listing.sorted.IsSorted := by
  induction listing using byEntry with
  | empty => trivial
  | add name entry rest within later =>
    obtain ⟨_, absent, treeWithin, treeRest⟩ := isTree_push.mp tree
    have sortedWithin : entry.sorted.IsSorted := by
      cases entry with
      | folder inside => exact within inside rfl treeWithin
      | _ => trivial
    rw [sorted_push]
    exact insertByName_isSorted (by simpa using absent) sortedWithin (later treeRest)

/-- The leaves of a sorted tree come in the order of their paths, component by component. -/
theorem leaves_increasing (increasing : listing.IsSorted) :
    listing.leaves.Pairwise fun leaf next => leaf.1 < next.1 := by
  induction listing using byEntry with
  | empty => exact List.Pairwise.nil
  | add name entry rest within later =>
    obtain ⟨below, sortedWithin, sortedRest⟩ := isSorted_push.mp increasing
    have inEntry : entry.leaves.Pairwise fun leaf next => leaf.1 < next.1 := by
      cases entry with
      | folder inside => exact within inside rfl sortedWithin
      | _ => exact List.pairwise_singleton _ _
    rw [leaves_push, List.pairwise_append, List.pairwise_map]
    refine ⟨inEntry.imp fun less => List.cons_lt_cons_iff.mpr (Or.inr ⟨rfl, less⟩),
      later sortedRest, ?_⟩
    intro leaf here next behind
    obtain ⟨_, _, rfl⟩ := List.mem_map.mp here
    obtain ⟨head, _, path, listed⟩ := head_mem_names behind
    rw [path]
    exact List.cons_lt_cons_iff.mpr (Or.inl (below head listed))

@[simp]
theorem insertByName_empty : insertByName name entry .empty = push name entry .empty := by
  rfl

theorem insertByName_comm {next : Entry} (differs : name ≠ other) :
    insertByName name entry (insertByName other next listing) =
      insertByName other next (insertByName name entry listing) := by
  induction listing using byEntry with
  | empty =>
    rcases lt_or_gt_of_ne differs with less | greater
    · simp [less, less.not_gt]
    · simp [greater, greater.not_gt]
  | add first _ rest _ ih =>
    simp only [insertByName_push]
    by_cases beforeName : first < name
    · by_cases beforeOther : first < other
      · simp [beforeName, beforeOther, ih]
      · have less : other < name := (not_lt.mp beforeOther).trans_lt beforeName
        simp [beforeName, beforeOther, less]
    · by_cases beforeOther : first < other
      · have less : name < other := (not_lt.mp beforeName).trans_lt beforeOther
        simp [beforeName, beforeOther, less]
      · rcases lt_or_gt_of_ne differs with less | greater
        · simp [beforeName, beforeOther, less, less.not_gt]
        · simp [beforeName, beforeOther, greater, greater.not_gt]

theorem Reordered.mem_names_iff {first second : Listing} (reordered : first.Reordered second) :
    name ∈ first.names ↔ name ∈ second.names := by
  induction reordered with
  | empty => rfl
  | file _ _ _ ih => simp [names, ih]
  | link _ _ _ ih => simp [names, ih]
  | folder _ _ _ _ ih => simp [names, ih]
  | swap first second => simpa using or_left_comm
  | trans _ _ ih next => exact ih.trans next

theorem Reordered.isTree {first second : Listing} (reordered : first.Reordered second)
    (tree : first.IsTree) : second.IsTree := by
  induction reordered with
  | empty => trivial
  | file _ _ later ih => exact ⟨tree.1, mt later.mem_names_iff.mpr tree.2.1, ih tree.2.2⟩
  | link _ _ later ih => exact ⟨tree.1, mt later.mem_names_iff.mpr tree.2.1, ih tree.2.2⟩
  | folder _ _ later within ih =>
    exact ⟨tree.1, mt later.mem_names_iff.mpr tree.2.1, within tree.2.2.1, ih tree.2.2.2⟩
  | swap first second _ _ rest =>
    simp only [isTree_push, names_push, List.mem_cons, not_or] at tree ⊢
    tauto
  | trans _ _ ih next => exact next (ih tree)

theorem Reordered.sorted_eq {first second : Listing} (reordered : first.Reordered second)
    (tree : first.IsTree) : first.sorted = second.sorted := by
  induction reordered with
  | empty => rfl
  | file _ _ _ ih => rw [sorted, sorted, ih tree.2.2]
  | link _ _ _ ih => rw [sorted, sorted, ih tree.2.2]
  | folder _ _ _ within ih => rw [sorted, sorted, within tree.2.2.1, ih tree.2.2.2]
  | swap first second _ _ rest =>
    obtain ⟨_, absent, _⟩ := isTree_push.mp tree
    simp only [names_push, List.mem_cons, not_or] at absent
    simp only [sorted_push]
    exact insertByName_comm absent.1
  | trans once _ ih next => exact (ih tree).trans (next (once.isTree tree))

end Listing

namespace FileSystem

def Destination.sorted : Destination → Destination
  | .found path entry => .found path entry.sorted
  | destination => destination

variable {root : Listing}

theorem behindSlash_sorted {slash : Prop} [Decidable slash]
    {found foundSorted : Except FileProblem Destination}
    (same : foundSorted = found.map Destination.sorted) :
    (if slash then behindSlash foundSorted else foundSorted) =
      (if slash then behindSlash found else found).map Destination.sorted := by
  subst same
  split
  · cases found <;> rfl
  · rfl

theorem followWith_sorted (tree : root.IsTree)
    {onLink onLinkSorted : List String → List String → Except FileProblem Destination}
    (links : ∀ directory components,
      onLinkSorted directory components = (onLink directory components).map Destination.sorted)
    (directory components : List String) :
    followWith root.sorted onLinkSorted directory components =
      (followWith root onLink directory components).map Destination.sorted := by
  induction components generalizing directory with
  | nil =>
    rw [followWith, followWith, Listing.at?_sorted tree]
    cases root.at? directory <;> rfl
  | cons part rest ih =>
    rw [followWith, followWith]
    split
    · exact ih directory
    · split
      · exact ih directory.dropLast
      · refine behindSlash_sorted ?_
        -- A folder is entered, a link is left to its own premise, all else ends here.
        rw [Listing.at?_sorted tree]
        split
        · rfl
        · cases root.at? (directory ++ [part]) with
          | none => cases rest <;> rfl
          | some entry =>
            cases entry with
            | file bytes => cases rest <;> rfl
            | link target => exact links _ _
            | folder inside => exact ih (directory ++ [part])

theorem followLinks_sorted (tree : root.IsTree) (links : Nat) (directory components : List String) :
    followLinks root.sorted links directory components =
      (followLinks root links directory components).map Destination.sorted := by
  induction links generalizing directory components with
  | zero =>
    have refused (_ _ : List String) : (.error .tooManyLinks : Except FileProblem Destination) =
        (Except.error .tooManyLinks).map Destination.sorted := rfl
    exact followWith_sorted tree refused directory components
  | succ links ih => exact followWith_sorted tree ih directory components

theorem destination_reordered {fs : FileSystem} {listing : Listing} (tree : fs.root.IsTree)
    (reordered : fs.root.Reordered listing) (path : PathText) :
    ({ fs with root := listing }.destination path).map Destination.sorted =
      (fs.destination path).map Destination.sorted := by
  rw [destination, destination]
  split
  · rfl
  · rw [← followLinks_sorted (reordered.isTree tree), ← reordered.sorted_eq tree,
      followLinks_sorted tree]

def sortedEntry (found : List String × Entry) : List String × Entry :=
  (found.1, found.2.sorted)

theorem lookup_sorted (fs : FileSystem) (path : PathText) :
    (fs.lookup path).map sortedEntry =
      (fs.destination path).map Destination.sorted >>= fun
        | .found path entry => .ok (path, entry)
        | .free _ _ => .error .notFound
        | .noDirectory problem => .error problem := by
  rw [lookup]
  cases fs.destination path with
  | error problem => rfl
  | ok destination => cases destination <;> rfl

theorem lookup_reordered {fs : FileSystem} {listing : Listing} (tree : fs.root.IsTree)
    (reordered : fs.root.Reordered listing) (path : PathText) :
    ({ fs with root := listing }.lookup path).map sortedEntry =
      (fs.lookup path).map sortedEntry := by
  rw [lookup_sorted, lookup_sorted, destination_reordered tree reordered]

end FileSystem

end Downstream
