import Downstream.Proofs.Text.Fields
import Downstream.Proofs.Text.LowerCase
import Downstream.ServiceName
import Mathlib.Data.List.Basic

/-!
The name guessed for a service. The segments of the first file's path are tried from the end, and
the file's own name is one of them: the closest directory that a service may be named for gives the
name, unless the file's own name would do for a service as well.
-/
namespace Downstream

theorem Text.occursIn_iff {part cs : List Char} : occursIn part cs = true ↔ part <:+: cs := by
  induction cs with
  | nil => simp [occursIn]
  | cons c cs ih =>
    rw [occursIn, Bool.or_eq_true, ih, List.isPrefixOf_iff_prefix, List.infix_cons_iff]

namespace ServiceName

structure NamesService (segment : String) : Prop where
  long : 3 < segment.toList.length
  capital : ∃ c ∈ segment.toList, c.isUpper = true
  noContainer : ∀ word ∈ containerWords, ¬ word.toList <:+: Text.lower segment.toList

theorem capital_of_serviceWord {word segment : String} (listed : word ∈ serviceWords)
    (occurs : word.toList <:+: segment.toList) : ∃ c ∈ segment.toList, c.isUpper = true := by
  have capitals : serviceWords.all (·.toList.any Char.isUpper) = true := by decide
  obtain ⟨c, inWord, upper⟩ := List.any_eq_true.mp (List.all_eq_true.mp capitals word listed)
  exact ⟨c, occurs.subset inWord, upper⟩

theorem suggests_iff {segment : String} :
    (!isContainer segment && looksLikeService segment) = true ↔ NamesService segment := by
  have container : isContainer segment = false ↔
      ∀ word ∈ containerWords, ¬ word.toList <:+: Text.lower segment.toList := by
    simp [isContainer, ← Text.occursIn_iff]
  have service : looksLikeService segment = true ↔
      3 < segment.toList.length ∧ ∃ c ∈ segment.toList, c.isUpper = true := by
    simp only [looksLikeService, Bool.and_eq_true, Bool.or_eq_true, decide_eq_true_eq,
      List.any_eq_true, Text.occursIn_iff]
    refine and_congr_right fun _ => ⟨?_, Or.inl⟩
    rintro (capital | ⟨word, listed, occurs⟩)
    · exact capital
    · exact capital_of_serviceWord listed occurs
  rw [Bool.and_eq_true, Bool.not_eq_true', container, service]
  exact ⟨fun ⟨no, long, capital⟩ => ⟨long, capital, no⟩,
    fun ⟨long, capital, no⟩ => ⟨no, long, capital⟩⟩

instance (segment : String) : Decidable (NamesService segment) :=
  decidable_of_iff _ suggests_iff

def directoriesOf (path : String) : List String :=
  (Text.splitAt '/' path).dropLast

def IsClosest (directories : List String) (closest : String) : Prop :=
  ∃ above below, directories = above ++ closest :: below ∧ NamesService closest ∧
    ∀ directory ∈ below, ¬ NamesService directory

theorem isClosest_iff {directories : List String} {closest : String} :
    IsClosest directories closest ↔
      directories.reverse.find? (fun s => !isContainer s && looksLikeService s) = some closest := by
  rw [List.find?_eq_some_iff_append, suggests_iff]
  constructor
  · rintro ⟨above, below, split, names, noneBelow⟩
    refine ⟨names, below.reverse, above.reverse, by simp [split], fun directory member => ?_⟩
    rw [Bool.not_eq_true', ← Bool.not_eq_true, suggests_iff]
    exact noneBelow directory (List.mem_reverse.mp member)
  · rintro ⟨names, front, behind, split, noneInFront⟩
    refine ⟨behind.reverse, front.reverse, ?_, names, fun directory member => ?_⟩
    · rw [← List.reverse_reverse directories, split]
      simp
    · have other := noneInFront directory (List.mem_reverse.mp member)
      rwa [Bool.not_eq_true', ← Bool.not_eq_true, suggests_iff] at other

theorem existsUnique_closest {directories : List String}
    (somewhere : ∃ directory ∈ directories, NamesService directory) :
    ∃! closest, IsClosest directories closest := by
  obtain ⟨directory, listed, names⟩ := somewhere
  have found : (directories.reverse.find? fun s =>
      !isContainer s && looksLikeService s).isSome = true := by
    rw [List.find?_isSome]
    exact ⟨directory, List.mem_reverse.mpr listed, suggests_iff.mpr names⟩
  obtain ⟨closest, first⟩ := Option.isSome_iff_exists.mp found
  refine ⟨closest, isClosest_iff.mpr first, fun other isClosest => ?_⟩
  exact Option.some.inj ((isClosest_iff.mp isClosest).symm.trans first)

theorem splitAt_eq (path : String) :
    Text.splitAt '/' path = directoriesOf path ++ [nameOfPath path] :=
  (List.dropLast_append_getLast? _ (getLast?_splitAt path)).symm

theorem not_namesService_of_java {name : String} (java : ".java".toList <:+ name.toList) :
    ¬ NamesService name := by
  intro names
  obtain ⟨front, split⟩ := java
  obtain ⟨small, afterFront, _, lowered⟩ :=
    Text.exists_lowerAfter_append false front ".java".toList
  have letters : ".java".toList.all (fun c => decide (Text.IsSmall c)) = true := by decide +kernel
  have same : Text.lowerAfter afterFront ".java".toList = ".java".toList :=
    Text.lowerAfter_eq_self fun c member => of_decide_eq_true (List.all_eq_true.mp letters c member)
  refine names.noContainer "java" (by decide) ⟨small ++ ['.'], [], ?_⟩
  rw [Text.lower, ← split, lowered, same]
  simp

/-- The name of a list of files is the closest directory above the first one that a service may be
named for, unless a service may be named for the file itself. -/
theorem infer_closest_directory (file : SourceFile) (others : List SourceFile)
    (somewhere : ∃ directory ∈ directoriesOf file.path, NamesService directory) :
    (∃! closest, IsClosest (directoriesOf file.path) closest) ∧
    ∀ closest, IsClosest (directoriesOf file.path) closest →
      infer (file :: others) =
        (if NamesService (nameOfPath file.path) then nameOfPath file.path else closest) ∧
      (".java".toList <:+ (nameOfPath file.path).toList → infer (file :: others) = closest) := by
  refine ⟨existsUnique_closest somewhere, fun closest isClosest => ?_⟩
  have tried : infer (file :: others) =
      if NamesService (nameOfPath file.path) then nameOfPath file.path else closest := by
    have first := isClosest_iff.mp isClosest
    simp only [infer, ofPath, splitAt_eq, List.reverse_append, List.reverse_singleton,
      List.singleton_append, List.find?_cons]
    by_cases names : NamesService (nameOfPath file.path)
    · rw [if_pos names, suggests_iff.mpr names]
    · rw [if_neg names, Bool.eq_false_iff.mpr (mt suggests_iff.mp names), first]
  refine ⟨tried, fun java => ?_⟩
  rw [tried, if_neg (not_namesService_of_java java)]

def bookingFile (name : String) : SourceFile :=
  ⟨name, "acme/BookingService/src/" ++ name, "x = 1\n", "python", 6⟩

theorem infer_booking :
    (∃ directory ∈ directoriesOf (bookingFile "handler.py").path, NamesService directory) ∧
      infer [bookingFile "handler.py"] = "BookingService" := by
  have somewhere : ∃ directory ∈ directoriesOf (bookingFile "handler.py").path,
      NamesService directory := by decide +kernel
  have closest : IsClosest (directoriesOf (bookingFile "handler.py").path) "BookingService" :=
    isClosest_iff.mpr (by decide +kernel)
  obtain ⟨_, named⟩ := infer_closest_directory (bookingFile "handler.py") [] somewhere
  refine ⟨somewhere, (named _ closest).1.trans (if_neg ?_)⟩
  decide +kernel

/-- A file whose own name has a capital hides the directory of its service. -/
theorem infer_file_name :
    IsClosest (directoriesOf (bookingFile "Handler.py").path) "BookingService" ∧
      infer [bookingFile "Handler.py"] = "Handler.py" :=
  ⟨isClosest_iff.mpr (by decide +kernel), by decide +kernel⟩

end ServiceName

end Downstream
