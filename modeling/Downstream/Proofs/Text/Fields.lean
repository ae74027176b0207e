import Downstream.SourceFile
import Mathlib.Data.List.TakeWhile

/-!
Fields between separators and the texts joined from them. Parts without the separator come back from
their joined text as they went in, and the last of them is what stands after the last separator.
-/
namespace Downstream.Text

theorem fields_eq_splitOn (separator : Char) (cs : List Char) :
    fields separator cs = cs.splitOn separator := by
  induction cs with
  | nil => simp [fields]
  | cons c cs ih =>
    rw [fields, List.splitOn_cons_eq_if_modifyHead, ih]
    by_cases same : c = separator
    · simp [same]
    · have differs : (c == separator) = false := beq_eq_false_iff_ne.mpr same
      rw [if_neg same, differs]
      cases found : cs.splitOn separator with
      | nil => exact absurd found (List.splitOn_ne_nil _ _)
      | cons field rest => simp

theorem intercalate_cons (separator : Char) (first next : List Char) (rest : List (List Char)) :
    [separator].intercalate (first :: next :: rest) =
      first ++ separator :: [separator].intercalate (next :: rest) := by
  rw [List.intercalate_cons_cons, List.append_assoc]
  rfl

theorem toList_join {glue : String} {separator : Char} (single : glue.toList = [separator])
    (parts : List String) :
    (join glue parts).toList = [separator].intercalate (parts.map String.toList) := by
  rw [join, String.toList_intercalate, single]

theorem fields_join {glue : String} {separator : Char} (single : glue.toList = [separator])
    {parts : List String} (nonempty : parts ≠ [])
    (plain : ∀ part ∈ parts, separator ∉ part.toList) :
    fields separator (join glue parts).toList = parts.map String.toList := by
  rw [fields_eq_splitOn, toList_join single]
  apply List.splitOn_intercalate
  · intro cs member
    obtain ⟨part, inParts, rfl⟩ := List.mem_map.mp member
    exact plain part inParts
  · simpa using nonempty

theorem splitAt_join {parts : List String} (nonempty : parts ≠ [])
    (plain : ∀ part ∈ parts, '/' ∉ part.toList) : splitAt '/' (join "/" parts) = parts := by
  rw [splitAt, fields_join rfl nonempty plain, List.map_map]
  simp [Function.comp_def]

theorem toList_join_cons (first next : String) (rest : List String) :
    (join "/" (first :: next :: rest)).toList =
      first.toList ++ '/' :: (join "/" (next :: rest)).toList := by
  have slash : "/".toList = ['/'] := rfl
  rw [toList_join slash, toList_join slash, List.map_cons, List.map_cons, intercalate_cons]

theorem mem_join {parts : List String} {c : Char} (member : c ∈ (join "/" parts).toList) :
    c = '/' ∨ ∃ part ∈ parts, c ∈ part.toList := by
  induction parts with
  | nil => simp [join] at member
  | cons first rest ih =>
    cases rest with
    | nil =>
      rw [join, String.intercalate_singleton] at member
      exact Or.inr ⟨first, List.mem_singleton_self _, member⟩
    | cons next rest =>
      rw [toList_join_cons, List.mem_append, List.mem_cons] at member
      rcases member with inFirst | slash | later
      · exact Or.inr ⟨first, List.mem_cons_self, inFirst⟩
      · exact Or.inl slash
      · rcases ih later with slash | ⟨part, inRest, inPart⟩
        · exact Or.inl slash
        · exact Or.inr ⟨part, List.mem_cons_of_mem _ inRest, inPart⟩

theorem mem_join_of_mem {parts : List String} {part : String} {c : Char} (inParts : part ∈ parts)
    (inPart : c ∈ part.toList) : c ∈ (join "/" parts).toList := by
  induction parts with
  | nil => simp at inParts
  | cons first rest ih =>
    cases rest with
    | nil =>
      obtain rfl := List.mem_singleton.mp inParts
      rwa [join, String.intercalate_singleton]
    | cons next rest =>
      rw [toList_join_cons, List.mem_append, List.mem_cons]
      rcases List.mem_cons.mp inParts with rfl | later
      · exact Or.inl inPart
      · exact Or.inr (Or.inr (ih later))

theorem mem_of_mem_dropWhile_ends {p : Char → Bool} {c : Char} {cs : List Char}
    (member : c ∈ ((cs.dropWhile p).reverse.dropWhile p).reverse) : c ∈ cs := by
  have inFront := (List.dropWhile_suffix p).subset (List.mem_reverse.mp member)
  exact (List.dropWhile_suffix p).subset (List.mem_reverse.mp inFront)

theorem join_singleton (glue part : String) : join glue [part] = part :=
  String.intercalate_singleton

theorem join_append (glue : String) {front behind : List String} (someFront : front ≠ [])
    (someBehind : behind ≠ []) :
    join glue (front ++ behind) = join glue front ++ glue ++ join glue behind :=
  String.intercalate_append_of_ne_nil someFront someBehind

theorem join_concat {parts : List String} (nonempty : parts ≠ []) (part : String) :
    join "/" (parts ++ [part]) = join "/" parts ++ "/" ++ part := by
  rw [join_append "/" nonempty (by simp), join_singleton]

theorem join_ne_empty {parts : List String} (nonempty : parts ≠ [])
    (named : ∀ part ∈ parts, part ≠ "") :
    join "/" parts ≠ "" := by
  obtain ⟨part, rest, rfl⟩ := List.exists_cons_of_ne_nil nonempty
  cases rest with
  | nil => simpa [join_singleton] using named part (by simp)
  | cons next rest =>
    rw [join, String.intercalate_cons_cons]
    simp

/-! ### How many fields there are -/

theorem fields_ne_nil (separator : Char) (cs : List Char) : fields separator cs ≠ [] := by
  rw [fields_eq_splitOn]
  exact List.splitOn_ne_nil _ _

theorem intercalate_fields (separator : Char) (cs : List Char) :
    [separator].intercalate (fields separator cs) = cs := by
  rw [fields_eq_splitOn]
  exact List.intercalate_splitOn separator

theorem length_fields (separator : Char) (cs : List Char) :
    (fields separator cs).length = cs.count separator + 1 := by
  induction cs with
  | nil => rfl
  | cons c cs ih =>
    rw [fields]
    split
    · rename_i same
      rw [List.length_cons, ih, same, List.count_cons_self]
    · rename_i differs
      rw [List.count_cons_of_ne differs, ← ih]
      split
      · rename_i empty
        simp [empty] at ih
      · rename_i field rest found
        simp [found]

theorem length_fields_intercalate (separator : Char) {spans : List (List Char)}
    (nonempty : spans ≠ []) :
    (fields separator ([separator].intercalate spans)).length =
      spans.length + spans.flatten.count separator := by
  rw [length_fields]
  induction spans with
  | nil => exact absurd rfl nonempty
  | cons first rest ih =>
    cases rest with
    | nil => simp [Nat.add_comm]
    | cons next rest =>
      have later := ih (by simp)
      rw [intercalate_cons, List.count_append, List.count_cons_self, List.flatten_cons,
        List.count_append, List.length_cons]
      omega

/-! ### The last field -/

theorem bne_of_mem_reverse {c : Char} {cs : List Char} (plain : c ∉ cs) :
    ∀ d ∈ cs.reverse, (d != c) = true := by
  intro d member
  exact bne_iff_ne.mpr fun same => plain (same ▸ List.mem_reverse.mp member)

theorem afterLast_of_not_mem {c : Char} {cs : List Char} (plain : c ∉ cs) :
    afterLast c cs = cs := by
  rw [afterLast, List.takeWhile_eq_self_iff.mpr (bne_of_mem_reverse plain), List.reverse_reverse]

theorem afterLast_append {c : Char} {cs : List Char} (plain : c ∉ cs) (front : List Char) :
    afterLast c (front ++ c :: cs) = cs := by
  rw [afterLast, List.reverse_append, List.reverse_cons, List.append_assoc,
    List.takeWhile_append_of_pos (bne_of_mem_reverse plain)]
  simp

theorem exists_afterLast {c : Char} {cs : List Char} (separated : c ∈ cs) :
    ∃ front, cs = front ++ c :: afterLast c cs ∧ c ∉ afterLast c cs := by
  obtain ⟨reversedLast, reversedFront, split, plain⟩ :=
    List.eq_append_cons_of_mem (List.mem_reverse.mpr separated)
  obtain rfl : cs = reversedFront.reverse ++ c :: reversedLast.reverse := by
    simpa using congrArg List.reverse split
  have plainLast : c ∉ reversedLast.reverse := mt List.mem_reverse.mp plain
  rw [afterLast_append plainLast]
  exact ⟨_, rfl, plainLast⟩

theorem getLast?_fields (separator : Char) (cs : List Char) :
    (fields separator cs).getLast? = some (afterLast separator cs) := by
  rw [fields_eq_splitOn]
  by_cases separated : separator ∈ cs
  · obtain ⟨front, split, plain⟩ := exists_afterLast separated
    generalize afterLast separator cs = last at split plain
    rw [split, List.splitOn_append_cons_self, List.splitOn_eq_singleton plain,
      List.getLast?_concat]
  · rw [List.splitOn_eq_singleton separated, afterLast_of_not_mem separated]
    rfl

end Downstream.Text

namespace Downstream

theorem getLast?_splitAt (path : String) :
    (Text.splitAt '/' path).getLast? = some (nameOfPath path) := by
  rw [Text.splitAt, List.getLast?_map, Text.getLast?_fields]
  rfl

theorem nameOfPath_join {name : String} (plain : '/' ∉ name.toList) (directory : List String) :
    nameOfPath (Text.join "/" (directory ++ [name])) = name := by
  cases directory with
  | nil =>
    rw [List.nil_append, Text.join_singleton, nameOfPath, Text.afterLast_of_not_mem plain,
      String.ofList_toList]
  | cons first rest =>
    rw [Text.join_concat (by simp), nameOfPath, String.toList_append, String.toList_append,
      List.append_assoc]
    exact (congrArg String.ofList (Text.afterLast_append plain _)).trans String.ofList_toList

end Downstream
