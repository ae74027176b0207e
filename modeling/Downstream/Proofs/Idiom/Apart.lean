import Downstream.Proofs.Idiom.Statement

/-!
Statements never overlap. A statement that began inside another one would have its keyword at the
end of one of the runs there, and white space behind it. The type ends in a suffix, which is no
keyword; and where a module has the name of a keyword, the word that stands where the other
statement would go on is the type. So a search that passes each match as a whole loses none.
-/
namespace Downstream

open Text

namespace Statement

def Form.StartsAt (form : Form) (text : List Char) : Prop :=
  ∃ typeName covered rest, text = covered ++ rest ∧ form.Reads typeName covered rest

def Form.AbsentFrom (form : Form) (covered rest : List Char) : Prop :=
  ∀ k < covered.length, ¬ form.StartsAt ((covered ++ rest).drop k)

def Form.Apart (form : Form) : Prop :=
  ∀ typeName covered rest, form.Reads typeName covered rest → form.AbsentFrom covered.tail rest

variable {form : Form} {p : Char → Bool} {front back run word rest : List Char}
  {suffixes : List String}

theorem absent_append (inFront : form.AbsentFrom front (back ++ rest))
    (inBack : form.AbsentFrom back rest) : form.AbsentFrom (front ++ back) rest := by
  intro k inside
  rw [List.append_assoc]
  rcases Nat.lt_or_ge k front.length with early | late
  · exact inFront k early
  · obtain ⟨j, rfl⟩ := Nat.exists_eq_add_of_le late
    rw [List.length_append, Nat.add_lt_add_iff_left] at inside
    rw [List.drop_length_add_append]
    exact inBack j inside

theorem Form.StartsAt.keyword {text : List Char} (starts : form.StartsAt text) :
    ∃ tail, text = form.keyword.toList ++ tail := by
  obtain ⟨_, _, _, rfl, _, _, rfl, _⟩ := starts
  simp only [List.append_assoc]
  exact ⟨_, rfl⟩

theorem absent_of_not_mem (first : Char) (opens : form.keyword.toList.head? = some first)
    (outside : first ∉ run) : form.AbsentFrom run rest := by
  intro k inside starts
  obtain ⟨tail, text⟩ := starts.keyword
  exact drop_ne_of_not_mem outside opens inside text

theorem not_suffix_of_suffixed (ends : Cursor.Suffixed suffixes run)
    (clash : ∀ suffix ∈ suffixes, word.length ≤ suffix.toList.length ∧ ¬ word <:+ suffix.toList) :
    ¬ word <:+ run := by
  obtain ⟨suffix, member, stem, _, rfl⟩ := ends
  intro wordEnds
  obtain ⟨short, other⟩ := clash suffix member
  exact other (List.suffix_of_suffix_length_le wordEnds (List.suffix_append _ _) short)

def Opens (word : List Char) (p : Char → Bool) (text : List Char) : Prop :=
  ∃ tail, text = word ++ tail ∧ Stops p tail

/-- No statement begins in a word with one of the suffixes, if its own first word is another one. -/
theorem absent_of_suffixed (opens : ∀ text, form.StartsAt text → Opens word p text)
    (allWord : ∀ c ∈ word, p c = true) (all : ∀ c ∈ run, p c = true) (stops : Stops p rest)
    (ends : Cursor.Suffixed suffixes run)
    (clash : ∀ suffix ∈ suffixes, word.length ≤ suffix.toList.length ∧ ¬ word <:+ suffix.toList) :
    form.AbsentFrom run rest := by
  intro k inside starts
  obtain ⟨tail, text, stopsTail⟩ := opens _ starts
  exact not_suffix_of_suffixed ends clash
    (suffix_of_drop_eq all stops allWord stopsTail inside text).1

def Form.Spaced (form : Form) : Prop :=
  ∀ opening, form.opens opening → ∃ gap more, opening = gap ++ more ∧ Run isBlank gap

theorem Form.Spaced.opens (spaced : form.Spaced) (apart : ∀ c, isBlank c = true → p c = false)
    (text : List Char) (starts : form.StartsAt text) : Opens form.keyword.toList p text := by
  obtain ⟨typeName, _, rest, rfl, opening, closing, rfl, parts⟩ := starts
  obtain ⟨gap, more, rfl, isGap⟩ := spaced opening parts.opens
  refine ⟨gap ++ (more ++ typeName ++ closing ++ rest), ?_, isGap.stops apart _⟩
  simp only [List.append_assoc]

/-- It is enough to look into the parts behind the first character of the keyword, which comes
only once in it. -/
theorem apart_of_parts (first : Char) {others : List Char}
    (keyword : form.keyword.toList = first :: others) (once : first ∉ others)
    (absent : ∀ opening typeName closing rest, form.Parts opening typeName closing rest →
      form.AbsentFrom (opening ++ typeName) (closing ++ rest) ∧ first ∉ closing) : form.Apart := by
  rintro typeName _ rest ⟨opening, closing, rfl, parts⟩
  obtain ⟨inMiddle, notInClosing⟩ := absent opening typeName closing rest parts
  have opens : form.keyword.toList.head? = some first := by rw [keyword, List.head?_cons]
  have inner : (form.keyword.toList ++ opening ++ typeName ++ closing).tail =
      others ++ (opening ++ typeName ++ closing) := by simp [keyword]
  rw [inner]
  exact absent_append (absent_of_not_mem first opens once)
    (absent_append inMiddle (absent_of_not_mem first opens notInClosing))

theorem not_mem_of_blanks {space : List Char} (isSpace : ∀ c ∈ space, isBlank c = true) {c : Char}
    (notBlank : isBlank c = false) : c ∉ space := by
  intro member
  rw [isSpace c member] at notBlank
  simp at notBlank

/-! ### The four forms -/

theorem qualifiedImportForm_spaced : qualifiedImportForm.Spaced := by
  rintro _ ⟨gap, front, rfl, isGap, _⟩
  exact ⟨gap, front ++ ['.'], List.append_assoc _ _ _, isGap⟩

theorem qualifiedImportForm_apart : qualifiedImportForm.Apart := by
  refine apart_of_parts 'i' rfl (by decide) fun opening typeName closing rest parts => ?_
  obtain ⟨gap, front, rfl, isGap, isFront⟩ := parts.opens
  obtain ⟨space, rfl, isSpace⟩ := parts.closes
  have isName := run_dotted isFront parts.isType
  have stops : Stops isDotted (space ++ [';'] ++ rest) :=
    stops_behind_blanks isSpace isDotted_eq_false_of_isBlank (by decide)
  rw [List.append_assoc gap, List.append_assoc gap]
  refine ⟨absent_append (absent_of_not_mem 'i' rfl (isGap.not_mem (by decide))) ?_, ?_⟩
  · exact absent_of_suffixed (qualifiedImportForm_spaced.opens isDotted_eq_false_of_isBlank)
      (List.all_eq_true.mp (by decide)) isName.2 stops (parts.ends.append _) (by decide)
  · have inSpace : 'i' ∉ space := not_mem_of_blanks isSpace (by decide)
    simp [inSpace]

theorem namedImportForm_spaced : namedImportForm.Spaced := by
  rintro _ ⟨gap, brace, space, rfl, isGap, _⟩
  exact ⟨gap, brace ++ space, List.append_assoc _ _ _, isGap⟩

theorem namedImportForm_apart : namedImportForm.Apart := by
  refine apart_of_parts 'i' rfl (by decide) fun opening typeName closing rest parts => ?_
  refine ⟨absent_append (absent_of_not_mem 'i' rfl ?_) ?_, ?_⟩
  · obtain ⟨gap, brace, space, rfl, isGap, isBrace, isSpace⟩ := parts.opens
    have inGap : 'i' ∉ gap := isGap.not_mem (by decide)
    have inSpace : 'i' ∉ space := not_mem_of_blanks isSpace (by decide)
    rcases isBrace with rfl | rfl <;> simp [inGap, inSpace]
  · exact absent_of_suffixed (namedImportForm_spaced.opens isWord_eq_false_of_isBlank)
      (List.all_eq_true.mp (by decide)) parts.isType.2 parts.behindType parts.ends (by decide)
  · obtain ⟨space, brace, gap, rfl, isSpace, isBrace, isGap, _⟩ := parts.closes
    have inSpace : 'i' ∉ space := not_mem_of_blanks isSpace (by decide)
    have inGap : 'i' ∉ gap := isGap.not_mem (by decide)
    rcases isBrace with rfl | rfl <;> simp [inGap, inSpace]

theorem absent_from_name {name space : List Char} (isName : Run isWord name)
    (isSpace : ∀ c ∈ space, isBlank c = true) :
    clientAttributeForm.AbsentFrom name (space ++ '=' :: rest) := by
  intro k inside starts
  obtain ⟨tail, text⟩ := starts.keyword
  have word : ∀ c ∈ "self".toList, isWord c = true := List.all_eq_true.mp (by decide)
  have stops {q : Char → Bool} (blank : ∀ c, isBlank c = true → q c = false)
      (sign : q '=' = false) : Stops q (space ++ '=' :: rest) :=
    stops_append (fun c member => blank c (isSpace c member)) (stops_cons.mpr sign)
  have dot : ∀ c, isBlank c = true → (c == '.') = false := by
    intro c blank
    rw [beq_eq_false_iff_ne]
    rintro rfl
    exact absurd blank (by decide)
  have whole : (name ++ (space ++ '=' :: rest)).drop k = "self".toList ++ '.' :: tail := text
  obtain ⟨_, same⟩ := suffix_of_drop_eq isName.2 (stops isWord_eq_false_of_isBlank (by decide)) word
    (stops_cons.mpr (by decide)) inside whole
  have noDot := stops dot (by decide)
  rw [same, stops_cons] at noDot
  simp at noDot

theorem clientAttributeForm_apart : clientAttributeForm.Apart := by
  have opens (text : List Char) (starts : clientAttributeForm.StartsAt text) :
      Opens "self".toList isWord text := by
    obtain ⟨tail, rfl⟩ := starts.keyword
    exact ⟨'.' :: tail, rfl, stops_cons.mpr (by decide)⟩
  refine apart_of_parts 's' rfl (by decide) fun opening typeName closing rest parts => ?_
  obtain ⟨name, space, gap, rfl, isName, isSpace, isGap⟩ := parts.opens
  have inSpace : 's' ∉ space := not_mem_of_blanks isSpace (by decide)
  have inGap : 's' ∉ gap := not_mem_of_blanks isGap (by decide)
  have inMiddle : clientAttributeForm.AbsentFrom (space ++ '=' :: gap)
      (typeName ++ (closing ++ rest)) := absent_of_not_mem 's' rfl (by simp [inSpace, inGap])
  have inType : clientAttributeForm.AbsentFrom typeName (closing ++ rest) :=
    absent_of_suffixed opens (List.all_eq_true.mp (by decide)) parts.isType.2 parts.behindType
      parts.ends (by decide)
  constructor
  · rw [List.append_assoc name, List.append_assoc name]
    refine absent_append ?_ (absent_append inMiddle inType)
    simp only [List.append_assoc]
    exact absent_from_name isName isSpace
  · rw [show closing = ['('] from parts.closes]
    decide

/-- Where the module is a keyword, the type stands in the place of the second keyword. -/
theorem absent_from_module {module space next typeName : List Char} (isModule : Run isDotted module)
    (isSpace : Run isBlank space) (isNext : Run isBlank next) (isType : Run isWord typeName)
    (ends : Cursor.Suffixed fromImportForm.suffixes typeName) (stops : Stops isWord rest) :
    fromImportForm.AbsentFrom module
      (space ++ ("import".toList ++ (next ++ (typeName ++ rest)))) := by
  rintro k inside ⟨other, _, behind, text, _, closing, rfl, parts⟩
  obtain ⟨gap, second, between, last, rfl, isGap, isSecond, isBetween, isLast⟩ := parts.opens
  have firstWord : ∀ c ∈ "from".toList, isDotted c = true := List.all_eq_true.mp (by decide)
  have dotted : ∀ c ∈ "import".toList, isDotted c = true := List.all_eq_true.mp (by decide)
  have word : ∀ c ∈ "import".toList, isWord c = true := List.all_eq_true.mp (by decide)
  simp only [List.append_assoc] at text
  -- The runs behind the two keywords are the same ones, one after the other, up to the type.
  obtain ⟨_, same⟩ := suffix_of_drop_eq isModule.2
    (isSpace.stops isDotted_eq_false_of_isBlank _) firstWord
    (isGap.stops isDotted_eq_false_of_isBlank _) inside text
  obtain ⟨_, same⟩ := runs_unique isSpace.2 (stops_cons.mpr (by decide)) isGap.2
    (isSecond.stops isBlank_eq_false_of_isDotted _) same
  obtain ⟨_, same⟩ := runs_unique dotted (isNext.stops isDotted_eq_false_of_isBlank _) isSecond.2
    (isBetween.stops isDotted_eq_false_of_isBlank _) same
  obtain ⟨_, same⟩ := runs_unique isNext.2 (isType.stops isBlank_eq_false_of_isWord _) isBetween.2
    (stops_cons.mpr (by decide)) same
  obtain ⟨rfl, _⟩ := runs_unique isType.2 stops word
    (isLast.stops isWord_eq_false_of_isBlank _) same
  exact not_suffix_of_suffixed ends (by decide) List.suffix_rfl

theorem fromImportForm_spaced : fromImportForm.Spaced := by
  rintro _ ⟨gap, module, space, next, rfl, isGap, _⟩
  refine ⟨gap, module ++ space ++ "import".toList ++ next, ?_, isGap⟩
  simp only [List.append_assoc]

theorem fromImportForm_apart : fromImportForm.Apart := by
  refine apart_of_parts 'f' rfl (by decide) fun opening typeName closing rest parts => ?_
  obtain ⟨gap, module, space, next, rfl, isGap, isModule, isSpace, isNext⟩ := parts.opens
  have free {run rest : List Char} (outside : 'f' ∉ run) : fromImportForm.AbsentFrom run rest :=
    absent_of_not_mem 'f' rfl outside
  constructor
  · simp only [List.append_assoc]
    refine absent_append (free (isGap.not_mem (by decide))) (absent_append ?_
      (absent_append (free (isSpace.not_mem (by decide))) (absent_append (free (by decide))
        (absent_append (free (isNext.not_mem (by decide))) ?_))))
    · simp only [List.append_assoc]
      exact absent_from_module isModule isSpace isNext parts.isType parts.ends parts.behindType
    · exact absent_of_suffixed (fromImportForm_spaced.opens isWord_eq_false_of_isBlank)
        (List.all_eq_true.mp (by decide)) parts.isType.2 parts.behindType parts.ends (by decide)
  · rw [show closing = [] from parts.closes]
    exact List.not_mem_nil

end Statement

end Downstream
