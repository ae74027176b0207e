import Downstream.Idiom.Statement
import Downstream.Proofs.Idiom.Steps
import Downstream.Proofs.Text.Fields

/-!
The texts of the idioms that are one statement: a keyword, what opens the statement behind it, the
type, and what closes the statement. Where white space may stand on both sides of a brace that is
not there, the two parts of it are one run; so a statement is found however its text is cut.
-/
namespace Downstream.Statement

open Text Cursor

/-- The parts of a statement around the type that it names. What closes it may ask for something
behind it. -/
structure Form where
  keyword : String
  opens : List Char → Prop
  suffixes : List String
  closes : (closing rest : List Char) → Prop

structure Form.Parts (form : Form) (opening typeName closing rest : List Char) : Prop where
  opens : form.opens opening
  beforeType : ∀ c ∈ opening.getLast?, isWord c = false
  isType : Run isWord typeName
  ends : Suffixed form.suffixes typeName
  behindType : Stops isWord (closing ++ rest)
  closes : form.closes closing rest

def Form.Reads (form : Form) (typeName covered rest : List Char) : Prop :=
  ∃ opening closing, covered = form.keyword.toList ++ opening ++ typeName ++ closing ∧
    form.Parts opening typeName closing rest

def Form.Passed (form : Form) (place : Cursor) (typeName : List Char) (last : Cursor) : Prop :=
  ∃ covered, place.Passes covered last ∧ form.Reads typeName covered last.rest

def Form.ReadBy (form : Form) (statement : List Char → Option Capture) : Prop :=
  ∀ cs capture, statement cs = some capture ↔
    ∃ typeName last, form.Passed (start cs) typeName last ∧ last.capture typeName = capture

/-- A dotted name behind white space, up to its last dot; the type goes on from there to a
semicolon. -/
def qualifiedImportForm : Form where
  keyword := "import"
  opens opening := ∃ gap front, opening = gap ++ front ++ ['.'] ∧ Run isBlank gap ∧
    Run isDotted front
  suffixes := ["Client", "Service", "Lambda", "Authority", "Resource"]
  closes closing _ := ∃ space, closing = space ++ [';'] ∧ ∀ c ∈ space, isBlank c = true

def fromImportForm : Form where
  keyword := "from"
  opens opening := ∃ gap module space next,
    opening = gap ++ module ++ space ++ "import".toList ++ next ∧ Run isBlank gap ∧
    Run isDotted module ∧ Run isBlank space ∧ Run isBlank next
  suffixes := ["Client", "Service"]
  closes closing _ := closing = []

def clientAttributeForm : Form where
  keyword := "self."
  opens opening := ∃ name space gap, opening = name ++ space ++ '=' :: gap ∧ Run isWord name ∧
    (∀ c ∈ space, isBlank c = true) ∧ ∀ c ∈ gap, isBlank c = true
  suffixes := ["Client"]
  closes closing _ := closing = ['(']

def namedImportForm : Form where
  keyword := "import"
  opens opening := ∃ gap brace space, opening = gap ++ brace ++ space ∧ Run isBlank gap ∧
    (brace = [] ∨ brace = ['\x7b']) ∧ ∀ c ∈ space, isBlank c = true
  suffixes := ["Client", "Service"]
  closes closing rest := ∃ space brace gap, closing = space ++ brace ++ gap ++ "from".toList ∧
    (∀ c ∈ space, isBlank c = true) ∧ (brace = [] ∨ brace = ['\x7d']) ∧ Run isBlank gap ∧
    Stops isWord rest

variable {form : Form} {place opened typed ended next last : Cursor} {capture : Capture}
  {opening closing dotted typeName : List Char}

theorem Form.Parts.passed (parts : form.Parts opening typeName closing last.rest)
    (toOpened : place.Passes form.keyword.toList opened) (toTyped : opened.Passes opening typed)
    (toEnded : typed.Passes typeName ended) (toLast : ended.Passes closing last) :
    form.Passed place typeName last :=
  ⟨_, ((toOpened.trans toTyped).trans toEnded).trans toLast, opening, closing, rfl, parts⟩

theorem Form.Passed.split (passed : form.Passed place typeName last) :
    ∃ opening closing opened typed ended, place.Passes form.keyword.toList opened ∧
      opened.Passes opening typed ∧ typed.Passes typeName ended ∧ ended.Passes closing last ∧
      form.Parts opening typeName closing last.rest := by
  obtain ⟨_, passes, opening, closing, rfl, parts⟩ := passed
  obtain ⟨ended, passes, toLast⟩ := passes.split
  obtain ⟨typed, passes, toEnded⟩ := passes.split
  obtain ⟨opened, toOpened, toTyped⟩ := passes.split
  exact ⟨opening, closing, opened, typed, ended, toOpened, toTyped, toEnded, toLast, parts⟩

/-! ### Imports of a dotted name -/

theorem lastSegment?_eq_some_iff :
    lastSegment? dotted = some typeName ↔
      ∃ front, front ≠ [] ∧ dotted = front ++ '.' :: typeName ∧ '.' ∉ typeName := by
  rw [lastSegment?]
  constructor
  · intro found
    split at found
    · rename_i longer
      obtain rfl := Option.some.inj found
      by_cases dot : '.' ∈ dotted
      · obtain ⟨front, split, plain⟩ := exists_afterLast dot
        refine ⟨front, ?_, split, plain⟩
        rintro rfl
        have length := congrArg List.length split
        simp only [List.nil_append, List.length_cons] at length
        omega
      · rw [afterLast_of_not_mem dot] at longer
        omega
    · simp at found
  · rintro ⟨front, some_front, rfl, plain⟩
    have positive := List.length_pos_iff.mpr some_front
    rw [afterLast_append plain, if_pos]
    rw [List.length_append, List.length_cons]
    omega

theorem isWord_of_isDotted {c : Char} (dotted : isDotted c = true) (other : c ≠ '.') :
    isWord c = true := by
  simpa [isDotted, other] using dotted

theorem isDotted_eq_false_of_isBlank (c : Char) (blank : isBlank c = true) :
    isDotted c = false := by
  rw [isDotted, isWord_eq_false_of_isBlank c blank, Bool.false_or, beq_eq_false_iff_ne]
  rintro rfl
  exact absurd blank (by decide)

theorem isBlank_eq_false_of_isDotted (c : Char) (dotted : isDotted c = true) :
    isBlank c = false := by
  cases blank : isBlank c with
  | false => rfl
  | true => rw [isDotted_eq_false_of_isBlank c blank] at dotted; simp at dotted

theorem run_dotted {front : List Char} (isFront : Run isDotted front)
    (isType : Run isWord typeName) : Run isDotted (front ++ ['.'] ++ typeName) := by
  refine ⟨by simp, fun c member => ?_⟩
  rw [List.mem_append, List.mem_append, List.mem_singleton] at member
  rcases member with (inFront | rfl) | inType
  · exact isFront.2 c inFront
  · decide
  · rw [isDotted, isType.2 c inType, Bool.true_or]

theorem stops_behind_blanks {q : Char → Bool} {space rest : List Char} {mark : Char}
    (isSpace : ∀ c ∈ space, isBlank c = true) (apart : ∀ c, isBlank c = true → q c = false)
    (notMark : q mark = false) : Stops q (space ++ [mark] ++ rest) := by
  rw [List.append_assoc]
  exact stops_append (fun c member => apart c (isSpace c member)) (stops_cons.mpr notMark)

theorem qualifiedImport_readBy : qualifiedImportForm.ReadBy qualifiedImport := by
  intro cs capture
  simp only [qualifiedImport, Option.bind_eq_bind, Option.bind_eq_some_iff, passText_eq_some_iff,
    passSomeBlanks_eq_some_iff, Prod.exists, readRun_eq_some_iff, lastSegment?_eq_some_iff,
    Option.ite_none_right_eq_some, hasTypeSuffix_iff]
  constructor
  · rintro ⟨opened, toOpened, named, ⟨gap, toNamed, isGap, _⟩, _, ended, ⟨toEnded, isName, _⟩,
      typeName, ⟨front, some_front, rfl, noDot⟩, ends, last, toLast, done⟩
    obtain ⟨space, toMark, isSpace, _⟩ := passRun_eq_iff.mp (rfl : ended.passBlanks = _)
    rw [List.append_cons] at toEnded isName
    obtain ⟨typed, toTyped, toEnded⟩ := toEnded.split
    have isType : ∀ c ∈ typeName, isWord c = true := fun c member =>
      isWord_of_isDotted (isName.2 c (by simp [member])) fun dot => noDot (dot ▸ member)
    have parts : qualifiedImportForm.Parts (gap ++ (front ++ ['.'])) typeName (space ++ [';'])
        last.rest := {
      opens := ⟨gap, front, (List.append_assoc _ _ _).symm, isGap, some_front,
        fun c member => isName.2 c (by simp [member])⟩
      beforeType := by simp; decide
      isType := ⟨ends.ne_nil, isType⟩
      ends := ends
      behindType := stops_behind_blanks isSpace isWord_eq_false_of_isBlank (by decide)
      closes := ⟨space, rfl, isSpace⟩ }
    exact ⟨typeName, last,
      parts.passed toOpened (toNamed.trans toTyped) toEnded (toMark.trans toLast),
      Option.some.inj done⟩
  · rintro ⟨typeName, last, passed, done⟩
    obtain ⟨_, _, opened, typed, ended, toOpened, toTyped, toEnded, toLast, parts⟩ := passed.split
    obtain ⟨gap, front, rfl, isGap, isFront⟩ := parts.opens
    obtain ⟨space, rfl, isSpace⟩ := parts.closes
    obtain ⟨mark, toMark, toLast⟩ := toLast.split
    rw [List.append_assoc] at toTyped
    obtain ⟨named, toNamed, toTyped⟩ := toTyped.split
    have toEnded := toTyped.trans toEnded
    have isName := run_dotted isFront parts.isType
    -- The run of blanks and the dotted name are the longest ones at their places.
    have gapStops := toEnded.stops isName isBlank_eq_false_of_isDotted
    have nameStops : Stops isDotted ended.rest := by
      rw [(toMark.trans toLast).1]
      exact stops_behind_blanks isSpace isDotted_eq_false_of_isBlank (by decide)
    have markStops : Stops isBlank mark.rest := by
      rw [toLast.1]
      exact stops_cons.mpr (by decide)
    have blanks : ended.passBlanks = mark := passRun_eq_iff.mpr ⟨space, toMark, isSpace, markStops⟩
    rw [← blanks] at toLast
    rw [← List.append_cons] at toEnded isName
    have noDot : '.' ∉ typeName := parts.isType.not_mem (by decide)
    exact ⟨opened, toOpened, named, ⟨gap, toNamed, isGap, gapStops⟩, _, ended,
      ⟨toEnded, isName, nameStops⟩, typeName, ⟨front, isFront.1, rfl, noDot⟩, parts.ends, last,
      toLast, congrArg some done⟩

/-! ### Imports from a module -/

theorem fromImport_readBy : fromImportForm.ReadBy fromImport := by
  intro cs capture
  simp only [fromImport, Option.bind_eq_bind, Option.bind_eq_some_iff, passText_eq_some_iff,
    passSomeBlanks_eq_some_iff, Prod.exists, readRun_eq_some_iff, readSuffixed_eq_some_iff]
  constructor
  · rintro ⟨opened, toOpened, named, ⟨gap, toNamed, isGap, _⟩, module, spaced,
      ⟨toSpaced, isModule, _⟩, word, ⟨space, toWord, isSpace, _⟩, between, toBetween, typed,
      ⟨next, toTyped, isNext, _⟩, typeName, last, ⟨toLast, isType, stops, ends⟩, done⟩
    have toTyped := (((toNamed.trans toSpaced).trans toWord).trans toBetween).trans toTyped
    have parts : fromImportForm.Parts (gap ++ module ++ space ++ "import".toList ++ next) typeName
        [] last.rest := {
      opens := ⟨gap, module, space, next, rfl, isGap, isModule, isSpace, isNext⟩
      beforeType := isNext.last isWord_eq_false_of_isBlank _
      isType := isType
      ends := ends
      behindType := stops
      closes := rfl }
    exact ⟨typeName, last, parts.passed toOpened toTyped toLast ⟨rfl, rfl⟩, Option.some.inj done⟩
  · rintro ⟨typeName, last, passed, done⟩
    obtain ⟨_, _, opened, typed, ended, toOpened, toTyped, toEnded, toLast, parts⟩ := passed.split
    obtain ⟨gap, module, space, next, rfl, isGap, isModule, isSpace, isNext⟩ := parts.opens
    obtain rfl := parts.closes
    obtain rfl := passes_nil_iff.mp toLast
    obtain ⟨between, toTyped, isTyped⟩ := toTyped.split
    obtain ⟨word, toTyped, toBetween⟩ := toTyped.split
    obtain ⟨spaced, toTyped, toWord⟩ := toTyped.split
    obtain ⟨named, toNamed, toSpaced⟩ := toTyped.split
    have gapStops := toSpaced.stops isModule isBlank_eq_false_of_isDotted
    have moduleStops := toWord.stops isSpace isDotted_eq_false_of_isBlank
    have spaceStops : Stops isBlank word.rest := by
      rw [toBetween.1]
      exact stops_cons.mpr (by decide)
    have nextStops := toEnded.stops parts.isType isBlank_eq_false_of_isWord
    exact ⟨opened, toOpened, named, ⟨gap, toNamed, isGap, gapStops⟩, module, spaced,
      ⟨toSpaced, isModule, moduleStops⟩, word, ⟨space, toWord, isSpace, spaceStops⟩, between,
      toBetween, typed, ⟨next, isTyped, isNext, nextStops⟩, typeName, last,
      ⟨toEnded, parts.isType, parts.behindType, parts.ends⟩, congrArg some done⟩

/-! ### Attributes -/

theorem clientAttribute_readBy : clientAttributeForm.ReadBy clientAttribute := by
  intro cs capture
  simp only [clientAttribute, Option.bind_eq_bind, Option.bind_eq_some_iff, passText_eq_some_iff,
    Prod.exists, readWord_eq_some_iff, readSuffixed_eq_some_iff]
  constructor
  · rintro ⟨opened, toOpened, name, named, ⟨toNamed, isName, _⟩, assigned, toAssigned, typeName,
      ended, ⟨toEnded, isType, stops, ends⟩, last, toLast, done⟩
    obtain ⟨space, toSign, isSpace, _⟩ := passRun_eq_iff.mp (rfl : named.passBlanks = _)
    obtain ⟨gap, toTyped, isGap, _⟩ := passRun_eq_iff.mp (rfl : assigned.passBlanks = _)
    have toTyped := ((toNamed.trans toSign).trans toAssigned).trans toTyped
    have opens : clientAttributeForm.opens (name ++ space ++ ['='] ++ gap) :=
      ⟨name, space, gap, by simp, isName, isSpace, isGap⟩
    have parts : clientAttributeForm.Parts (name ++ space ++ ['='] ++ gap) typeName ['(']
        last.rest := {
      opens := opens
      beforeType := last_append (by simp; decide) fun c member =>
        isWord_eq_false_of_isBlank c (isGap c member)
      isType := isType
      ends := ends
      behindType := stops_cons.mpr (by decide)
      closes := rfl }
    exact ⟨typeName, last, parts.passed toOpened toTyped toEnded toLast, Option.some.inj done⟩
  · rintro ⟨typeName, last, passed, done⟩
    obtain ⟨_, _, opened, typed, ended, toOpened, toTyped, toEnded, toLast, parts⟩ := passed.split
    obtain ⟨name, space, gap, rfl, isName, isSpace, isGap⟩ := parts.opens
    obtain rfl := parts.closes
    rw [List.append_cons] at toTyped
    obtain ⟨assigned, toTyped, isTyped⟩ := toTyped.split
    obtain ⟨sign, toTyped, toAssigned⟩ := toTyped.split
    obtain ⟨named, toNamed, toSign⟩ := toTyped.split
    have signStops : Stops isBlank sign.rest := by
      rw [toAssigned.1]
      exact stops_cons.mpr (by decide)
    have nameStops : Stops isWord named.rest := by
      rw [(toSign.trans toAssigned).1]
      exact stops_behind_blanks isSpace isWord_eq_false_of_isBlank (by decide)
    have typeStops : Stops isWord ended.rest := by
      rw [toLast.1]
      exact parts.behindType
    have gapStops := toEnded.stops parts.isType isBlank_eq_false_of_isWord
    rw [← passRun_eq_iff.mpr ⟨space, toSign, isSpace, signStops⟩] at toAssigned
    rw [← passRun_eq_iff.mpr ⟨gap, isTyped, isGap, gapStops⟩] at toEnded
    exact ⟨opened, toOpened, name, named, ⟨toNamed, isName, nameStops⟩, assigned, toAssigned,
      typeName, ended, ⟨toEnded, parts.isType, typeStops, parts.ends⟩, last, toLast,
      congrArg some done⟩

/-! ### Imports by name -/

theorem passText_eq_none {mark : Char} {text : String} (marked : text.toList = [mark])
    (other : Stops (· == mark) place.rest) : place.passText text = none := by
  rw [Option.eq_none_iff_forall_ne_some]
  intro next passed
  have front := (passText_eq_some_iff.mp passed).1
  rw [front, marked, List.singleton_append, stops_cons, beq_self_eq_true] at other
  simp at other

theorem passBlanks_eq_self (stops : Stops isBlank place.rest) : place.passBlanks = place :=
  passRun_eq_iff.mpr ⟨[], passes_nil_iff.mpr rfl, by simp, stops⟩

theorem opens_namedImportForm (wordStarts : Stops (fun c => !isWord c) typed.rest) :
    (∃ gap, opened.passSomeBlanks = some gap ∧ (passOptional "\x7b" gap).passBlanks = typed) ↔
      ∃ opening, opened.Passes opening typed ∧ namedImportForm.opens opening := by
  constructor
  · rintro ⟨braced, atGap, atType⟩
    obtain ⟨gap, toBraced, isGap, _⟩ := passSomeBlanks_eq_some_iff.mp atGap
    rw [passOptional] at atType
    cases brace : braced.passText "\x7b" with
    | none =>
      rw [brace, Option.getD_none] at atType
      obtain ⟨space, toTyped, isSpace, _⟩ := passRun_eq_iff.mp atType
      exact ⟨gap ++ [] ++ space, by simpa using toBraced.trans toTyped, gap, [], space, rfl, isGap,
        Or.inl rfl, isSpace⟩
    | some spaced =>
      rw [brace, Option.getD_some] at atType
      have toSpaced := passText_eq_some_iff.mp brace
      obtain ⟨space, toTyped, isSpace, _⟩ := passRun_eq_iff.mp atType
      exact ⟨gap ++ ['\x7b'] ++ space, (toBraced.trans toSpaced).trans toTyped, gap, ['\x7b'],
        space, rfl, isGap, Or.inr rfl, isSpace⟩
  · rintro ⟨_, toTyped, gap, brace, space, rfl, isGap, isBrace, isSpace⟩
    have blankStops : Stops isBlank typed.rest := fun c first =>
      isBlank_eq_false_of_isWord c (by simpa using wordStarts c first)
    rcases isBrace with rfl | rfl
    · -- Without the brace, the white space is one run.
      rw [List.append_nil] at toTyped
      have isRun : Run isBlank (gap ++ space) :=
        ⟨by simp [isGap.1], List.forall_mem_append.mpr ⟨isGap.2, isSpace⟩⟩
      have noBrace : Stops (· == '\x7b') typed.rest := by
        intro c first
        rw [beq_eq_false_iff_ne]
        rintro rfl
        exact absurd (wordStarts _ first) (by decide)
      refine ⟨typed, passSomeBlanks_eq_some_iff.mpr ⟨_, toTyped, isRun, blankStops⟩, ?_⟩
      rw [passOptional, passText_eq_none rfl noBrace, Option.getD_none,
        passBlanks_eq_self blankStops]
    · obtain ⟨spaced, toTyped, isTyped⟩ := toTyped.split
      obtain ⟨braced, toBraced, toSpaced⟩ := toTyped.split
      have gapStops : Stops isBlank braced.rest := by
        rw [toSpaced.1]
        exact stops_cons.mpr (by decide)
      refine ⟨braced, passSomeBlanks_eq_some_iff.mpr ⟨_, toBraced, isGap, gapStops⟩, ?_⟩
      have brace : braced.passText "\x7b" = some spaced := passText_eq_some_iff.mpr toSpaced
      rw [passOptional, brace, Option.getD_some]
      exact passRun_eq_iff.mpr ⟨space, isTyped, isSpace, blankStops⟩

def passClosing (place : Cursor) : Option Cursor :=
  match place.passBlanks.passText "\x7d" with
  | some closed => closed.passSomeBlanks
  | none => place.passSomeBlanks

theorem closes_namedImportForm :
    (∃ closed, passClosing ended = some closed ∧ closed.Passes "from".toList last ∧
        Stops isWord last.rest) ↔
      ∃ closing, ended.Passes closing last ∧ namedImportForm.closes closing last.rest := by
  unfold passClosing
  constructor
  · rintro ⟨closed, atClosed, toLast, stops⟩
    split at atClosed
    · rename_i braced atBraced
      obtain ⟨space, toBrace, isSpace, _⟩ := passRun_eq_iff.mp (rfl : ended.passBlanks = _)
      have toBraced := passText_eq_some_iff.mp atBraced
      obtain ⟨gap, toClosed, isGap, _⟩ := passSomeBlanks_eq_some_iff.mp atClosed
      exact ⟨_, ((toBrace.trans toBraced).trans toClosed).trans toLast, space, ['\x7d'], gap, rfl,
        isSpace, Or.inr rfl, isGap, stops⟩
    · obtain ⟨gap, toClosed, isGap, _⟩ := passSomeBlanks_eq_some_iff.mp atClosed
      exact ⟨_, toClosed.trans toLast, [], [], gap, rfl, by simp, Or.inl rfl, isGap, stops⟩
  · rintro ⟨_, passes, space, brace, gap, rfl, isSpace, isBrace, isGap, stops⟩
    obtain ⟨closed, toClosed, toLast⟩ := passes.split
    have closedStops : Stops isBlank closed.rest := by
      rw [toLast.1]
      exact stops_cons.mpr (by decide)
    rcases isBrace with rfl | rfl
    · -- Without the brace, the white space is one run.
      rw [List.append_nil] at toClosed
      have isRun : Run isBlank (space ++ gap) :=
        ⟨by simp [isGap.1], List.forall_mem_append.mpr ⟨isSpace, isGap.2⟩⟩
      have noBrace : Stops (· == '\x7d') closed.rest := by
        rw [toLast.1]
        exact stops_cons.mpr (by decide)
      have blanks : ended.passBlanks = closed :=
        passRun_eq_iff.mpr ⟨_, toClosed, isRun.2, closedStops⟩
      refine ⟨closed, ?_, toLast, stops⟩
      rw [blanks, passText_eq_none rfl noBrace]
      exact passSomeBlanks_eq_some_iff.mpr ⟨_, toClosed, isRun, closedStops⟩
    · obtain ⟨braced, toBraced, toClosed⟩ := toClosed.split
      obtain ⟨blank, toBlank, toBraced⟩ := toBraced.split
      have braceStops : Stops isBlank blank.rest := by
        rw [toBraced.1]
        exact stops_cons.mpr (by decide)
      have blanks : ended.passBlanks = blank :=
        passRun_eq_iff.mpr ⟨_, toBlank, isSpace, braceStops⟩
      have atBraced : blank.passText "\x7d" = some braced := passText_eq_some_iff.mpr toBraced
      refine ⟨closed, ?_, toLast, stops⟩
      rw [blanks, atBraced]
      exact passSomeBlanks_eq_some_iff.mpr ⟨_, toClosed, isGap, closedStops⟩

theorem beforeType_of_opens (opens : namedImportForm.opens opening) :
    ∀ c ∈ opening.getLast?, isWord c = false := by
  obtain ⟨gap, brace, space, rfl, isGap, isBrace, isSpace⟩ := opens
  have notWord := fun c member => isWord_eq_false_of_isBlank c (isSpace c member)
  refine last_append (last_append ?_ ?_) notWord
  · exact isGap.last isWord_eq_false_of_isBlank []
  · rcases isBrace with rfl | rfl
    · simp
    · simp; decide

theorem behindType_of_closes {rest : List Char} (closes : namedImportForm.closes closing rest) :
    Stops isWord (closing ++ rest) := by
  obtain ⟨space, brace, gap, rfl, isSpace, isBrace, isGap, _⟩ := closes
  simp only [List.append_assoc]
  refine stops_append (fun c member => isWord_eq_false_of_isBlank c (isSpace c member)) ?_
  refine stops_append ?_ (isGap.stops isWord_eq_false_of_isBlank _)
  rcases isBrace with rfl | rfl
  · simp
  · simp; decide

theorem namedImport_eq (cs : List Char) : namedImport cs = (do
    let opened ← (start cs).passText "import"
    let gap ← opened.passSomeBlanks
    let (typeName, ended) ←
      (passOptional "\x7b" gap).passBlanks.readSuffixed ["Client", "Service"]
    let closed ← passClosing ended
    let last ← closed.passText "from"
    if last.atWordEnd then some (last.capture typeName) else none) := by
  unfold namedImport passClosing
  refine bind_congr fun opened => bind_congr fun gap => bind_congr fun read => ?_
  dsimp only
  cases read.2.passBlanks.passText "\x7d" <;> rfl

theorem namedImport_readBy : namedImportForm.ReadBy namedImport := by
  intro cs capture
  simp only [namedImport_eq, Option.bind_eq_bind, Option.bind_eq_some_iff, passText_eq_some_iff,
    Prod.exists, readSuffixed_eq_some_iff, Option.ite_none_right_eq_some, atWordEnd_iff]
  constructor
  · rintro ⟨opened, toOpened, gap, atGap, typeName, ended, ⟨toEnded, isType, _, ends⟩, closed,
      atClosed, last, toLast, lastStops, done⟩
    have wordStarts := toEnded.stops isType fun c word => (by simp [word] : (!isWord c) = false)
    obtain ⟨opening, toTyped, opens⟩ := (opens_namedImportForm wordStarts).mp ⟨gap, atGap, rfl⟩
    obtain ⟨closing, toLast, closes⟩ :=
      closes_namedImportForm.mp ⟨closed, atClosed, toLast, lastStops⟩
    have parts : namedImportForm.Parts opening typeName closing last.rest :=
      ⟨opens, beforeType_of_opens opens, isType, ends, behindType_of_closes closes, closes⟩
    exact ⟨typeName, last, parts.passed toOpened toTyped toEnded toLast, Option.some.inj done⟩
  · rintro ⟨typeName, last, passed, done⟩
    obtain ⟨opening, closing, opened, typed, ended, toOpened, toTyped, toEnded, toLast, parts⟩ :=
      passed.split
    have isType := parts.isType
    have wordStarts := toEnded.stops isType fun c word => (by simp [word] : (!isWord c) = false)
    obtain ⟨gap, atGap, atType⟩ :=
      (opens_namedImportForm wordStarts).mpr ⟨opening, toTyped, parts.opens⟩
    obtain ⟨closed, atClosed, toFrom, lastStops⟩ :=
      closes_namedImportForm.mpr ⟨closing, toLast, parts.closes⟩
    have typeStops : Stops isWord ended.rest := by
      rw [toLast.1]
      exact parts.behindType
    rw [← atType] at toEnded
    exact ⟨opened, toOpened, gap, atGap, typeName, ended,
      ⟨toEnded, isType, typeStops, parts.ends⟩, closed, atClosed, last, toFrom, lastStops,
      congrArg some done⟩

end Downstream.Statement
