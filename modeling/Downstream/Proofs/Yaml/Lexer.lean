import Downstream.Proofs.Except
import Downstream.Yaml.Token.Lexer
import Mathlib.Data.List.TakeWhile

/-!
The failures of the lexer. Apart from a text that breaks the format these are escapes that name no
character and version numbers that are too long to be read.
-/
namespace Downstream

namespace Number

section Digits

variable {digits : List Char} (all : ∀ c ∈ digits, c.isDigit = true)
include all

theorem not_mem_of_digits {c : Char} (other : c.isDigit = false) : c ∉ digits := by
  intro member
  rw [all c member] at other
  exact Bool.noConfusion other

theorem plainDigits_digits : plainDigits digits = digits := by
  induction digits with
  | nil => rfl
  | cons c cs ih =>
    obtain ⟨digit, later⟩ := List.forall_mem_cons.mp all
    have plain : c.toNat < 127 := Nat.lt_of_le_of_lt (Char.isDigit_iff_toNat.mp digit).2 (by decide)
    rw [plainDigits, if_pos plain, ih later]

theorem isDigitOf_ten_of_mem : ∀ c ∈ digits, isDigitOf 10 c = true := by
  intro c member
  obtain ⟨low, high⟩ : 48 ≤ c.toNat ∧ c.toNat ≤ 57 := Char.isDigit_iff_toNat.mp (all c member)
  have digit : '0' ≤ c ∧ c ≤ '9' := ⟨low, high⟩
  simp only [isDigitOf, digitValue?, digit, decide_true, Bool.and_true, if_true,
    Option.any_some, decide_eq_true_eq]
  omega

theorem dropBaseMark_ten : dropBaseMark 10 digits = digits := by
  unfold dropBaseMark
  split
  · simp
  · rfl

theorem underscoresSingle_digits : underscoresSingle digits = true := by
  have notIn := not_mem_of_digits all (c := '_') (by decide)
  have notFirst : digits.head? ≠ some '_' := fun first => notIn (List.mem_of_head? first)
  have notLast : digits.getLast? ≠ some '_' := fun last => notIn (List.mem_of_getLast? last)
  have notPair : ('_', '_') ∉ digits.zip digits.tail := fun pair => notIn (List.of_mem_zip pair).1
  simp [underscoresSingle, notFirst, notLast, notPair]

theorem readInteger_digits (nonempty : digits ≠ []) :
    readInteger 10 (String.ofList digits) =
      if maxDecimalDigits < digits.length then .error (.tooManyDigits digits.length)
      else .ok (digitsValue 10 digits) := by
  have noBlank : digits.dropWhile isPlainBlank = digits := by
    obtain ⟨first, others, rfl⟩ := List.exists_cons_of_ne_nil nonempty
    refine List.dropWhile_cons_of_neg fun blank => ?_
    have digit := all first List.mem_cons_self
    obtain ⟨low, _⟩ : 48 ≤ first.toNat ∧ first.toNat ≤ 57 := Char.isDigit_iff_toNat.mp digit
    simp only [isPlainBlank, Bool.or_eq_true, beq_iff_eq, Bool.and_eq_true,
      decide_eq_true_eq] at blank
    rcases blank with rfl | ⟨_, control⟩
    · exact absurd low (by decide)
    · omega
  have run : digits.takeWhile (fun c => c == '_' || isDigitOf 10 c) = digits :=
    List.takeWhile_eq_self_iff.mpr fun c member => by simp [isDigitOf_ten_of_mem all c member]
  have solid : digits.filter (· != '_') = digits :=
    List.filter_eq_self.mpr fun c member => bne_iff_ne.mpr fun same =>
      not_mem_of_digits all (by decide) (same ▸ member)
  unfold readInteger
  simp only [String.toList_ofList, plainDigits_digits all, noBlank]
  split
  · exact absurd List.mem_cons_self (not_mem_of_digits all (c := '-') (by decide))
  · exact absurd List.mem_cons_self (not_mem_of_digits all (c := '+') (by decide))
  · simp [dropBaseMark_ten all, run, solid, underscoresSingle_digits all, nonempty]

end Digits

end Number

namespace Yaml

inductive LexerFailure : Failure → Prop
  | malformed (complaint : Complaint) : LexerFailure (.malformed complaint)
  | noSuchCharacter : LexerFailure .noSuchCharacter
  | characterOverflow : LexerFailure .characterOverflow
  | longVersion (count : Nat) : Number.maxDecimalDigits < count →
    LexerFailure (.integer (.tooManyDigits count))

theorem Place.failsOnly_fails {α : Type} (p : Place) (problem : Problem) :
    FailsOnly LexerFailure (p.fails problem : Except Failure α) :=
  .malformed _

theorem Place.failsOnly_failsIn {α : Type} (p : Place) (context : Context) (since : Mark)
    (problem : Problem) :
    FailsOnly LexerFailure (p.failsIn context since problem : Except Failure α) :=
  .malformed _

/-! ### Names -/

namespace Tag

theorem failsOnly_anchorName (what : String) (p : Place) :
    FailsOnly LexerFailure (anchorName what p) := by
  unfold anchorName
  dsimp only
  split
  · trivial
  · exact Place.failsOnly_failsIn _ _ _ _

variable {u : Purpose}

theorem Purpose.failsOnly_fails {α : Type} (p : Place) (problem : Problem) :
    FailsOnly LexerFailure (u.fails p problem : Except Failure α) :=
  .malformed _

theorem Purpose.failsOnly_failsInParts {α : Type} (p : Place) (problem : Problem) :
    FailsOnly LexerFailure (u.failsInParts p problem : Except Failure α) :=
  .malformed _

theorem failsOnly_escapedBytes (steps : Nat) (p : Place) :
    FailsOnly LexerFailure (escapedBytes u steps p) := by
  induction steps generalizing p with
  | zero => trivial
  | succ steps ih =>
    rw [escapedBytes]
    split
    · dsimp only
      split
      · exact (ih _).bind fun _ => trivial
      · exact Purpose.failsOnly_fails _ _
    · trivial

theorem failsOnly_tagText (steps : Nat) (p : Place) :
    FailsOnly LexerFailure (tagText u steps p) := by
  induction steps generalizing p with
  | zero => trivial
  | succ steps ih =>
    rw [tagText]
    dsimp only
    split
    · refine (failsOnly_escapedBytes _ _).bind fun escaped => ?_
      split
      · exact Purpose.failsOnly_fails _ _
      · exact (ih _).bind fun _ => trivial
    · trivial

theorem failsOnly_tagUri (p : Place) : FailsOnly LexerFailure (tagUri u p) := by
  refine (failsOnly_tagText _ _).bind fun text => ?_
  dsimp only
  split
  · exact Purpose.failsOnly_failsInParts _ _
  · trivial

theorem failsOnly_handle (p : Place) : FailsOnly LexerFailure (handle u p) := by
  unfold handle
  dsimp only
  split
  · exact Purpose.failsOnly_fails _ _
  · split
    · trivial
    · split
      · trivial
      · exact Purpose.failsOnly_fails _ _

theorem failsOnly_tag (p : Place) : FailsOnly LexerFailure (tag p) := by
  unfold tag
  extract_lets u c result
  have ends (found : Token × Place) : FailsOnly LexerFailure (result found) := by
    unfold result
    dsimp only
    split
    · trivial
    · exact Purpose.failsOnly_fails _ _
  split
  · refine (failsOnly_tagUri _).bind fun suffix => ?_
    dsimp only
    split
    · exact ends (_, _)
    · exact (Purpose.failsOnly_failsInParts _ _).bind ends
  · split
    · exact ends (_, _)
    · have suffixed (named : String × Place) : FailsOnly LexerFailure
          (tagUri u named.2 >>= fun suffix =>
            result (.tag (some named.1) suffix.1, suffix.2)) :=
        (failsOnly_tagUri _).bind fun _ => ends (_, _)
      split
      · exact (failsOnly_handle _).bind suffixed
      · exact suffixed ("!", p.next)

theorem failsOnly_versionNumber (p : Place) : FailsOnly LexerFailure (versionNumber u p) := by
  unfold versionNumber Place.takeRun
  dsimp only
  split
  · exact Purpose.failsOnly_fails _ _
  · rename_i nonempty
    rw [List.isEmpty_iff] at nonempty
    rw [Number.readInteger_digits (fun c => List.mem_takeWhile_imp) nonempty]
    split
    · trivial
    · rename_i e refused
      split at refused
      · rename_i long
        obtain rfl := Except.error.inj refused
        exact .longVersion _ long
      · simp at refused

theorem failsOnly_version (p : Place) : FailsOnly LexerFailure (version u p) := by
  refine (failsOnly_versionNumber _).bind fun major => ?_
  have minor : FailsOnly LexerFailure (versionNumber u major.2.next >>= fun minor =>
      if endsWord minor.2.here then pure (Directive.version major.1 minor.1, minor.2)
      else u.fails minor.2 (.expectedText "a digit or ' '" minor.2.here)) := by
    refine (failsOnly_versionNumber _).bind fun minor => ?_
    split
    · trivial
    · exact Purpose.failsOnly_fails _ _
  dsimp only
  split
  · exact (Purpose.failsOnly_fails _ _).bind fun _ => minor
  · exact minor

theorem failsOnly_handleDefinition (p : Place) :
    FailsOnly LexerFailure (handleDefinition u p) := by
  refine (failsOnly_handle _).bind fun name => ?_
  have expansion : FailsOnly LexerFailure
      (tagUri u (name.2.skipRun (· == ' ')) >>= fun expansion =>
        if endsWord expansion.2.here then
          pure (Directive.tagHandle name.1 expansion.1, expansion.2)
        else u.fails expansion.2 (.expectedText "' '" expansion.2.here)) := by
    refine (failsOnly_tagUri _).bind fun expansion => ?_
    split
    · trivial
    · exact Purpose.failsOnly_fails _ _
  dsimp only
  split
  · exact (Purpose.failsOnly_fails _ _).bind fun _ => expansion
  · exact expansion

theorem failsOnly_directiveText (p : Place) : FailsOnly LexerFailure (directiveText u p) := by
  unfold directiveText
  dsimp only
  split
  · exact Purpose.failsOnly_fails _ _
  · split
    · exact failsOnly_version _
    · split
      · exact failsOnly_handleDefinition _
      · trivial

theorem failsOnly_directive (p : Place) : FailsOnly LexerFailure (directive p) := by
  refine (failsOnly_directiveText p).bind fun content => ?_
  dsimp only
  split
  · trivial
  · exact Purpose.failsOnly_fails _ _

end Tag

/-! ### Scalars -/

namespace Quoted

variable {start : Mark}

theorem failsOnly_breaks (steps : Nat) (p : Place) :
    FailsOnly LexerFailure (breaks start steps p) := by
  induction steps generalizing p with
  | zero => trivial
  | succ steps ih =>
    rw [breaks]
    split
    · exact Place.failsOnly_failsIn _ _ _ _
    · dsimp only
      split
      · exact (ih _).bind fun _ => trivial
      · trivial

theorem failsOnly_charOfCode (code : Nat) : FailsOnly LexerFailure (charOfCode code) := by
  unfold charOfCode
  split
  · exact .characterOverflow
  · split
    · exact .noSuchCharacter
    · trivial

theorem failsOnly_escape (p : Place) : FailsOnly LexerFailure (escape start p) := by
  unfold escape
  split
  · trivial
  · split
    · dsimp only
      split
      · exact (failsOnly_charOfCode _).bind fun _ => trivial
      · exact Place.failsOnly_failsIn _ _ _ _
    · split
      · exact failsOnly_breaks _ _
      · exact Place.failsOnly_failsIn _ _ _ _

theorem failsOnly_solid (double : Bool) (steps : Nat) (p : Place) :
    FailsOnly LexerFailure (solid double start steps p) := by
  induction steps generalizing p with
  | zero => trivial
  | succ steps ih =>
    rw [solid]
    dsimp only
    split
    · exact (ih _).bind fun _ => trivial
    · split
      · exact (ih _).bind fun _ => trivial
      · split
        · exact (failsOnly_escape _).bind fun _ => (ih _).bind fun _ => trivial
        · trivial

theorem failsOnly_blanks (p : Place) : FailsOnly LexerFailure (blanks start p) := by
  unfold blanks
  dsimp only
  split
  · exact Place.failsOnly_failsIn _ _ _ _
  · split
    · refine (failsOnly_breaks _ _).bind fun others => ?_
      split
      · trivial
      · split <;> trivial
    · trivial

theorem failsOnly_body (quote : Char) (steps : Nat) (p : Place) :
    FailsOnly LexerFailure (body quote start steps p) := by
  induction steps generalizing p with
  | zero => exact Place.failsOnly_failsIn _ _ _ _
  | succ steps ih =>
    rw [body]
    refine (failsOnly_solid _ _ _).bind fun piece => ?_
    dsimp only
    split
    · trivial
    · exact (failsOnly_blanks _).bind fun _ => (ih _).bind fun _ => trivial

theorem failsOnly_scan (p : Place) : FailsOnly LexerFailure (scan p) :=
  (failsOnly_body _ _ _).bind fun _ => trivial

end Quoted

namespace Block

variable {start : Mark}

theorem failsOnly_increment? (p : Place) : FailsOnly LexerFailure (increment? start p) := by
  unfold increment?
  split
  · split
    · exact Place.failsOnly_failsIn _ _ _ _
    · trivial
  · trivial

theorem failsOnly_check (chomping : Chomping) (increment : Option Nat) (p : Place) :
    FailsOnly LexerFailure (header.check start chomping increment p) := by
  unfold header.check
  split
  · trivial
  · exact Place.failsOnly_failsIn _ _ _ _

theorem failsOnly_header (p : Place) : FailsOnly LexerFailure (header start p) := by
  unfold header
  split
  · exact (failsOnly_increment? _).bind fun _ => failsOnly_check _ _ _
  · refine (failsOnly_increment? _).bind fun increment => ?_
    dsimp only
    split <;> exact failsOnly_check _ _ _

theorem failsOnly_restOfLine (p : Place) : FailsOnly LexerFailure (restOfLine start p) := by
  unfold restOfLine
  dsimp only
  split
  · trivial
  · exact Place.failsOnly_failsIn _ _ _ _

theorem failsOnly_scan (blockIndent : Int) (p : Place) :
    FailsOnly LexerFailure (scan blockIndent p) := by
  exact (failsOnly_header _).bind fun _ => (failsOnly_restOfLine _).bind fun _ => trivial

end Block

/-! ### Tokens -/

namespace Lexer

theorem failsOnly_noKey {α : Type} (s : Lexer) (key : PossibleKey) :
    FailsOnly LexerFailure (s.noKey key : Except Failure α) :=
  Place.failsOnly_failsIn _ _ _ _

theorem failsOnly_dropStale (s : Lexer) : FailsOnly LexerFailure s.dropStale := by
  unfold dropStale
  split
  · exact s.failsOnly_noKey _
  · trivial

theorem failsOnly_dropKey (s : Lexer) : FailsOnly LexerFailure s.dropKey := by
  unfold dropKey
  split
  · trivial
  · split
    · exact s.failsOnly_noKey _
    · trivial

theorem failsOnly_saveKey (s : Lexer) : FailsOnly LexerFailure s.saveKey := by
  unfold saveKey
  split
  · exact s.failsOnly_dropKey.bind fun _ => trivial
  · trivial

theorem failsOnly_documentMark (s : Lexer) (token : Token) :
    FailsOnly LexerFailure (s.documentMark token) :=
  (failsOnly_dropKey _).bind fun _ => trivial

theorem failsOnly_openFlow (s : Lexer) (token : Token) :
    FailsOnly LexerFailure (s.openFlow token) :=
  s.failsOnly_saveKey.bind fun _ => trivial

theorem failsOnly_closeFlow (s : Lexer) (token : Token) :
    FailsOnly LexerFailure (s.closeFlow token) :=
  s.failsOnly_dropKey.bind fun _ => trivial

theorem failsOnly_flowEntry (s : Lexer) : FailsOnly LexerFailure s.flowEntry :=
  (failsOnly_dropKey _).bind fun _ => trivial

theorem failsOnly_allowed {α : Type} {forbidden : Bool} (s : Lexer) (what : String)
    {rest : Unit → Except Failure α} (later : ∀ passed, FailsOnly LexerFailure (rest passed)) :
    FailsOnly LexerFailure
      (if forbidden then s.place.fails (.notAllowedHere what) >>= rest else rest ()) := by
  split
  · exact (Place.failsOnly_fails _ _).bind later
  · exact later ()

theorem failsOnly_blockEntry (s : Lexer) : FailsOnly LexerFailure s.blockEntry := by
  unfold blockEntry
  refine s.failsOnly_allowed "sequence entries" fun _ => ?_
  exact (failsOnly_dropKey _).bind fun _ => trivial

theorem failsOnly_explicitKey (s : Lexer) : FailsOnly LexerFailure s.explicitKey := by
  unfold explicitKey
  refine s.failsOnly_allowed "mapping keys" fun _ => ?_
  exact (failsOnly_dropKey _).bind fun _ => trivial

theorem failsOnly_value (s : Lexer) : FailsOnly LexerFailure s.value := by
  unfold value
  split
  · trivial
  · exact s.failsOnly_allowed "mapping values" fun _ => (failsOnly_dropKey _).bind fun _ => trivial

theorem failsOnly_keyed (s : Lexer) {read : Place → Except Failure (Token × Place)}
    (reads : ∀ p, FailsOnly LexerFailure (read p)) : FailsOnly LexerFailure (s.keyed read) :=
  s.failsOnly_saveKey.bind fun s => (reads s.place).bind fun _ => trivial

theorem failsOnly_quotedScalar (p : Place) : FailsOnly LexerFailure (quotedScalar p) :=
  (Quoted.failsOnly_scan p).bind fun _ => trivial

theorem failsOnly_plainScalar (s : Lexer) : FailsOnly LexerFailure s.plainScalar :=
  s.failsOnly_saveKey.bind fun _ => trivial

theorem failsOnly_blockScalar (s : Lexer) : FailsOnly LexerFailure s.blockScalar :=
  (failsOnly_dropKey _).bind fun s => (Block.failsOnly_scan s.indent s.place).bind fun _ => trivial

section Run

-- Where the next token stands does not matter here, and working it out is costly.
attribute [local irreducible] toNextToken

theorem failsOnly_nextToken (s : Lexer) : FailsOnly LexerFailure s.nextToken := by
  unfold nextToken
  refine s.toNextToken.failsOnly_dropStale.bind fun s => ?_
  extract_lets s p c atIndicatorEnd atDocumentMark
  refine .ite trivial (.ite ?_ ?_)
  · exact (failsOnly_dropKey _).bind fun s => (Tag.failsOnly_directive s.place).bind fun _ => trivial
  refine .ite (.map (failsOnly_documentMark _ _) _) (.ite (.map (failsOnly_documentMark _ _) _) ?_)
  refine .ite (.map (failsOnly_openFlow _ _) _) (.ite (.map (failsOnly_openFlow _ _) _) ?_)
  refine .ite (.map (failsOnly_closeFlow _ _) _) (.ite (.map (failsOnly_closeFlow _ _) _) ?_)
  refine .ite (.map (failsOnly_flowEntry _) _) (.ite (.map (failsOnly_blockEntry _) _) ?_)
  refine .ite (.map (failsOnly_explicitKey _) _) (.ite (.map (failsOnly_value _) _) ?_)
  have named (what : String) (token : String → Token) : FailsOnly LexerFailure
      (s.keyed fun p => Tag.anchorName what p >>= fun name => pure (token name.1, name.2)) :=
    failsOnly_keyed s fun p => (Tag.failsOnly_anchorName what p).bind fun _ => trivial
  refine .ite (.map (named _ _) _) (.ite (.map (named _ _) _) ?_)
  refine .ite (.map (failsOnly_keyed s Tag.failsOnly_tag) _) ?_
  refine .ite (.map (failsOnly_blockScalar _) _) ?_
  refine .ite (.map (failsOnly_keyed s failsOnly_quotedScalar) _) ?_
  refine .ite (.map (failsOnly_plainScalar _) _) ?_
  exact .malformed _

theorem run_succ (settled steps : Nat) (s : Lexer) :
    run settled (steps + 1) s =
      match s.dropStale with
      | .error failure => ⟨s.firstTokens settled, some failure⟩
      | .ok s =>
        match s.nextToken with
        | .error failure => ⟨s.firstTokens s.settledCount, some failure⟩
        | .ok (some next) => run s.settledCount steps next
        | .ok none =>
          match (s.toNextToken.unwind (-1)).dropKey with
          | .error failure => ⟨s.firstTokens s.settledCount, some failure⟩
          | .ok s => ⟨(s.emit .streamEnd).tokens.reverse, none⟩ := by
  rfl

theorem run_failure {settled steps : Nat} {s : Lexer} {failure : Failure}
    (failed : (run settled steps s).failure = some failure) : LexerFailure failure := by
  induction steps generalizing settled s with
  | zero =>
    obtain rfl := Option.some.inj failed
    exact .malformed _
  | succ steps ih =>
    rw [run_succ] at failed
    have stale := s.failsOnly_dropStale
    generalize s.dropStale = fresh at failed stale
    cases fresh with
    | error problem =>
      obtain rfl := Option.some.inj failed
      exact stale
    | ok s =>
      dsimp only at failed
      have next := s.failsOnly_nextToken
      have last := (s.toNextToken.unwind (-1)).failsOnly_dropKey
      generalize s.nextToken = taken at failed next
      generalize (s.toNextToken.unwind (-1)).dropKey = ended at failed last
      match taken, ended with
      | .error problem, _ =>
        obtain rfl := Option.some.inj failed
        exact next
      | .ok (some after), _ => exact ih failed
      | .ok none, .error problem =>
        obtain rfl := Option.some.inj failed
        exact last
      | .ok none, .ok s => simp at failed

end Run

end Lexer

theorem scan_failure {text : String} {failure : Failure}
    (failed : (Token.scan text).failure = some failure) : LexerFailure failure := by
  unfold Token.scan at failed
  dsimp only at failed
  split at failed
  · exact Lexer.run_failure failed
  · obtain rfl := Option.some.inj failed
    exact .malformed _

end Yaml

end Downstream
