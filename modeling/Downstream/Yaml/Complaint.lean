import Downstream.Text.Encoding
import Downstream.Text.Quoted
import Downstream.Text.Search

/-!
What breaks the format of a YAML document, and where. A complaint names the problem with its place,
and often what was being read and where that began; each place is shown with the line around it.
-/
namespace Downstream.Yaml

/-- A place in a text: the characters before it, and its line and column, all counted from zero. -/
structure Mark where
  index : Nat
  line : Nat
  column : Nat
  deriving DecidableEq, Repr

namespace Mark

def endsShownLine (c : Char) : Bool :=
  c == '\u0000' || c == '\n' || c == '\r' || c == '\u0085' || c == '\u2028' || c == '\u2029'

/-- How many characters beside the place are looked at, and how many of them are shown of a line
that is longer. -/
def reach : Nat := 37

def shownPart : Nat := 32

def side (cs : List Char) : List Char × Bool :=
  let run := (cs.take reach).takeWhile fun c => !endsShownLine c
  if run.length < reach then (run, false) else (run.take shownPart, true)

def snippet (text : List Char) (m : Mark) : String :=
  let (before, moreBefore) := side (text.take m.index).reverse
  let (after, moreAfter) := side (text.drop m.index)
  let ellipsis := " ... ".toList
  let head := if moreBefore then ellipsis else []
  let tail := if moreAfter then ellipsis else []
  let margin := List.replicate 4 ' '
  String.ofList (margin ++ head ++ before.reverse ++ after ++ tail ++ '\n' :: margin
    ++ List.replicate (before.length + head.length) ' ' ++ ['^'])

def text (source : List Char) (m : Mark) : String :=
  "  in \"<unicode string>\", line " ++ toString (m.line + 1) ++ ", column "
    ++ toString (m.column + 1) ++ ":\n" ++ m.snippet source

end Mark

inductive Context where
  | scanning (what : String)
  | parsing (what : String)
  | constructing (what : String)
  | singleDocument
  | firstAnchor (name : String)
  deriving DecidableEq, Repr

def Context.text : Context → String
  | .scanning what => "while scanning " ++ what
  | .parsing what => "while parsing " ++ what
  | .constructing what => "while constructing " ++ what
  | .singleDocument => "expected a single document in the stream"
  | .firstAnchor name => "found duplicate anchor " ++ Text.quoted name ++ "; first occurrence"

inductive Problem where
  | forbidden (c : Char)
  | noColon
  | startsNoToken (c : Char)
  | notAllowedHere (what : String)
  | expectedText (what : String) (found : Char)
  | zeroIndentation
  | unknownEscape (c : Char)
  | endOfText
  | documentMark
  | undecodable (defect : Text.Undecodable)
  | expectedToken (what found : String)
  | expectedMark (what found : String)
  | repeatedVersion
  | unknownVersion
  | repeatedHandle (handle : String)
  | undefinedHandle (handle : String)
  | secondDocument
  | undefinedAlias (name : String)
  | secondAnchor
  | expectedNode (what found : String)
  | unusableKey
  | notPlain (halves : Text.Unencodable)
  | paddedBadly
  | oneDigitOver (digits : Nat)
  | unknownTag (tag : String)
  deriving DecidableEq, Repr

def shownChar (c : Char) : String := Text.quoted (String.singleton c)

def Problem.text : Problem → String
  | .forbidden c =>
    "unacceptable character #x" ++ String.ofList (Text.hexDigits 4 c.toNat)
      ++ ": special characters are not allowed"
  | .noColon => "could not find expected ':'"
  | .startsNoToken c => "found character " ++ shownChar c ++ " that cannot start any token"
  | .notAllowedHere what => what ++ " are not allowed here"
  | .expectedText what found => "expected " ++ what ++ ", but found " ++ shownChar found
  | .zeroIndentation => "expected indentation indicator in the range 1-9, but found 0"
  | .unknownEscape c => "found unknown escape character " ++ shownChar c
  | .endOfText => "found unexpected end of stream"
  | .documentMark => "found unexpected document separator"
  | .undecodable defect => defect.message
  | .expectedToken what found => "expected " ++ what ++ ", but found " ++ Text.quoted found
  | .expectedMark what found => "expected " ++ what ++ ", but got " ++ Text.quoted found
  | .repeatedVersion => "found duplicate YAML directive"
  | .unknownVersion => "found incompatible YAML document (version 1.* is required)"
  | .repeatedHandle handle => "duplicate tag handle " ++ Text.quoted handle
  | .undefinedHandle handle => "found undefined tag handle " ++ Text.quoted handle
  | .secondDocument => "but found another document"
  | .undefinedAlias name => "found undefined alias " ++ Text.quoted name
  | .secondAnchor => "second occurrence"
  | .expectedNode what found => "expected " ++ what ++ ", but found " ++ found
  | .unusableKey => "found unhashable key"
  | .notPlain halves => "failed to convert base64 data into ascii: " ++ halves.message
  | .paddedBadly => "failed to decode base64 data: Incorrect padding"
  | .oneDigitOver digits =>
    "failed to decode base64 data: Invalid base64-encoded string: number of data characters ("
      ++ toString digits ++ ") cannot be 1 more than a multiple of 4"
  | .unknownTag tag => "could not determine a constructor for the tag " ++ Text.quoted tag

structure Complaint where
  context : Option Context := none
  since : Option Mark := none
  problem : Problem
  mark : Mark
  deriving DecidableEq, Repr

/-- What the user is told. The place where reading began is left out where it is the place of the
problem. -/
def Complaint.text (source : List Char) (c : Complaint) : String :=
  match c.problem with
  | .forbidden _ =>
    c.problem.text ++ "\n  in \"<unicode string>\", position " ++ toString c.mark.index
  | problem =>
    let since := c.since.filter fun m => m.line != c.mark.line || m.column != c.mark.column
    Text.join "\n" ((c.context.map (·.text)).toList ++ (since.map (·.text source)).toList
      ++ [problem.text, c.mark.text source])

end Downstream.Yaml
