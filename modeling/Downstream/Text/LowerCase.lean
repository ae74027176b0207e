import Downstream.Text.CaseRuns
import Downstream.Text.Cased
import Downstream.Text.CodeRange

/-!
Lowering a text. All but two characters are lowered one by one: the dotted capital I becomes a small
i and a combining dot, and a capital sigma becomes the final form at the end of a word.
-/
namespace Downstream.Text

def smallLetter? (c : Char) : Option Char :=
  let n := c.toNat
  match findSorted caseRuns fun run =>
      if n < run.first then .gt else if run.last < n then .lt else .eq with
  | none => none
  | some run =>
    if (n - run.first) % run.step = 0 then some (Char.ofNat (n + run.shift).toNat) else none

def lowerChar (c : Char) : List Char :=
  if c.toNat < 128 then [c.toLower]
  else if c = 'İ' then ['i', '\u0307']
  else [(smallLetter? c).getD c]

def nextIsCased (cs : List Char) : Bool :=
  (cs.find? fun c => !isCaseSkipped c).any isCased

/-- Lowers a text of which `afterCased` says whether a character with case stands before it. -/
def lowerAfter (afterCased : Bool) : List Char → List Char
  | [] => []
  | c :: cs =>
    let here :=
      if c = 'Σ' then [if afterCased && !nextIsCased cs then 'ς' else 'σ'] else lowerChar c
    here ++ lowerAfter (if isCaseSkipped c then afterCased else isCased c) cs

def lower (cs : List Char) : List Char :=
  lowerAfter false cs

def lowered (s : String) : String :=
  String.ofList (lower s.toList)

end Downstream.Text
