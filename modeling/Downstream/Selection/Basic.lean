import Downstream.Selection.Score

/-!
Choosing the key files of an analysis: the files of the highest score, or the files named like
modules that wire a service together.
-/
namespace Downstream

namespace Selection

/-- The first `n` elements; a negative `n` leaves that many off the end instead. -/
def leading {α : Type} (n : Int) (xs : List α) : List α :=
  if 0 ≤ n then xs.take n.toNat else xs.take (xs.length - n.natAbs)

/-- The files with a positive score, each with its score, highest first; files of one score stay in
their order. -/
def rank (files : List SourceFile) : List (SourceFile × Nat) :=
  ((files.map fun file => (file, score file)).filter fun (_, s) => 0 < s).mergeSort
    fun a b => b.2 ≤ a.2

def isWiringModule (file : SourceFile) : Bool :=
  if file.language == "java" then
    Text.mentions file.name "Module" && !Text.mentions ("/" ++ file.path) "/test/"
  else if file.language == "python" then
    Text.mentions file.name "di_" || Text.mentions file.name "dependencies"
  else if file.language == "typescript" then
    Text.endsIn ".module.ts".toList file.name.toList
  else false

def defaultTopN : Int := 15

def defaultLimit : Int := 3

end Selection

inductive Selector where
  /-- The files of the highest score, at most `topN` of them. -/
  | heuristic (topN : Int)
  /-- The files named like wiring modules, at most `limit` of them. -/
  | wiringModules (limit : Int)
  /-- A selector that a plugin brings, with the choice that it makes. -/
  | plugin (choose : List SourceFile → List SourceFile)

def Selector.select (files : List SourceFile) : Selector → List SourceFile
  | .heuristic topN => Selection.leading topN ((Selection.rank files).map (·.1))
  | .wiringModules limit => Selection.leading limit (files.filter Selection.isWiringModule)
  | .plugin choose => choose files

end Downstream
