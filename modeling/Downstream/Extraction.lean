import Downstream.Idiom.Basic
import Downstream.SourceFile

/-!
Extraction: the candidates that a table of idioms finds in files. Candidates come in the order of
the files, then of the table, then of the matches, however many workers share the files.
-/
namespace Downstream

namespace Idiom

/-- The types captured in a text by the matches of an idiom, from left to right and without overlap.
`before` is the character in front of the text, `skip` counts the characters that the last match
still covers, and `found` holds the captures so far, last first. -/
def capturesFrom (idiom : Idiom) (before : Option Char) (skip : Nat) (found : List (List Char)) :
    List Char → List (List Char)
  | [] => found.reverse
  | c :: cs =>
    match skip with
    | skip + 1 => capturesFrom idiom (some c) skip found cs
    | 0 =>
      match idiom.matchAt before (c :: cs) with
      | some capture =>
        capturesFrom idiom (some c) (capture.length - 1) (capture.typeName :: found) cs
      | none => capturesFrom idiom (some c) 0 found cs

def captures (idiom : Idiom) (cs : List Char) : List (List Char) :=
  idiom.capturesFrom none 0 [] cs

def candidate (idiom : Idiom) (fileName : String) (typeName : List Char) : Candidate :=
  let rawName := String.ofList typeName
  { rawName, source := idiom.source, confidence := idiom.confidence,
    evidence := "Found in " ++ fileName ++ ": " ++ idiom.describe rawName,
    stripSuffixes := idiom.stripSuffixes }

def apply (idiom : Idiom) (file : SourceFile) : List Candidate :=
  (idiom.captures file.content.toList).map (idiom.candidate file.name)

end Idiom

structure Extractor where
  table : List Idiom := Idiom.all
  workers : Int := 1

namespace Extractor

def effectiveWorkers (e : Extractor) : Int :=
  max 1 e.workers

/-- Puts an idiom behind the other ones of a language; a language without any comes last. -/
def enter (language : Language) (idiom : Idiom) :
    List (Language × List Idiom) → List (Language × List Idiom)
  | [] => [(language, [idiom])]
  | (first, idioms) :: rest =>
    if first = language then (first, idioms ++ [idiom]) :: rest
    else (first, idioms) :: enter language idiom rest

def byLanguage (table : List Idiom) : List (Language × List Idiom) :=
  table.foldl
    (fun groups idiom =>
      idiom.languages.foldl (fun groups language => enter language idiom groups) groups) []

def languages (e : Extractor) : List Language :=
  ((byLanguage e.table).map (·.1)).mergeSort (fun a b => a ≤ b)

def idiomsFor (e : Extractor) (language : Language) : List Idiom :=
  ((byLanguage e.table).lookup language).getD []

def findings (e : Extractor) (file : SourceFile) : List (Idiom × List Candidate) :=
  (e.idiomsFor file.language).map fun idiom => (idiom, idiom.apply file)

/-- The results of tasks in the order of submission; `finished` lists them in the order in which
they ended, each with its number. -/
def inSubmissionOrder {α : Type} (finished : List (Nat × List α)) (tasks : Nat) : List (List α) :=
  (List.range tasks).map fun task => (finished.lookup task).getD []

/-- The findings in several files when every file is a task of its own and the tasks end in the
given order of their numbers. -/
def findingsEndingIn (e : Extractor) (order : List Nat) (files : List SourceFile) :
    List (List (Idiom × List Candidate)) :=
  inSubmissionOrder
    (order.filterMap fun task => files[task]?.map fun file => (task, e.findings file))
    files.length

/-- The findings in several files. More than one worker makes a task of every file; in whatever
order the tasks end, their results are put back into the order of the files. -/
def findingsInAll (e : Extractor) (files : List SourceFile) :
    List (List (Idiom × List Candidate)) :=
  if 1 < e.effectiveWorkers ∧ 1 < files.length then
    e.findingsEndingIn (List.range files.length) files
  else files.map e.findings

def extract (e : Extractor) (files : List SourceFile) : List Candidate :=
  ((e.findingsInAll files).flatten).flatMap (·.2)

end Extractor

end Downstream
