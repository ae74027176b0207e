import Downstream.Text.LowerCase
import Downstream.Text.Search

/-!
Language tags: which one a file name gets, and which one leads a list of files.
-/
namespace Downstream

abbrev Language := String

namespace Language

def generic : Language := "text"

def unknown : Language := "unknown"

def byEnding : List (String × Language) :=
  [(".py", "python"), (".js", "javascript"), (".jsx", "javascript"), (".ts", "typescript"),
    (".tsx", "typescript"), (".java", "java"), (".go", "go"), (".cpp", "cpp"), (".c", "c"),
    (".rb", "ruby"), (".php", "php"), (".swift", "swift"), (".kt", "kotlin"), (".rs", "rust"),
    (".cs", "csharp")]

def ofEnding (ending : String) : Language :=
  let small := Text.lowered ending
  let small := if small.isEmpty || small.startsWith "." then small else "." ++ small
  (byEnding.lookup small).getD generic

/-- The last component of a path; empty components and single dots do not count. -/
def lastComponent (path : String) : List Char :=
  (((Text.fields '/' path.toList).filter fun part => part != [] && part != ['.']).getLast?).getD []

/-- The ending of a file name, dot included: the part from the last dot on, unless that dot opens or
ends the name. -/
def endingOf (path : String) : String :=
  let name := lastComponent path
  let ending := Text.afterLast '.' name
  if ending.length < name.length - 1 && ending != [] then String.ofList ('.' :: ending) else ""

def ofFileName (name : String) : Language :=
  ofEnding (endingOf name)

/-- The tag with the most occurrences; of several the one that occurs first. -/
def primary (tags : List Language) : Language :=
  tags.foldl (fun best tag => if tags.count best < tags.count tag then tag else best)
    (tags.head?.getD unknown)

end Language

end Downstream
