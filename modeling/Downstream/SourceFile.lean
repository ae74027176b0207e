import Downstream.Language

/-!
Source files: decoded text with the path, the language tag and the size it came with.
-/
namespace Downstream

structure SourceFile where
  name : String
  path : String
  content : String
  language : Language
  size : Nat
  deriving DecidableEq, Repr

def nameOfPath (path : String) : String :=
  String.ofList (Text.afterLast '/' path.toList)

end Downstream
