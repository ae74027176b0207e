import Downstream.Text.Quoted

/-!
What can go wrong with a path in the file system.
-/
namespace Downstream

inductive FileProblem where
  | notFound
  | notADirectory
  | isADirectory
  | nameTooLong
  | tooManyLinks
  deriving DecidableEq, Repr

namespace FileProblem

def number : FileProblem → Nat
  | .notFound => 2
  | .notADirectory => 20
  | .isADirectory => 21
  | .nameTooLong => 36
  | .tooManyLinks => 40

def text : FileProblem → String
  | .notFound => "No such file or directory"
  | .notADirectory => "Not a directory"
  | .isADirectory => "Is a directory"
  | .nameTooLong => "File name too long"
  | .tooManyLinks => "Too many levels of symbolic links"

def message (problem : FileProblem) (path : String) : String :=
  "[Errno " ++ toString problem.number ++ "] " ++ problem.text ++ ": " ++ Text.quoted path

end FileProblem

end Downstream
