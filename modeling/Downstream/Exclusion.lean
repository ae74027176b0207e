import Downstream.Glob
import Downstream.Text.Blank

/-!
Exclude rules: the glob patterns that keep files and whole directories out of an analysis. A pattern
with a slash inside, or one at its front, is compared with the whole path; any other with each
component of the path. A slash at the end restricts a rule to directories.
-/
namespace Downstream

structure ExcludeRule where
  pattern : String
  directoryOnly : Bool
  anchored : Bool
  hasSlash : Bool
  deriving DecidableEq, Repr

namespace ExcludeRule

def ofText? (line : String) : Option ExcludeRule :=
  match Text.trim line.toList with
  | [] => none
  | pattern =>
    let directoryOnly := pattern.getLast? = some '/'
    let pattern := if directoryOnly then pattern.dropLast else pattern
    let anchored := pattern.head? = some '/'
    let pattern := if anchored then pattern.drop 1 else pattern
    some ⟨String.ofList pattern, directoryOnly, anchored, pattern.contains '/'⟩

def ofTexts (lines : List String) : List ExcludeRule :=
  lines.filterMap ofText?

def excludes (rule : ExcludeRule) (path : String) (isDirectory : Bool) : Bool :=
  let pattern := rule.pattern.toList
  let cs := path.toList
  if pattern.isEmpty then false
  else if rule.directoryOnly && !isDirectory then false
  else if rule.anchored || rule.hasSlash then
    Glob.covers pattern cs || (rule.directoryOnly && (pattern ++ ['/']).isPrefixOf cs)
  else (Text.fields '/' cs).any fun part => Glob.covers pattern part

end ExcludeRule

def excluded (rules : List ExcludeRule) (path : String) (isDirectory : Bool) : Bool :=
  rules.any fun rule => rule.excludes path isDirectory

end Downstream
