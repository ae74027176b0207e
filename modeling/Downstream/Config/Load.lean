import Downstream.Config.Document

/-!
Finding and reading the configuration file of a directory.
-/
namespace Downstream

namespace Config

/-- The real path of the configuration file that goes with a path: the file in that directory, the
path itself if it has the name of a configuration file, or else the file beside it. -/
def fileFor (fs : FileSystem) (path : PathText) : Except Failure (List String) := do
  let path ← Failure.ofPath (fs.expandHome path)
  let file : PathText := ⟨0, [configFileName]⟩
  match ← Failure.ofFile path (fs.exists? path) with
  | some (_, .folder _) => Failure.ofPath (fs.resolve (path.append file))
  | _ =>
    if path.name = configFileName then Failure.ofPath (fs.resolve path)
    else Failure.ofPath (fs.resolve (path.parent.append file))

def load (fs : FileSystem) (path : PathText) : Except Failure Config := do
  let real ← fileFor fs path
  let file := PathText.absolute real
  let root := (PathText.absolute (← Failure.ofPath (fs.resolve file.parent))).toString
  match ← Failure.ofFile file (fs.exists? file) with
  | none => return { root }
  | some (_, .file bytes) => ofBytes root file.name bytes
  | some _ =>
    throw (.config (.unreadable file.name (FileProblem.isADirectory.message file.toString)))

end Config

end Downstream
