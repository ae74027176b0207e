import Downstream.Failure

/-!
The root of an analysis: a directory that exists and can be listed.
-/
namespace Downstream

def FileSystem.rootAt (fs : FileSystem) (text : String) : Except Failure (List String) := do
  let path ← Failure.ofPath (fs.expandHome (.ofString text))
  match fs.exists? path with
  | .ok (some (real, .folder _)) => return real
  | .ok (some _) => throw (.root (.notADirectory text))
  | .ok none => throw (.root (.notFound text))
  | .error problem => throw (.root (.unreadable text problem))

end Downstream
