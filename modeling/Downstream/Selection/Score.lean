import Downstream.SourceFile

/-!
How likely a file declares what its service depends on: a sum of weights for what its path, its
name, its first characters and its size show. Capitals and small letters count alike.
-/
namespace Downstream.Selection

def previewLength : Nat := 3000

def pathSignals : List (String × Nat) :=
  [("/module/", 15), ("/config/", 12), ("/accessor/", 10), ("/client/", 8)]

def contentSignals : List (String × Nat) :=
  [("@provides", 25), ("@bean", 25), ("clientbuilder", 20), ("client;", 5)]

def signalScore (signals : List (String × Nat)) (cs : List Char) : Nat :=
  signals.foldr
    (fun (mark, weight) rest => if Text.occursIn mark.toList cs then weight + rest else rest) 0

/-- A name without its last dot and what follows; the whole name where there is no dot. -/
def stem (name : List Char) : List Char :=
  if name.contains '.' then Text.dropLast ((Text.afterLast '.' name).length + 1) name else name

def nameScore (name : List Char) : Nat :=
  let has (part : String) := Text.occursIn part.toList name
  (if has "clientmodule" then 20 else 0)
    + (if has "client" && has "config" then 15 else 0)
    + (if Text.endsIn "module".toList (stem name) then 15 else 0)
    + (if Text.endsIn "config".toList (stem name) then 12 else 0)

def sizeScore (size : Nat) : Nat :=
  if 500 < size && size < 100000 then 3 else 0

def score (file : SourceFile) : Nat :=
  signalScore pathSignals ('/' :: Text.lower file.path.toList)
    + nameScore (Text.lower file.name.toList)
    + signalScore contentSignals (Text.lower (file.content.toList.take previewLength))
    + sizeScore file.size

end Downstream.Selection
