import Downstream.SourceFile

/-!
Guessing the name of the analysed service from where its first file lies.
-/
namespace Downstream.ServiceName

def unknown : String := "UnknownService"

def containerWords : List String :=
  ["src", "main", "java", "app", "lib", "pkg", "com", "amazon", "internal"]

def serviceWords : List String :=
  ["Service", "Gateway", "Lambda", "Api", "API"]

def isContainer (segment : String) : Bool :=
  let small := Text.lower segment.toList
  containerWords.any fun word => Text.occursIn word.toList small

def looksLikeService (segment : String) : Bool :=
  let cs := segment.toList
  3 < cs.length
    && (cs.any Char.isUpper || serviceWords.any fun word => Text.occursIn word.toList cs)

/-- The name that a path suggests: the last segment that looks like a service and is no container,
or else the first segment that is neither empty nor the source directory. -/
def ofPath (path : String) : String :=
  let segments := Text.splitAt '/' path
  match segments.reverse.find? fun s => !isContainer s && looksLikeService s with
  | some segment => segment
  | none => (segments.find? fun s => s != "" && s != "src").getD unknown

def infer (files : List SourceFile) : String :=
  match files with
  | [] => unknown
  | file :: _ => ofPath file.path

end Downstream.ServiceName
