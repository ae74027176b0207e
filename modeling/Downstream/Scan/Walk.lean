import Downstream.FileSystem.Basic
import Downstream.Scan.Basic

/-!
Scanning a directory tree. Directories are entered in the order of their names, links to directories
are not, and a link to a file counts as the file.
-/
namespace Downstream

namespace Walk

def childPath (directory name : String) : String :=
  if directory.isEmpty then name else directory ++ "/" ++ name

def decode? (bytes : ByteArray) : Option String :=
  if bytes.data.any (· == 0) then none else String.fromUTF8? bytes

def judgeBytes (config : ScanConfig) (name path : String) (bytes : ByteArray) : Verdict :=
  config.judge name path bytes.size (decode? bytes)

/-- What a candidate turns out to be once links are followed: a file, or a directory of a size. -/
inductive Target where
  | file (bytes : ByteArray)
  | directory (size : Nat)

/-- The verdict on a candidate that is a link, by what it leads to. A directory stands the tests of
its size before it turns out to be none to read. -/
def judgeLink (config : ScanConfig) (name path : String) : Except FileProblem Target → Verdict
  | .ok (.file bytes) => judgeBytes config name path bytes
  | .ok (.directory size) =>
    if size = 0 then .skipped ⟨path, .emptyFile⟩
    else if config.maxFileSize < size then .skipped ⟨path, .tooLarge config.maxFileSize⟩
    else .skipped ⟨path, .unreadable .isADirectory⟩
  | .error problem => .skipped ⟨path, .unreadable problem⟩

/-- The verdicts on the candidates below a directory in listing order. `follow` says what the link
at a path below the root of the walk leads to, and `directory` is the path walked so far. -/
def verdicts (config : ScanConfig) (follow : String → Except FileProblem Target)
    (directory : String) : Listing → List Verdict
  | .empty => []
  | .file name bytes rest =>
    let path := childPath directory name
    let others := verdicts config follow directory rest
    if config.admits name path then judgeBytes config name path bytes :: others else others
  | .link name _ rest =>
    let path := childPath directory name
    let others := verdicts config follow directory rest
    if config.admits name path then judgeLink config name path (follow path) :: others else others
  | .folder name inside rest =>
    let path := childPath directory name
    let others := verdicts config follow directory rest
    if config.prunes name path then others else verdicts config follow path inside ++ others

def ofListing (config : ScanConfig) (follow : String → Except FileProblem Target)
    (listing : Listing) : List Verdict :=
  verdicts config follow "" listing.sorted

end Walk

def FileSystem.target (fs : FileSystem) : List String × Entry → Walk.Target
  | (_, .file bytes) => .file bytes
  | (real, _) => .directory (fs.directorySize real)

def FileSystem.followBelow (fs : FileSystem) (directory : List String) (path : String) :
    Except FileProblem Walk.Target :=
  fs.target <$> fs.lookup ((PathText.absolute directory).append (PathText.ofString path))

def FileSystem.scan (fs : FileSystem) (config : ScanConfig) (root : List String) : ScanResult :=
  let listing :=
    match fs.root.at? root with
    | some (.folder inside) => inside
    | _ => .empty
  .ofVerdicts (some (PathText.absolute root).toString)
    (Walk.ofListing config (fs.followBelow root) listing)

end Downstream
