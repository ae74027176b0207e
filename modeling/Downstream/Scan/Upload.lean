import Downstream.Scan.Basic
import Downstream.Text.Points

/-!
Scanning uploaded files: pairs of a path and a text. An ignored directory anywhere in the path
leaves the file out, and a text that holds a half ends the scan if it is that of a candidate.
-/
namespace Downstream

namespace Upload

def dropDots : List Char → List Char
  | '.' :: '/' :: rest => dropDots rest
  | cs => cs

def trimSlashes (cs : List Char) : List Char :=
  ((cs.dropWhile (· == '/')).reverse.dropWhile (· == '/')).reverse

/-- The path in normal form: slashes for backslashes, no "./" in front and no slash at either
end. -/
def normalPath (path : String) : String :=
  String.ofList (trimSlashes (dropDots (path.toList.map fun c => if c = '\\' then '/' else c)))

/-- Whether an uploaded file is looked at: its path is not empty, no directory above it is ignored,
and its name and path are admitted. -/
def isCandidate (config : ScanConfig) (path : String) : Bool :=
  let path := normalPath path
  !path.isEmpty && !(Text.splitAt '/' path).dropLast.any ScanConfig.ignoredDirectories.contains
    && config.admits (nameOfPath path) path

def verdict? (config : ScanConfig) (path content : String) : Option Verdict :=
  if isCandidate config path then
    let path := normalPath path
    some (config.judge (nameOfPath path) path content.utf8ByteSize (some content))
  else none

def scan (config : ScanConfig) (texts : List (String × String)) : ScanResult :=
  .ofVerdicts none (texts.filterMap fun (path, content) => verdict? config path content)

/-- The halves in the text of a candidate. They have no bytes, so the candidate has no size. -/
def halves? (config : ScanConfig) (record : String × Text.Points) : Option Text.Unencodable :=
  if isCandidate config record.1 then record.2.halves? else none

/-- The records in front of the first candidate without a size. -/
def measured (config : ScanConfig) (records : List (String × Text.Points)) :
    List (String × Text.Points) :=
  records.takeWhile fun record => (halves? config record).isNone

def texts (records : List (String × Text.Points)) : List (String × String) :=
  records.map fun record => (record.1, record.2.text)

def ofTexts (texts : List (String × String)) : List (String × Text.Points) :=
  texts.map fun text => (text.1, .ofString text.2)

end Upload

/-- The scan of uploaded files. The first candidate without a size ends it. -/
def materialize (config : ScanConfig) (records : List (String × Text.Points)) :
    Except Text.Unencodable ScanResult :=
  match records.findSome? (Upload.halves? config) with
  | some halves => .error halves
  | none => .ok (Upload.scan config (Upload.texts records))

end Downstream
