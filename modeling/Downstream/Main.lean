import Downstream.CommandLine.Run

/-!
The program at work on the disk. What a run may look at is read beforehand, the run itself is pure,
and the files that it wrote are put on the disk in the end.
-/
namespace Downstream.Disk

def components (path : String) : List String :=
  (PathText.ofString path).components

def missingTarget : String := "/\x00"

/-- The listing of a directory, and the real paths of what links in it lead to. Ignored directories
are left empty. -/
partial def readFolder (path : String) : IO (Listing × List String) := do
  let mut listing := Listing.empty
  let mut linked := []
  for found in ← (← IO.FS.realPath path).readDir do
    let name := found.fileName
    match (← found.path.symlinkMetadata).type with
    | .dir =>
      if ScanConfig.ignoredDirectories.contains name then
        listing := .folder name .empty listing
      else
        let (inside, more) ← readFolder found.path.toString
        listing := .folder name inside listing
        linked := more ++ linked
    | .symlink =>
      match ← (IO.FS.realPath found.path).toBaseIO with
      | .ok real =>
        listing := .link name real.toString listing
        linked := real.toString :: linked
      | .error _ => listing := .link name missingTarget listing
    | .file => listing := .file name (← IO.FS.readBinFile found.path) listing
    | .other => pure ()
  return (listing, linked)

/-- Takes over what is at a path: a file with its bytes, and a directory, with all it holds where it
is to be scanned. A path that leads through links becomes a link itself. -/
partial def takeOver (scanned : Bool) (fs : FileSystem) (path : PathText) : IO FileSystem := do
  match ← (IO.FS.realPath path.toString).toBaseIO with
  | .error _ => return fs
  | .ok real =>
    let there := components real.toString
    let mut fs := fs.makeDirectories there.dropLast
    match (← real.metadata).type with
    | .dir =>
      fs := fs.makeDirectories there
      let size := (← real.metadata).byteSize.toNat
      let others := fs.directorySize
      fs := { fs with directorySize := fun path => if path = there then size else others path }
      if scanned then
        let (listing, linked) ← readFolder real.toString
        fs := { fs with root := fs.root.updateAt (fun _ => listing) there }
        for target in linked do
          fs ← takeOver false fs (.ofString target)
    | _ =>
      if there != FileSystem.sink then
        fs := fs.setFile there.dropLast (there.getLast?.getD "") (← IO.FS.readBinFile real)
    let here := path.collapse fs.workingDirectory
    return if here = there then fs
      else (fs.makeDirectories here.dropLast).makeLink here real.toString

def twoDigits (n : Nat) : String :=
  if n < 10 then "0" ++ toString n else toString n

/-- The year, the month and the day that so many days after the first of March of the year zero
are. -/
def date (days : Nat) : Nat × Nat × Nat :=
  let era := days / 146097
  let rest := days % 146097
  let year := (rest - rest / 1460 + rest / 36524 - rest / 146096) / 365
  let dayOfYear := rest - (365 * year + year / 4 - year / 100)
  let month := (5 * dayOfYear + 2) / 153
  let day := dayOfYear - (153 * month + 2) / 5 + 1
  let month := if month < 10 then month + 3 else month - 9
  (era * 400 + year + (if month ≤ 2 then 1 else 0), month, day)

def timeText (time : IO.FS.SystemTime) : String :=
  let seconds := time.sec.toNat
  let (year, month, day) := date (seconds / 86400 + 719468)
  let clock := [seconds / 3600 % 24, seconds / 60 % 60, seconds % 60].map twoDigits
  let thousandths := toString (1000 + time.nsec.toNat / 1000000)
  toString year ++ "-" ++ twoDigits month ++ "-" ++ twoDigits day ++ " " ++ Text.join ":" clock
    ++ "," ++ String.ofList (thousandths.toList.drop 1)

def now : IO String := do
  let (_, path) ← IO.FS.createTempFile
  let made := (← path.metadata).modified
  IO.FS.removeFile path
  return timeText made

def writtenPaths : CommandLine.Command → List PathText
  | .analyze options =>
    [options.output, options.logFile].filterMap fun file =>
      (CommandLine.nonempty file).map .ofString
  | .serve _ => []

def scannedPath? : CommandLine.Command → Option PathText
  | .analyze options => options.path.map .ofString
  | .serve _ => none

def load (command : CommandLine.Command) : IO FileSystem := do
  let workingDirectory := components (← IO.FS.realPath (← IO.currentDir)).toString
  let home := (← IO.getEnv "HOME").getD "/"
  let devices := Listing.folder "dev" (.file "null" .empty .empty) .empty
  let empty : FileSystem := ⟨devices, workingDirectory, home, fun _ => 0⟩
  let mut fs := empty.makeDirectories workingDirectory
  if let some path := scannedPath? command then
    if let .ok path := fs.expandHome path then fs ← takeOver true fs path
  for path in writtenPaths command do
    fs ← takeOver false fs path.parent
    fs ← takeOver false fs path
  return fs

def save (command : CommandLine.Command) (before after : FileSystem) : IO Unit := do
  for path in writtenPaths command do
    if let .ok bytes := after.read path then
      if (before.read path).toOption.all (·.data != bytes.data) then
        IO.FS.writeBinFile path.toString bytes

end Downstream.Disk

open Downstream in
def main (arguments : List String) : IO UInt32 := do
  let (before, time) ←
    match CommandLine.Invocation.read arguments with
    | .ok invocation => pure (← Disk.load invocation.command, ← Disk.now)
    | .error _ => pure (⟨.empty, [], "/", fun _ => 0⟩, "")
  let (result, after) := CommandLine.run arguments { fs := before, time }
  if let .ok invocation := CommandLine.Invocation.read arguments then
    Disk.save invocation.command before after.fs
  match result with
  | .error failure => IO.eprintln failure.message
  | .ok completion =>
    IO.print completion.output
    IO.eprint completion.errors
  return (CommandLine.exitStatus result).toUInt32
