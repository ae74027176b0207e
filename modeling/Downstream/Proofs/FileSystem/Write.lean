import Downstream.FileSystem.Basic
import Downstream.Proofs.FileSystem.Tree

/-!
Writing a file and reading it back. Writing changes what stands at one path, and there no folder
stood; all other paths keep their kind of entry. So a path that led to the place of the file leads
there again, through the same links, and finds the bytes that were written.
-/
namespace Downstream

inductive Entry.Alike : Option Entry → Option Entry → Prop where
  | same (found : Option Entry) : Alike found found
  | folders (inside other : Listing) : Alike (some (.folder inside)) (some (.folder other))

namespace Listing

variable {name other : String} {entry : Entry} {listing rest : Listing}

theorem put_push {first : Entry} : put name entry (push other first rest) =
    if other = name then push name entry rest else push other first (put name entry rest) := by
  cases first <;> rfl

theorem find?_put :
    (listing.put name entry).find? other =
      if name = other then some entry else listing.find? other := by
  induction listing using byEntry with
  | empty => simp [put, find?]
  | add first kept rest _ ih =>
    rw [put_push]
    by_cases replaced : first = name
    · subst replaced
      simp only [if_true, find?_push]
      split <;> rfl
    · simp only [if_neg replaced, find?_push, ih]
      by_cases isFirst : first = other
      · subst isFirst
        simp [Ne.symm replaced]
      · simp [isFirst]

theorem folder_of_at?_cons {part : String} {path : List String} {inside : Listing}
    (there : listing.at? (part :: path) = some (.folder inside)) :
    ∃ sub, listing.find? part = some (.folder sub) ∧ sub.at? path = some (.folder inside) := by
  rw [at?_cons] at there
  obtain ⟨first, found, within⟩ := Option.bind_eq_some_iff.mp there
  cases first with
  | folder sub => exact ⟨sub, found, within⟩
  | file bytes => cases path <;> simp [Entry.at?] at within
  | link target => cases path <;> simp [Entry.at?] at within

theorem updateAt_cons {change : Listing → Listing} {part : String} {path : List String}
    {sub : Listing} (found : listing.find? part = some (.folder sub)) :
    listing.updateAt change (part :: path) =
      listing.put part (.folder (sub.updateAt change path)) := by
  simp only [updateAt, found]

theorem at?_updateAt_self {directory : List String} {inside : Listing}
    (there : listing.at? directory = some (.folder inside)) :
    (listing.updateAt (·.put name entry) directory).at? (directory ++ [name]) = some entry := by
  induction directory generalizing listing with
  | nil => simp [updateAt, at?, find?_put]
  | cons part directory ih =>
    obtain ⟨sub, found, within⟩ := folder_of_at?_cons there
    rw [updateAt_cons found, List.cons_append, at?_cons, find?_put, if_pos rfl]
    exact ih within

theorem at?_updateAt_alike {directory path : List String} {inside : Listing} (bytes : ByteArray)
    (there : listing.at? directory = some (.folder inside))
    (noFolder : ∀ sub, listing.at? (directory ++ [name]) ≠ some (.folder sub))
    (elsewhere : path ≠ directory ++ [name]) :
    Entry.Alike (listing.at? path)
      ((listing.updateAt (·.put name (.file bytes)) directory).at? path) := by
  induction directory generalizing listing path with
  | nil =>
    cases path with
    | nil => simpa using Entry.Alike.folders _ _
    | cons part path =>
      rw [updateAt, at?_cons, at?_cons, find?_put]
      split
      · rename_i same
        subst same
        cases path with
        | nil => exact absurd rfl elsewhere
        | cons next path =>
          -- Below a file, and below what was there before it, nothing stands.
          have noSub : ∀ sub, listing.find? name ≠ some (.folder sub) := noFolder
          have before : (listing.find? name).bind (·.at? (next :: path)) = none := by
            cases found : listing.find? name with
            | none => rfl
            | some entry =>
              cases entry with
              | folder sub => exact absurd found (noSub sub)
              | file _ => rfl
              | link _ => rfl
          rw [before]
          exact .same none
      · exact .same _
  | cons first directory ih =>
    obtain ⟨sub, found, within⟩ := folder_of_at?_cons there
    rw [updateAt_cons found]
    cases path with
    | nil => simpa using Entry.Alike.folders _ _
    | cons part path =>
      rw [at?_cons, at?_cons, find?_put]
      split
      · rename_i same
        subst same
        rw [found]
        refine ih within (fun other there => noFolder other ?_) (fun same => elsewhere ?_)
        · rw [List.cons_append, at?_cons, found]
          exact there
        · rw [same, List.cons_append]
      · exact .same _

end Listing

namespace FileSystem

def LeadsTo (target : List String) (destination : Except FileProblem Destination) : Prop :=
  (∃ bytes, destination = .ok (.found target (.file bytes))) ∨
    ∃ directory name, destination = .ok (.free directory name) ∧ directory ++ [name] = target

structure Written (root after : Listing) (target : List String) (bytes : ByteArray) : Prop where
  before : root.at? target = none ∨ ∃ old, root.at? target = some (.file old)
  there : after.at? target = some (.file bytes)
  elsewhere : ∀ path ≠ target, Entry.Alike (root.at? path) (after.at? path)

theorem not_leadsTo_error (target : List String) (problem : FileProblem) :
    ¬ LeadsTo target (.error problem) := by
  simp [LeadsTo]

theorem leadsTo_of_behindSlash {target : List String}
    {destination : Except FileProblem Destination}
    (leads : LeadsTo target (behindSlash destination)) : LeadsTo target destination := by
  cases destination with
  | ok found => exact leads
  | error problem => simp [behindSlash, LeadsTo] at leads

def stepInto (root : Listing)
    (onLink : List String → List String → Except FileProblem Destination)
    (directory : List String) (part : String) (rest : List String) :
    Except FileProblem Destination :=
  if maxComponent < part.utf8ByteSize then .error .nameTooLong
  else
    match root.at? (directory ++ [part]) with
    | none => if rest.isEmpty then .ok (.free directory part) else .error .notFound
    | some (.file bytes) =>
      if rest.isEmpty then .ok (.found (directory ++ [part]) (.file bytes))
      else .error .notADirectory
    | some (.folder _) => followWith root onLink (directory ++ [part]) rest
    | some (.link target) =>
      onLink (if (PathText.ofString target).isAbsolute then [] else directory)
        (PathText.steps target ++ rest)

theorem followWith_cons (root : Listing)
    (onLink : List String → List String → Except FileProblem Destination)
    (directory : List String) (part : String) (rest : List String) :
    followWith root onLink directory (part :: rest) =
      if part = "" ∨ part = "." then followWith root onLink directory rest
      else if part = ".." then followWith root onLink directory.dropLast rest
      else if rest = [""] then behindSlash (stepInto root onLink directory part rest)
      else stepInto root onLink directory part rest := by
  by_cases blank : part = "" ∨ part = "."
  · rw [if_pos blank, followWith, if_pos (by simpa using blank)]
  · rw [if_neg blank, followWith, if_neg (by simpa using blank)]
    rfl

variable {root after : Listing} {target : List String} {bytes : ByteArray}
  {onLink onLinkAfter : List String → List String → Except FileProblem Destination}

theorem stepInto_written (written : Written root after target bytes)
    (links : ∀ directory components, LeadsTo target (onLink directory components) →
      onLinkAfter directory components = .ok (.found target (.file bytes)))
    (directory : List String) (part : String) {rest : List String}
    (folders : LeadsTo target (followWith root onLink (directory ++ [part]) rest) →
      followWith after onLinkAfter (directory ++ [part]) rest = .ok (.found target (.file bytes)))
    (leads : LeadsTo target (stepInto root onLink directory part rest)) :
    stepInto after onLinkAfter directory part rest = .ok (.found target (.file bytes)) := by
  unfold stepInto at leads ⊢
  split at leads
  · exact absurd leads (not_leadsTo_error _ _)
  · rename_i short
    rw [if_neg short]
    by_cases here : directory ++ [part] = target
    · -- The place of the file: it has to be the last component.
      have last : rest.isEmpty = true := by
        by_contra more
        rcases written.before with none | ⟨old, file⟩
        · simp [here, none, more, LeadsTo] at leads
        · simp [here, file, more, LeadsTo] at leads
      simp [here, written.there, last]
    · have alike := written.elsewhere _ here
      generalize root.at? (directory ++ [part]) = old at leads alike
      generalize after.at? (directory ++ [part]) = new at alike ⊢
      cases alike with
      | folders inside other => exact folders leads
      | same =>
        cases old with
        | none =>
          by_cases last : rest.isEmpty = true
          · simp [last, LeadsTo, here] at leads
          · simp [last, LeadsTo] at leads
        | some entry =>
          cases entry with
          | folder inside => exact folders leads
          | link link => exact links _ _ leads
          | file old =>
            by_cases last : rest.isEmpty = true
            · simp [last, LeadsTo, here] at leads
            · simp [last, LeadsTo] at leads

theorem followWith_written (written : Written root after target bytes)
    (links : ∀ directory components, LeadsTo target (onLink directory components) →
      onLinkAfter directory components = .ok (.found target (.file bytes)))
    {directory components : List String}
    (leads : LeadsTo target (followWith root onLink directory components)) :
    followWith after onLinkAfter directory components = .ok (.found target (.file bytes)) := by
  induction components generalizing directory with
  | nil =>
    rw [followWith] at leads ⊢
    have isTarget : directory = target := by
      split at leads <;> simp_all [LeadsTo]
    rw [isTarget, written.there]
  | cons part rest ih =>
    rw [followWith_cons] at leads ⊢
    by_cases skipped : part = "" ∨ part = "."
    · rw [if_pos skipped] at leads ⊢
      exact ih leads
    · rw [if_neg skipped] at leads ⊢
      by_cases upward : part = ".."
      · rw [if_pos upward] at leads ⊢
        exact ih leads
      · rw [if_neg upward] at leads ⊢
        have into := stepInto_written written links directory part ih
        split at leads
        · rename_i slash
          rw [if_pos slash, into (leadsTo_of_behindSlash leads)]
          rfl
        · rename_i noSlash
          rw [if_neg noSlash, into leads]

theorem followLinks_written (written : Written root after target bytes) (links : Nat)
    {directory components : List String}
    (leads : LeadsTo target (followLinks root links directory components)) :
    followLinks after links directory components = .ok (.found target (.file bytes)) := by
  induction links generalizing directory components with
  | zero =>
    refine followWith_written written (fun _ _ refused => ?_) leads
    exact absurd refused (not_leadsTo_error _ _)
  | succ links ih => exact followWith_written written (fun _ _ found => ih found) leads

def Settled (root : Listing) : Except FileProblem Destination → Prop
  | .ok (.found path entry) => root.at? path = some entry
  | .ok (.free directory name) => root.at? (directory ++ [name]) = none
  | _ => True

theorem settled_stepInto
    (links : ∀ directory components, Settled root (onLink directory components))
    {directory rest : List String} {part : String}
    (folders : Settled root (followWith root onLink (directory ++ [part]) rest)) :
    Settled root (stepInto root onLink directory part rest) := by
  unfold stepInto
  split
  · trivial
  · split
    · split
      · assumption
      · trivial
    · split
      · assumption
      · trivial
    · exact folders
    · exact links _ _

theorem settled_followWith
    (links : ∀ directory components, Settled root (onLink directory components))
    (directory components : List String) :
    Settled root (followWith root onLink directory components) := by
  induction components generalizing directory with
  | nil =>
    rw [followWith]
    split
    · assumption
    · trivial
  | cons part rest ih =>
    rw [followWith_cons]
    have into := settled_stepInto links (ih (directory ++ [part]))
    split
    · exact ih directory
    · split
      · exact ih directory.dropLast
      · split
        · cases found : stepInto root onLink directory part rest with
          | ok destination =>
            rw [found] at into
            exact into
          | error problem => trivial
        · exact into

theorem settled_followLinks (links : Nat) (directory components : List String) :
    Settled root (followLinks root links directory components) := by
  induction links generalizing directory components with
  | zero =>
    have refused : Settled root (.error .tooManyLinks) := trivial
    exact settled_followWith (fun _ _ => refused) directory components
  | succ links ih => exact settled_followWith ih directory components

theorem settled_destination (fs : FileSystem) (path : PathText) :
    Settled fs.root (fs.destination path) := by
  unfold destination
  split
  · trivial
  · exact settled_followLinks _ _ _

/-- A file may be opened for writing at the path, in a directory that is there, and what is written
to it is not swallowed. -/
def Accepts (fs : FileSystem) (path : PathText) : Prop :=
  ∃ directory name bytes inside, fs.writable path = .ok (directory, name, bytes) ∧
    fs.root.at? directory = some (.folder inside) ∧ directory ++ [name] ≠ sink

theorem writable_leadsTo {fs : FileSystem} {path : PathText} {directory : List String}
    {name : String} {old : ByteArray} (writable : fs.writable path = .ok (directory, name, old)) :
    LeadsTo (directory ++ [name]) (fs.destination path) ∧
      (fs.root.at? (directory ++ [name]) = none ∨
        ∃ old, fs.root.at? (directory ++ [name]) = some (.file old)) := by
  have settled := settled_destination fs path
  simp only [FileSystem.writable, bind, Except.bind, pure, Except.pure] at writable
  generalize fs.destination path = destination at settled writable ⊢
  cases destination with
  | error problem => simp at writable
  | ok destination =>
    cases destination with
    | noDirectory problem => simp at writable
    | free directory name =>
      simp only [Except.ok.injEq, Prod.mk.injEq] at writable
      obtain ⟨rfl, rfl, _⟩ := writable
      exact ⟨Or.inr ⟨_, _, rfl, rfl⟩, Or.inl settled⟩
    | found real entry =>
      cases entry with
      | folder inside => simp at writable
      | link target => simp at writable
      | file bytes =>
        simp only [Except.ok.injEq, Prod.mk.injEq] at writable
        obtain ⟨rfl, rfl, _⟩ := writable
        have nonempty : real ≠ [] := by
          rintro rfl
          simp [Settled] at settled
        have whole : real.dropLast ++ [real.getLast?.getD ""] = real := by
          rw [List.getLast?_eq_getLast_of_ne_nil nonempty, Option.getD_some]
          exact List.dropLast_append_getLast nonempty
        rw [whole]
        exact ⟨Or.inl ⟨bytes, rfl⟩, Or.inr ⟨bytes, settled⟩⟩

theorem read_write {fs : FileSystem} {path : PathText} (accepts : fs.Accepts path)
    (bytes : ByteArray) :
    ∃ after, fs.write path bytes = .ok after ∧ after.read path = .ok bytes := by
  obtain ⟨directory, name, old, inside, writable, there, noSink⟩ := accepts
  obtain ⟨leads, before⟩ := writable_leadsTo writable
  have written : Written fs.root (fs.setFile directory name bytes).root (directory ++ [name])
      bytes := by
    rw [setFile, if_neg noSink]
    refine ⟨before, Listing.at?_updateAt_self there, fun path elsewhere => ?_⟩
    refine Listing.at?_updateAt_alike bytes there (fun sub folder => ?_) elsewhere
    rcases before with none | ⟨_, file⟩
    · simp [none] at folder
    · simp [file] at folder
  have after : (fs.setFile directory name bytes).destination path =
      .ok (.found (directory ++ [name]) (.file bytes)) := by
    unfold destination at leads ⊢
    split at leads
    · exact absurd leads (not_leadsTo_error _ _)
    · rename_i short
      have sameStart : (fs.setFile directory name bytes).workingDirectory =
          fs.workingDirectory := by
        rw [setFile, if_neg noSink]
      rw [if_neg short, sameStart]
      exact followLinks_written written _ leads
  refine ⟨fs.setFile directory name bytes, by rw [write, writable]; rfl, ?_⟩
  rw [read, lookup, after]
  rfl

end FileSystem

end Downstream
