import Downstream.Proofs.Analysis.Provenance
import Downstream.Proofs.Idiom.Nearest
import Downstream.Proofs.Idiom.Statement
import Downstream.Proofs.Naming

/-!
The names of dependencies are words. Every idiom captures a whole word, stripping suffixes leaves
the front of it, and a service has a name of some length; so whatever the files hold, a name is
never blank and no line, mark or bracket gets into it.
-/
namespace Downstream

open Text

namespace Windowed

theorem run_of_memberDeclaration {visibility : String} {suffixes : List String} {place : Cursor}
    {capture : Capture} (found : memberDeclaration visibility suffixes place = some capture) :
    Run isWord capture.typeName := by
  obtain ⟨_, _, _, _, _, _, _, isType, _, _, _, _, rfl⟩ := memberDeclaration_eq_some_iff.mp found
  exact isType

theorem run_of_remoteClass {place : Cursor} {capture : Capture}
    (found : remoteClass place = some capture) : Run isWord capture.typeName := by
  obtain ⟨_, _, _, isType, rfl⟩ := remoteClass_eq_some_iff.mp found
  exact isType

theorem run_of_matchAt {idiom : Windowed}
    (declares : ∀ place capture, idiom.declaration place = some capture →
      Run isWord capture.typeName)
    {cs : List Char} {capture : Capture} (found : idiom.matchAt cs = some capture) :
    Run isWord capture.typeName := by
  obtain ⟨_, _, declared⟩ := Option.bind_eq_some_iff.mp found
  obtain ⟨_, _, _, there, _⟩ := firstDeclaration_eq_some declared
  exact declares _ _ there

end Windowed

theorem Statement.Form.ReadBy.run {form : Form} {statement : List Char → Option Capture}
    (readBy : form.ReadBy statement) {cs : List Char} {capture : Capture}
    (found : statement cs = some capture) : Run isWord capture.typeName := by
  obtain ⟨_, _, passed, rfl⟩ := (readBy cs capture).mp found
  obtain ⟨_, _, _, _, _, _, _, _, _, parts⟩ := passed.split
  exact parts.isType

namespace Idiom

variable {idiom : Idiom} {before : Option Char} {cs : List Char} {capture : Capture}

theorem run_of_matchAt (found : idiom.matchAt before cs = some capture) :
    Run isWord capture.typeName := by
  cases idiom with
  | providerMethod =>
    exact Windowed.run_of_matchAt (fun _ _ => Windowed.run_of_memberDeclaration) found
  | builderCall => exact Windowed.run_of_matchAt (fun _ _ => Windowed.run_of_remoteClass) found
  | beanMethod =>
    exact Windowed.run_of_matchAt (fun _ _ => Windowed.run_of_memberDeclaration) found
  | injectedField =>
    exact Windowed.run_of_matchAt (fun _ _ => Windowed.run_of_memberDeclaration) found
  | qualifiedImport =>
    exact Statement.qualifiedImport_readBy.run (Option.ite_none_left_eq_some.mp found).2
  | fromImport => exact Statement.fromImport_readBy.run (Option.ite_none_left_eq_some.mp found).2
  | clientAttribute =>
    exact Statement.clientAttribute_readBy.run (Option.ite_none_left_eq_some.mp found).2
  | namedImport =>
    exact Statement.namedImport_readBy.run (Option.ite_none_left_eq_some.mp found).2

theorem Matches.run {found : List Capture} (all : Matches idiom before cs found) :
    ∀ capture ∈ found, Run isWord capture.typeName := by
  induction all with
  | done before => simp
  | pass free later ih => exact ih
  | take here whole later ih => exact List.forall_mem_cons.mpr ⟨run_of_matchAt here, ih⟩

theorem MatchesIn.run (matched : idiom.MatchesIn cs capture) : Run isWord capture.typeName := by
  obtain ⟨_, all, member⟩ := matched
  exact all.run capture member

end Idiom

namespace Naming

theorem normalize_isPrefix (raw : String) (suffixes : List String) :
    (normalize raw suffixes).toList <+: raw.toList := by
  have all : ∀ name : List Char,
      suffixes.foldl (fun name suffix => stripSuffix name suffix.toList) name <+: name := by
    induction suffixes with
    | nil => exact fun _ => List.prefix_rfl
    | cons suffix rest ih =>
      intro name
      have stripped := stripSuffix_prefix name suffix.toList
      exact (ih _).trans stripped
  rw [normalize, String.toList_ofList]
  exact all raw.toList

theorem run_of_canonical? {raw name : String} {suffixes : List String}
    (named : canonical? raw suffixes = some name) (word : Run isWord raw.toList) :
    Run isWord name.toList := by
  obtain ⟨rfl, isService⟩ := canonical?_eq_some_iff.mp named
  constructor
  · intro empty
    simp [isServiceName, empty, minLength] at isService
  · exact fun c member => word.2 c ((normalize_isPrefix raw suffixes).subset member)

end Naming

theorem Dependency.Repeats.run {d : Dependency} {file : SourceFile} {idiom : Idiom}
    {capture : Capture} (repeats : d.Repeats file idiom capture) : Run isWord d.name.toList := by
  refine Naming.run_of_canonical? repeats.name ?_
  rw [String.toList_ofList]
  exact repeats.matched.run

theorem Outcome.RestsOn.run {outcome : Outcome} {keys : List SourceFile}
    (rests : outcome.RestsOn keys) :
    ∀ d ∈ outcome.analysis.dependencies, Run isWord d.name.toList := by
  intro d member
  obtain ⟨_, _, _, _, _, _, repeats⟩ := rests.sound d member
  exact repeats.run

namespace Workspace

theorem run_of_analyze {ws : Workspace} {request : AnalysisRequest} {path : String}
    {outcome : Outcome} (ended : (ws.analyze request path).1 = .ok outcome) :
    ∀ d ∈ outcome.analysis.dependencies, Run isWord d.name.toList := by
  obtain ⟨_, _, _, _, run⟩ := analyze_ok ended
  obtain ⟨_, _, rests⟩ := Analysis.restsOn_of_ofScan run
  exact rests.run

theorem run_of_analyzeUploads {ws : Workspace} {request : AnalysisRequest}
    {uploads : List Analysis.Upload} {outcome : Outcome}
    (ended : (ws.analyzeUploads request uploads).1 = .ok outcome) :
    ∀ d ∈ outcome.analysis.dependencies, Run isWord d.name.toList := by
  obtain ⟨_, _, _, run⟩ := analyzeUploads_ok ended
  obtain ⟨_, _, rests⟩ := Analysis.restsOn_of_ofScan run
  exact rests.run

end Workspace

end Downstream
