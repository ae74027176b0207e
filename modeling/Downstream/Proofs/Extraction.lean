import Downstream.Proofs.Idiom.Matches

/-!
Extraction gives the candidates of the files one after the other, whatever the number of workers and
the order in which their tasks end. A candidate stems from a match of an idiom of the file's
language, and every such match gives one.
-/
namespace Downstream

namespace Extractor

def under (language : Language) (groups : List (Language × List Idiom)) : List Idiom :=
  (groups.lookup language).getD []

theorem under_enter (language entered : Language) (idiom : Idiom)
    (groups : List (Language × List Idiom)) :
    under language (enter entered idiom groups) =
      under language groups ++ if language = entered then [idiom] else [] := by
  induction groups with
  | nil =>
    by_cases same : language = entered
    · simp [under, enter, same]
    · have other : (language == entered) = false := beq_eq_false_iff_ne.mpr same
      simp [under, enter, List.lookup_cons, other, same]
  | cons group rest ih =>
    obtain ⟨first, idioms⟩ := group
    by_cases here : language = first
    · subst here
      by_cases same : language = entered
      · simp [under, enter, same]
      · simp [under, enter, same]
    · have later : (language == first) = false := beq_eq_false_iff_ne.mpr here
      simp only [under] at ih
      by_cases taken : first = entered
      · subst taken
        simp [under, enter, List.lookup_cons, later, here]
      · simp only [under, enter, if_neg taken, List.lookup_cons, later]
        exact ih

theorem under_foldl_enter {languages : List Language} (distinct : languages.Nodup)
    (language : Language) (idiom : Idiom) (groups : List (Language × List Idiom)) :
    under language (languages.foldl (fun groups entered => enter entered idiom groups) groups) =
      under language groups ++ if language ∈ languages then [idiom] else [] := by
  induction languages generalizing groups with
  | nil => simp
  | cons entered languages ih =>
    obtain ⟨fresh, distinct⟩ := List.nodup_cons.mp distinct
    rw [List.foldl_cons, ih distinct, under_enter]
    by_cases same : language = entered
    · subst same
      simp [fresh]
    · simp [same]

theorem idiomsFor_eq (e : Extractor) (language : Language) :
    e.idiomsFor language = e.table.filter fun idiom => idiom.languages.contains language := by
  have entered : ∀ (table : List Idiom) (groups : List (Language × List Idiom)),
      under language (table.foldl (fun groups idiom =>
        idiom.languages.foldl (fun groups entered => enter entered idiom groups) groups) groups) =
      under language groups ++
        table.filter fun idiom => idiom.languages.contains language := by
    intro table
    induction table with
    | nil => simp
    | cons idiom table ih =>
      intro groups
      have distinct : idiom.languages.Nodup := by cases idiom <;> decide
      rw [List.foldl_cons, ih, under_foldl_enter distinct, List.filter_cons]
      by_cases speaks : language ∈ idiom.languages <;> simp [speaks]
  exact entered e.table []

theorem lookup_eq_some {α : Type} {entries : List (Nat × α)} {key : Nat} {value : α}
    (member : (key, value) ∈ entries)
    (alone : ∀ other, (key, other) ∈ entries → other = value) :
    entries.lookup key = some value := by
  induction entries with
  | nil => simp at member
  | cons first rest ih =>
    obtain ⟨k, v⟩ := first
    by_cases same : key = k
    · subst k
      rw [List.lookup_cons_self, alone v List.mem_cons_self]
    · have beq : (key == k) = false := beq_eq_false_iff_ne.mpr same
      simp only [List.lookup_cons, beq]
      refine ih ?_ fun other later => alone other (List.mem_cons_of_mem _ later)
      rcases List.mem_cons.mp member with head | later
      · exact absurd (congrArg Prod.fst head) same
      · exact later

/-- Results of tasks come back in the order of submission, in whatever order the tasks end. -/
theorem inSubmissionOrder_eq {α : Type} {finished : List (Nat × List α)} {work : Nat → List α}
    {tasks : Nat} (results : ∀ entry ∈ finished, entry.2 = work entry.1)
    (every : ∀ task < tasks, task ∈ finished.map Prod.fst) :
    inSubmissionOrder finished tasks = (List.range tasks).map work := by
  refine List.map_congr_left fun task submitted => ?_
  obtain ⟨⟨_, result⟩, member, rfl⟩ := List.mem_map.mp (every task (List.mem_range.mp submitted))
  rw [lookup_eq_some member fun other again =>
      (results _ again).trans (results _ member).symm, Option.getD_some]
  exact results _ member

def task (e : Extractor) (files : List SourceFile) (number : Nat) :
    List (Idiom × List Candidate) :=
  (files[number]?.map e.findings).getD []

theorem map_task (e : Extractor) (files : List SourceFile) :
    (List.range files.length).map (e.task files) = files.map e.findings := by
  apply List.ext_getElem
  · simp
  · intro number _ bound
    rw [List.length_map] at bound
    simp [task, bound]

theorem findingsEndingIn_eq (e : Extractor) {order : List Nat} {files : List SourceFile}
    (every : ∀ task < files.length, task ∈ order) :
    e.findingsEndingIn order files = files.map e.findings := by
  rw [findingsEndingIn, inSubmissionOrder_eq, map_task]
  · intro entry member
    obtain ⟨t, _, result⟩ := List.mem_filterMap.mp member
    obtain ⟨file, at_task, rfl⟩ := Option.map_eq_some_iff.mp result
    simp [task, at_task]
  · intro task bound
    refine List.mem_map.mpr ⟨(task, e.findings files[task]), ?_, rfl⟩
    exact List.mem_filterMap.mpr ⟨task, every task bound, by simp [bound]⟩

theorem findingsInAll_eq (e : Extractor) (files : List SourceFile) :
    e.findingsInAll files = files.map e.findings := by
  simp only [findingsInAll]
  split
  · exact findingsEndingIn_eq e fun task bound => List.mem_range.mpr bound
  · rfl

theorem mem_findings_iff {e : Extractor} {file : SourceFile} {entry : Idiom × List Candidate} :
    entry ∈ e.findings file ↔ ∃ idiom ∈ e.table, file.language ∈ idiom.languages ∧
      (idiom, idiom.apply file) = entry := by
  simp only [findings, idiomsFor_eq, List.mem_map, List.mem_filter, List.contains_iff_mem,
    and_assoc]

theorem mem_extract_iff {e : Extractor} {files : List SourceFile} {c : Candidate} :
    c ∈ e.extract files ↔ ∃ file ∈ files, ∃ idiom ∈ e.table,
      file.language ∈ idiom.languages ∧ c ∈ idiom.apply file := by
  simp only [extract, findingsInAll_eq, List.mem_flatMap, List.mem_flatten, List.mem_map]
  constructor
  · rintro ⟨entry, ⟨_, ⟨file, inFiles, rfl⟩, inFindings⟩, found⟩
    obtain ⟨idiom, inTable, speaks, rfl⟩ := mem_findings_iff.mp inFindings
    exact ⟨file, inFiles, idiom, inTable, speaks, found⟩
  · rintro ⟨file, inFiles, idiom, inTable, speaks, found⟩
    have inFindings := mem_findings_iff.mpr ⟨idiom, inTable, speaks, rfl⟩
    exact ⟨_, ⟨_, ⟨file, inFiles, rfl⟩, inFindings⟩, found⟩

theorem extract_append (e : Extractor) (files further : List SourceFile) :
    e.extract (files ++ further) = e.extract files ++ e.extract further := by
  simp only [extract, findingsInAll_eq, List.map_append, List.flatten_append, List.flatMap_append]

end Extractor

theorem Idiom.mem_apply_iff {idiom : Idiom} {file : SourceFile} {c : Candidate} :
    c ∈ idiom.apply file ↔ ∃ capture, idiom.MatchesIn file.content.toList capture ∧
      idiom.candidate file.name capture.typeName = c := by
  simp only [apply, List.mem_map, mem_captures_iff]
  constructor
  · rintro ⟨_, ⟨capture, matched, rfl⟩, rfl⟩
    exact ⟨capture, matched, rfl⟩
  · rintro ⟨capture, matched, rfl⟩
    exact ⟨_, ⟨capture, matched, rfl⟩, rfl⟩

end Downstream
