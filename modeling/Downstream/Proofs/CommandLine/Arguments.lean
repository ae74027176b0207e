import Downstream.CommandLine.Command

/-!
Reading arguments in which every option stands with its text behind an equals sign. Such a word is
the option whatever the text is, so the text reaches the settings as it is; only a double dash is
taken for no text at all.
-/
namespace Downstream.CommandLine

def optionWord (name text : String) : String :=
  name ++ "=" ++ text

theorem equals_mem_optionWord (name text : String) : '=' ∈ (optionWord name text).toList := by
  simp [optionWord]

theorem optionWord_ne_dashes (name text : String) : optionWord name text ≠ "--" := by
  intro same
  have equals := equals_mem_optionWord name text
  rw [same] at equals
  exact absurd equals (by decide)

namespace Grammar

variable {σ : Type} {g : Grammar σ}

def PlainNames (g : Grammar σ) : Prop :=
  ∀ rule ∈ g.options, ∀ name ∈ rule.names, '=' ∉ name.toList

theorem cutAtEquals_attached {name : List Char} (plain : '=' ∉ name) (text : List Char) :
    cutAtEquals (name ++ '=' :: text) = (name, some text) := by
  have cut : (name ++ '=' :: text).takeWhile (· != '=') = name := by
    rw [List.takeWhile_append_of_pos fun c member => by
      simpa using fun same : c = '=' => plain (same ▸ member)]
    simp
  simp [cutAtEquals, cut]

theorem option?_eq_none (names : g.PlainNames) {word : String} (equals : '=' ∈ word.toList) :
    g.option? word = none := by
  rw [option?, List.find?_eq_none]
  intro rule known named
  rw [List.contains_iff_mem] at named
  exact names rule known word named equals

theorem option?_eq_some {name : String} {rule : OptionRule σ} (known : g.option? name = some rule) :
    rule ∈ g.options ∧ name ∈ rule.names := by
  refine ⟨List.mem_of_find?_eq_some known, ?_⟩
  simpa using List.find?_some known

theorem role_attached (names : g.PlainNames) {name : String} {rule : OptionRule σ}
    (known : g.option? name = some rule) {first : Char} {body : List Char}
    (dash : name.toList = '-' :: first :: body) (text : String) :
    g.role (optionWord name text) = .ok (.option rule name (some text.toList)) := by
  obtain ⟨inOptions, inNames⟩ := option?_eq_some known
  have plain : '=' ∉ name.toList := names rule inOptions name inNames
  have word : (optionWord name text).toList = '-' :: first :: (body ++ '=' :: text.toList) := by
    simp [optionWord, dash]
  have unknown : g.option? (optionWord name text) = none :=
    option?_eq_none names (equals_mem_optionWord name text)
  have cut : cutAtEquals ('-' :: first :: (body ++ '=' :: text.toList)) =
      (name.toList, some text.toList) := by
    rw [← List.cons_append, ← List.cons_append, ← dash]
    exact cutAtEquals_attached plain text.toList
  unfold role
  rw [word]
  simp only [cut, unknown, String.ofList_toList, known]

theorem role_foreign (names : g.PlainNames) {name : String} {body : List Char}
    (dashes : name.toList = '-' :: '-' :: body) (plain : '=' ∉ name.toList)
    (foreign : ∀ option ∈ g.optionNames, ¬ name.toList <+: option.1.toList) (text : String) :
    ∃ role, g.role (optionWord name text) = .ok role := by
  have word : (optionWord name text).toList = '-' :: '-' :: (body ++ '=' :: text.toList) := by
    simp [optionWord, dashes]
  have cut : cutAtEquals ('-' :: '-' :: (body ++ '=' :: text.toList)) =
      (name.toList, some text.toList) := by
    rw [← List.cons_append, ← List.cons_append, ← dashes]
    exact cutAtEquals_attached plain text.toList
  have unknown : g.option? (optionWord name text) = none :=
    option?_eq_none names (equals_mem_optionWord name text)
  have none_such : g.candidates ('-' :: '-' :: (body ++ '=' :: text.toList)) = [] := by
    simp only [candidates, cut]
    rw [List.filterMap_eq_nil_iff]
    intro option member
    have other : name.toList.isPrefixOf option.1.toList = false := by
      rw [Bool.eq_false_iff, ne_eq, List.isPrefixOf_iff_prefix]
      exact foreign option member
    simp [other]
  have unknownName : g.option? name = none := by
    rw [option?, List.find?_eq_none]
    intro rule inOptions named
    rw [List.contains_iff_mem] at named
    have listed : (name, rule) ∈ g.optionNames :=
      List.mem_flatMap.mpr ⟨rule, inOptions, List.mem_map_of_mem named⟩
    exact foreign _ listed List.prefix_rfl
  unfold role
  rw [word]
  simp only [cut, unknown, String.ofList_toList, unknownName, none_such]
  exact ⟨_, rfl⟩

theorem roles_cons {word : String} {words : List String} {role : Role σ}
    {roles : List (String × Role σ)} (noDashes : word ≠ "--") (plays : g.role word = .ok role)
    (later : g.roles words = .ok roles) :
    g.roles (word :: words) = .ok ((word, role) :: roles) := by
  simp [Grammar.roles, noDashes, plays, later, bind, Except.bind, pure, Except.pure]

theorem exists_roles {words : List String}
    (each : ∀ word ∈ words, word ≠ "--" ∧ ∃ role, g.role word = .ok role) :
    ∃ roles, g.roles words = .ok roles ∧ roles.map (·.1) = words := by
  induction words with
  | nil => exact ⟨[], rfl, rfl⟩
  | cons word words ih =>
    obtain ⟨noDashes, role, plays⟩ := each word List.mem_cons_self
    obtain ⟨roles, later, same⟩ := ih fun other member => each other (List.mem_cons_of_mem _ member)
    exact ⟨(word, role) :: roles, roles_cons noDashes plays later, by simp [same]⟩

theorem usesOf_attached {rule : OptionRule σ} (takes : rule.takesArgument = true) (name : String)
    (text : List Char) (next : Option String) :
    g.usesOf rule name (some text) next = .ok { uses := [⟨rule, attachedArgument text⟩] } := by
  rw [usesOf, useAttached.eq_def, if_pos takes]

theorem readRoles_attached {rule : OptionRule σ} {placeholder : String}
    {set : Option String → σ → σ} (takes : rule.action = .text placeholder set)
    (word name : String) (text : List Char) (reading : Reading σ) (rest : List (String × Role σ)) :
    g.readRoles false reading ((word, .option rule name (some text)) :: rest) =
      g.readRoles false { reading with settings := set (attachedArgument text) reading.settings }
        rest := by
  have takesArgument : rule.takesArgument = true := by
    simp [OptionRule.takesArgument, OptionRule.placeholder?, takes]
  simp [readRoles, usesOf_attached takesArgument, Grammar.apply, takes, bind, Except.bind, pure,
    Except.pure]

def Changes (g : Grammar σ) (words : List String) (change : σ → σ) : Prop :=
  ∃ roles, g.roles words = .ok roles ∧ ∀ reading : Reading σ,
    g.readRoles false reading roles = .ok { reading with settings := change reading.settings }

theorem changes_nil : g.Changes [] id :=
  ⟨[], rfl, fun _ => rfl⟩

theorem changes_cons (names : g.PlainNames) (name : String) {rule : OptionRule σ}
    (known : g.option? name = some rule) {placeholder : String} {set : Option String → σ → σ}
    (takes : rule.action = .text placeholder set) {first : Char} {body : List Char}
    (dash : name.toList = '-' :: first :: body) (text : String) {words : List String}
    {change : σ → σ} (later : g.Changes words change) :
    g.Changes (optionWord name text :: words)
      (change ∘ set (attachedArgument text.toList)) := by
  obtain ⟨roles, rolesOf, reads⟩ := later
  refine ⟨_, roles_cons (optionWord_ne_dashes name text) (role_attached names known dash text)
    rolesOf, fun reading => ?_⟩
  rw [readRoles_attached takes, reads]
  rfl

theorem read_of_changes {words : List String} {change : σ → σ} (changes : g.Changes words change)
    (settings : σ) : g.read settings words = .ok ⟨change settings, [], []⟩ := by
  obtain ⟨roles, rolesOf, reads⟩ := changes
  rw [Grammar.read, rolesOf]
  exact reads ⟨settings, [], []⟩

end Grammar

theorem programGrammar_plainNames : programGrammar.PlainNames := by
  unfold Grammar.PlainNames
  decide

theorem analyzeGrammar_plainNames : analyzeGrammar.PlainNames := by
  unfold Grammar.PlainNames
  decide

def textGiven (text : String) : Option String :=
  Grammar.attachedArgument text.toList

theorem textGiven_eq_some {text : String} (noDashes : text ≠ "--") :
    textGiven text = some text := by
  have other : text.toList ≠ ['-', '-'] := fun same => noDashes (String.toList_inj.mp same)
  simp [textGiven, Grammar.attachedArgument, other]

def savingWords (path file : String) (serviceName : Option String) : List String :=
  optionWord "--path" path :: optionWord "--output" file ::
    (serviceName.map (optionWord "--service-name")).toList

theorem programGrammar_read (path file : String) (serviceName : Option String) :
    programGrammar.read false ("analyze" :: savingWords path file serviceName) =
      .ok ⟨false, [], "analyze" :: savingWords path file serviceName⟩ := by
  have foreign {name : String} {body : List Char} (dashes : name.toList = '-' :: '-' :: body) :=
    Grammar.role_foreign programGrammar_plainNames dashes
  have each : ∀ word ∈ savingWords path file serviceName,
      word ≠ "--" ∧ ∃ role, programGrammar.role word = .ok role := by
    intro word member
    simp only [savingWords, List.mem_cons, Option.mem_toList, Option.map_eq_some_iff] at member
    rcases member with rfl | rfl | ⟨name, _, rfl⟩
    · exact ⟨optionWord_ne_dashes _ path, foreign rfl (by decide) (by decide) path⟩
    · exact ⟨optionWord_ne_dashes _ file, foreign rfl (by decide) (by decide) file⟩
    · exact ⟨optionWord_ne_dashes _ name, foreign rfl (by decide) (by decide) name⟩
  obtain ⟨roles, read, words⟩ := Grammar.exists_roles each
  have role : programGrammar.role "analyze" = .ok .plain := rfl
  rw [Grammar.read, Grammar.roles_cons (by decide) role read, ← words]
  rfl

theorem analyzeGrammar_read (path file : String) (serviceName : Option String) :
    analyzeGrammar.read (false, {}) (savingWords path file serviceName) =
      .ok ⟨(false, { path := textGiven path, output := textGiven file,
                     serviceName := serviceName.bind textGiven }), [], []⟩ := by
  have plain := analyzeGrammar_plainNames
  cases serviceName with
  | none =>
    have changes := Grammar.changes_cons plain "--path" rfl rfl rfl path
      (Grammar.changes_cons plain "--output" rfl rfl rfl file Grammar.changes_nil)
    exact Grammar.read_of_changes changes _
  | some name =>
    have changes := Grammar.changes_cons plain "--path" rfl rfl rfl path
      (Grammar.changes_cons plain "--output" rfl rfl rfl file
        (Grammar.changes_cons plain "--service-name" rfl rfl rfl name Grammar.changes_nil))
    exact Grammar.read_of_changes changes _

theorem read_savingWords (path file : String) (serviceName : Option String) :
    Invocation.read ("analyze" :: savingWords path file serviceName) =
      .ok ⟨false, .analyze { path := textGiven path, output := textGiven file,
                             serviceName := serviceName.bind textGiven }⟩ := by
  simp only [Invocation.read, programGrammar_read, readCommand, if_true, analyzeGrammar_read, bind,
    Except.bind]
  rfl

end Downstream.CommandLine
