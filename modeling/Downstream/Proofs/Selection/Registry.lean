import Downstream.Proofs.Except
import Downstream.Selection.Registry
import Mathlib.Data.String.Basic

/-!
Finding selectors by name. The built-in ones and those of the plugins are registered under their
names, one after the other. A request consults the first registration of each name that it asks
for, case ignored, and no other one: what else is registered may be missing or fail to load without
anyone noticing. The selectors come in the order of the registrations, and names without any are
refused in increasing order.
-/
namespace Downstream

structure Registration where
  name : String
  selector : Except RegistryError Selector

def Registration.key (r : Registration) : String :=
  Text.lowered r.name

def Plugin.registration (plugin : Plugin) : Registration :=
  ⟨plugin.name,
    match plugin.kind with
    | .broken reason => .error (.loadFailed plugin.name reason)
    | .loaded object => object.toSelector⟩

namespace Registry

def registered (plugins : List Plugin) : List Registration :=
  builtIn.map (fun (name, selector) => ⟨name, .ok selector⟩) ++ plugins.map Plugin.registration

/-! ### Names in order -/

theorem nodup_eraseDups (keys : List String) : keys.eraseDups.Nodup := by
  induction size : keys.length using Nat.strongRecOn generalizing keys with
  | ind size ih =>
    cases keys with
    | nil => simp
    | cons key rest =>
      rw [List.eraseDups_cons]
      have smaller : (rest.filter fun other => !other == key).length < (key :: rest).length :=
        Nat.lt_succ_of_le (List.length_filter_le _ rest)
      refine List.nodup_cons.mpr ⟨?_, ih _ (size ▸ smaller) _ rfl⟩
      simp [List.mem_eraseDups]

def ascending (keys : List String) : List String :=
  keys.eraseDups.mergeSort fun a b => a ≤ b

theorem mem_ascending {key : String} : key ∈ ascending keys ↔ key ∈ keys := by
  rw [ascending, List.mem_mergeSort, List.mem_eraseDups]

theorem ascending_eq_nil_iff {keys : List String} : ascending keys = [] ↔ keys = [] := by
  simp only [List.eq_nil_iff_forall_not_mem, mem_ascending]

theorem pairwise_ascending (keys : List String) : (ascending keys).Pairwise (· < ·) := by
  have trans : ∀ a b c : String, decide (a ≤ b) = true → decide (b ≤ c) = true →
      decide (a ≤ c) = true := by
    simpa only [decide_eq_true_eq] using fun _ _ _ => le_trans
  have total : ∀ a b : String, (decide (a ≤ b) || decide (b ≤ a)) = true := by
    simpa using le_total
  have sorted := List.pairwise_mergeSort trans total keys.eraseDups
  have distinct := (List.mergeSort_perm keys.eraseDups fun a b => a ≤ b).nodup_iff.mpr
    (nodup_eraseDups keys)
  exact (sorted.and distinct).imp fun ⟨le, ne⟩ => lt_of_le_of_ne (of_decide_eq_true le) ne

/-! ### First registrations -/

def firsts : List Registration → List Registration
  | [] => []
  | r :: rest => r :: (firsts rest).filter (·.key != r.key)

variable {registrations before after : List Registration} {r : Registration} {keys : List String}

theorem firsts_sublist (registrations : List Registration) :
    (firsts registrations).Sublist registrations := by
  induction registrations with
  | nil => exact .refl _
  | cons r rest ih => exact (List.filter_sublist.trans ih).cons_cons r

theorem nodup_keys_firsts (registrations : List Registration) :
    ((firsts registrations).map Registration.key).Nodup := by
  induction registrations with
  | nil => exact List.nodup_nil
  | cons r rest ih =>
    refine List.nodup_cons.mpr ⟨?_, ih.sublist (List.filter_sublist.map _)⟩
    simp

theorem mem_keys_firsts {key : String} :
    key ∈ (firsts registrations).map Registration.key ↔
      key ∈ registrations.map Registration.key := by
  induction registrations with
  | nil => rfl
  | cons r rest ih =>
    rw [firsts, List.map_cons, List.map_cons, List.mem_cons, List.mem_cons, ← ih]
    refine or_congr_right' fun other => ?_
    simp only [List.mem_map, List.mem_filter, bne_iff_ne]
    constructor
    · rintro ⟨later, ⟨inRest, _⟩, rfl⟩
      exact ⟨later, inRest, rfl⟩
    · rintro ⟨later, inRest, rfl⟩
      exact ⟨later, ⟨inRest, other⟩, rfl⟩

theorem find?_of_mem_firsts (member : r ∈ firsts registrations) :
    registrations.find? (·.key == r.key) = some r := by
  induction registrations with
  | nil => simp [firsts] at member
  | cons first rest ih =>
    rcases List.mem_cons.mp member with rfl | later
    · simp
    · obtain ⟨inRest, other⟩ := List.mem_filter.mp later
      have differs : (first.key == r.key) = false :=
        beq_eq_false_iff_ne.mpr (Ne.symm (bne_iff_ne.mp other))
      rw [List.find?_cons, differs]
      exact ih inRest

theorem firsts_append (before after : List Registration) :
    firsts (before ++ after) = firsts before ++
      (firsts after).filter fun r => !(before.map Registration.key).contains r.key := by
  induction before with
  | nil => simp [firsts]
  | cons r before ih =>
    have behind : ∀ later : Registration,
        (later.key != r.key && !(before.map Registration.key).contains later.key) =
          !((r :: before).map Registration.key).contains later.key := by
      intro later
      rw [List.map_cons, List.contains_cons, Bool.not_or]
      rfl
    rw [List.cons_append, firsts, ih, firsts, List.filter_append, List.filter_filter,
      List.cons_append, List.filter_congr fun later _ => behind later]

/-! ### Consulted registrations -/

def consulted (registrations : List Registration) (keys : List String) : List Registration :=
  (firsts registrations).filter fun r => keys.contains r.key

def unprovided (registrations : List Registration) (keys : List String) : List String :=
  keys.filter fun key => !(registrations.map Registration.key).contains key

theorem consulted_cons_of_mem (wanted : r.key ∈ keys) (rest : List Registration) :
    consulted (r :: rest) keys = r :: consulted rest (keys.filter (· != r.key)) := by
  rw [consulted, firsts, List.filter_cons_of_pos (by simpa using wanted), List.filter_filter,
    consulted]
  refine congrArg (r :: ·) (List.filter_congr fun later _ => ?_)
  rw [Bool.eq_iff_iff]
  simp

theorem consulted_cons_of_not_mem (notWanted : r.key ∉ keys) (rest : List Registration) :
    consulted (r :: rest) keys = consulted rest keys := by
  rw [consulted, firsts, List.filter_cons_of_neg (by simpa using notWanted), List.filter_filter,
    consulted]
  refine List.filter_congr fun later _ => ?_
  by_cases same : later.key = r.key
  · simp [same, notWanted]
  · simp [same]

theorem unprovided_cons (r : Registration) (rest : List Registration) (keys : List String) :
    unprovided (r :: rest) keys = unprovided rest (keys.filter (· != r.key)) := by
  rw [unprovided, unprovided, List.filter_filter]
  refine List.filter_congr fun key _ => ?_
  rw [List.map_cons, List.contains_cons, Bool.not_or, Bool.and_comm]
  rfl

theorem filter_bne_of_not_mem (notWanted : r.key ∉ keys) : keys.filter (· != r.key) = keys :=
  List.filter_eq_self.mpr fun _ member =>
    bne_iff_ne.mpr fun same => notWanted (same ▸ member)

/-! ### The search -/

section Search

variable {seen : List String} {found : List Selector}

theorem add_of_mem (wanted : r.key ∈ keys) (fresh : r.key ∉ seen) :
    Search.add ⟨some keys, seen, found⟩ r.name r.selector = do
      let selector ← r.selector
      return ⟨some (keys.filter (· != r.key)), r.key :: seen, found ++ [selector]⟩ := by
  have takes : ((Search.mk (some keys) seen found).wants r.key && !seen.contains r.key) = true := by
    simp [Search.wants, wanted, fresh]
  exact if_pos takes

theorem add_of_not_mem (notWanted : r.key ∉ keys) :
    Search.add ⟨some keys, seen, found⟩ r.name r.selector = .ok ⟨some keys, seen, found⟩ := by
  have leaves :
      ¬((Search.mk (some keys) seen found).wants r.key && !seen.contains r.key) = true := by
    simp [Search.wants, notWanted]
  exact if_neg leaves

theorem fresh_of_taken (fresh : ∀ key ∈ seen, key ∉ keys) (taken : String) :
    ∀ key ∈ taken :: seen, key ∉ keys.filter (· != taken) := by
  intro key member inKeys
  obtain ⟨wanted, other⟩ := List.mem_filter.mp inKeys
  rcases List.mem_cons.mp member with rfl | earlier
  · simp at other
  · exact fresh key earlier wanted

theorem foldlM_add (registrations : List Registration) (keys seen : List String)
    (found : List Selector) (fresh : ∀ key ∈ seen, key ∉ keys) :
    registrations.foldlM (fun search r => search.add r.name r.selector)
        (⟨some keys, seen, found⟩ : Search) = do
      let selectors ← (consulted registrations keys).mapM (·.selector)
      return ⟨some (unprovided registrations keys),
        ((consulted registrations keys).map Registration.key).reverse ++ seen,
        found ++ selectors⟩ := by
  induction registrations generalizing keys seen found with
  | nil => simp [consulted, unprovided, firsts]
  | cons r rest ih =>
    rw [List.foldlM_cons, unprovided_cons]
    by_cases wanted : r.key ∈ keys
    · have unseen : r.key ∉ seen := fun taken => fresh _ taken wanted
      rw [add_of_mem wanted unseen, consulted_cons_of_mem wanted, List.mapM_cons]
      cases r.selector with
      | error failure => rfl
      | ok selector =>
        refine (ih _ _ (found ++ [selector]) (fresh_of_taken fresh r.key)).trans ?_
        cases (consulted rest (keys.filter (· != r.key))).mapM (·.selector) with
        | error failure => rfl
        | ok selectors => simp [bind, Except.bind, pure, Except.pure]
    · rw [add_of_not_mem wanted, consulted_cons_of_not_mem wanted, filter_bne_of_not_mem wanted]
      exact ih keys seen found fresh

def Search.IsOpen (search : Search) : Prop :=
  ∃ keys, search.wanted = some keys ∧ ∀ key ∈ search.seen, key ∉ keys

theorem isOpen_add {search : Search} (isOpen : search.IsOpen) (r : Registration) :
    Ends Search.IsOpen (fun _ => True) (search.add r.name r.selector) := by
  obtain ⟨wanted?, seen, found⟩ := search
  obtain ⟨keys, rfl, fresh⟩ := isOpen
  by_cases wanted : r.key ∈ keys
  · rw [add_of_mem wanted fun taken => fresh _ taken wanted]
    cases r.selector with
    | error failure => trivial
    | ok selector => exact ⟨_, rfl, fresh_of_taken fresh r.key⟩
  · rw [add_of_not_mem wanted]
    exact ⟨keys, rfl, fresh⟩

theorem consider_eq {search : Search} (isOpen : search.IsOpen) (plugin : Plugin) :
    search.consider plugin =
      search.add plugin.registration.name plugin.registration.selector := by
  obtain ⟨wanted?, seen, found⟩ := search
  obtain ⟨keys, rfl, fresh⟩ := isOpen
  by_cases wanted : plugin.registration.key ∈ keys
  · have wants : (Search.mk (some keys) seen found).wants (Text.lowered plugin.name) = true :=
      List.contains_iff_mem.mpr wanted
    rw [Search.consider, if_pos wants]
    cases kind : plugin.kind with
    | loaded object =>
      have loads : plugin.registration.selector = object.toSelector := by
        rw [Plugin.registration, kind]
      rw [loads]
      rfl
    | broken reason =>
      have fails : plugin.registration.selector = .error (.loadFailed plugin.name reason) := by
        rw [Plugin.registration, kind]
      rw [add_of_mem wanted fun taken => fresh _ taken wanted, fails]
      rfl
  · have leaves : ¬(Search.mk (some keys) seen found).wants (Text.lowered plugin.name) = true :=
      fun wants => wanted (List.contains_iff_mem.mp wants)
    rw [Search.consider, if_neg leaves, add_of_not_mem wanted]

theorem foldlM_consider {search : Search} (isOpen : search.IsOpen) (plugins : List Plugin) :
    plugins.foldlM Search.consider search =
      (plugins.map Plugin.registration).foldlM
        (fun search r => search.add r.name r.selector) search := by
  induction plugins generalizing search with
  | nil => rfl
  | cons plugin plugins ih =>
    have stays := isOpen_add isOpen plugin.registration
    rw [List.map_cons, List.foldlM_cons, List.foldlM_cons, consider_eq isOpen]
    cases added : search.add plugin.registration.name plugin.registration.selector with
    | error failure => rfl
    | ok next =>
      rw [added] at stays
      exact ih stays

theorem foldlM_builtIn_plugins {search : Search} (isOpen : search.IsOpen)
    (plugins : List Plugin) :
    (do
      let search ← builtIn.foldlM (fun search (name, selector) => search.add name (.ok selector))
        search
      plugins.foldlM Search.consider search) =
      (registered plugins).foldlM (fun search r => search.add r.name r.selector) search := by
  have stays : Ends Search.IsOpen (fun _ => True) (builtIn.foldlM
      (fun search (name, selector) => search.add name (.ok selector)) search) :=
    Ends.foldlM isOpen fun _ (name, selector) isOpen => isOpen_add isOpen ⟨name, .ok selector⟩
  rw [registered, List.foldlM_append, List.foldlM_map]
  cases reached : builtIn.foldlM
      (fun search (name, selector) => search.add name (.ok selector)) search with
  | error failure => rfl
  | ok next =>
    rw [reached] at stays
    exact foldlM_consider stays plugins

end Search

/-- What a request comes to: the selectors of the registrations that it consults, unless one of
them fails or a requested name has none. -/
def answer (registrations : List Registration) (keys : List String) :
    Except RegistryError (List Selector) := do
  let selectors ← (consulted registrations keys).mapM (·.selector)
  match unprovided registrations keys with
  | [] => return selectors
  | missing => .error (.unknownNames (ascending missing))

theorem discover_eq (plugins : List Plugin) (names : List String) :
    discover plugins (some names) = answer (registered plugins) (names.map Text.lowered) := by
  have isOpen : (Search.mk (some (names.map Text.lowered)) [] []).IsOpen := ⟨_, rfl, by simp⟩
  have run := foldlM_add (registered plugins) (names.map Text.lowered) [] [] (by simp)
  rw [← foldlM_builtIn_plugins isOpen] at run
  rw [discover, ← bind_assoc, Option.map_some, run, answer]
  cases (consulted (registered plugins) (names.map Text.lowered)).mapM (·.selector) with
  | error failure => rfl
  | ok selectors => rfl

/-! ### Registrations that are not consulted -/

section Spare

variable (spare : r.key ∈ keys → r.key ∈ before.map Registration.key)

include spare

theorem consulted_spare (after : List Registration) :
    consulted (before ++ r :: after) keys = consulted (before ++ after) keys := by
  have dropped :
      (keys.contains r.key && !(before.map Registration.key).contains r.key) = false := by
    simpa using spare
  rw [consulted, consulted, firsts_append, firsts_append, List.filter_append, List.filter_append,
    List.filter_filter, List.filter_filter, firsts, List.filter_cons_of_neg (by simpa using spare),
    List.filter_filter]
  refine congrArg _ (List.filter_congr fun later _ => ?_)
  by_cases same : later.key = r.key
  · rw [same, dropped, Bool.false_and]
  · rw [bne_iff_ne.mpr same, Bool.and_true]

theorem unprovided_spare (after : List Registration) :
    unprovided (before ++ r :: after) keys = unprovided (before ++ after) keys := by
  refine List.filter_congr fun key wanted => ?_
  by_cases same : key = r.key
  · have taken : key ∈ before.map Registration.key := same ▸ spare (same ▸ wanted)
    rw [List.map_append, List.map_append, List.contains_iff_mem.mpr
      (List.mem_append_left _ taken), List.contains_iff_mem.mpr (List.mem_append_left _ taken)]
  · have other : (key == r.key) = false := beq_eq_false_iff_ne.mpr same
    simp only [List.map_append, List.map_cons, List.contains_append, List.contains_cons, other,
      Bool.false_or]

theorem answer_spare (after : List Registration) :
    answer (before ++ r :: after) keys = answer (before ++ after) keys := by
  rw [answer, answer, consulted_spare spare, unprovided_spare spare]

end Spare

theorem registered_append_cons (before : List Plugin) (plugin : Plugin) (after : List Plugin) :
    registered (before ++ plugin :: after) =
      registered before ++ plugin.registration :: after.map Plugin.registration := by
  simp [registered]

theorem discover_spare (before : List Plugin) (plugin : Plugin) (after : List Plugin)
    {names : List String}
    (spare : plugin.registration.key ∈ names.map Text.lowered →
      plugin.registration.key ∈ (registered before).map Registration.key) :
    discover (before ++ plugin :: after) (some names) =
      discover (before ++ after) (some names) := by
  rw [discover_eq, discover_eq, registered_append_cons, answer_spare spare]
  simp [registered]

/-! ### What a request finds -/

theorem consulted_sublist (registrations : List Registration) (keys : List String) :
    (consulted registrations keys).Sublist registrations :=
  List.filter_sublist.trans (firsts_sublist registrations)

theorem nodup_keys_consulted (registrations : List Registration) (keys : List String) :
    ((consulted registrations keys).map Registration.key).Nodup :=
  (nodup_keys_firsts registrations).sublist (List.filter_sublist.map _)

theorem mem_keys_consulted {key : String} :
    key ∈ (consulted registrations keys).map Registration.key ↔
      key ∈ keys ∧ key ∈ registrations.map Registration.key := by
  simp only [consulted, List.mem_map, List.mem_filter, List.contains_iff_mem]
  constructor
  · rintro ⟨r, ⟨isFirst, wanted⟩, rfl⟩
    exact ⟨wanted, r, (firsts_sublist registrations).subset isFirst, rfl⟩
  · rintro ⟨wanted, registered⟩
    obtain ⟨r, isFirst, rfl⟩ := List.mem_map.mp (mem_keys_firsts.mpr (List.mem_map.mpr registered))
    exact ⟨r, ⟨isFirst, wanted⟩, rfl⟩

theorem mem_unprovided {key : String} :
    key ∈ unprovided registrations keys ↔
      key ∈ keys ∧ key ∉ registrations.map Registration.key := by
  rw [unprovided, List.mem_filter, Bool.not_eq_true', ← Bool.not_eq_true, List.contains_iff_mem]

structure Finds (plugins : List Plugin) (names : List String) (chosen : List Registration)
    (missing : List String) : Prop where
  inOrder : chosen.Sublist (registered plugins)
  once : (chosen.map Registration.key).Nodup
  requested : ∀ key, key ∈ chosen.map Registration.key ↔
    key ∈ names.map Text.lowered ∧ key ∈ (registered plugins).map Registration.key
  first : ∀ r ∈ chosen, (registered plugins).find? (·.key == r.key) = some r
  ascending : missing.Pairwise (· < ·)
  unprovided : ∀ key, key ∈ missing ↔
    key ∈ names.map Text.lowered ∧ key ∉ (registered plugins).map Registration.key
  found : ∀ selectors, chosen.map (·.selector) = selectors.map .ok →
    discover plugins (some names) =
      if missing = [] then .ok selectors else .error (.unknownNames missing)
  failed : ∀ before r after failure, chosen = before ++ r :: after →
    (∀ other ∈ before, ∃ selector, other.selector = .ok selector) → r.selector = .error failure →
    discover plugins (some names) = .error failure

theorem finds (plugins : List Plugin) (names : List String) :
    Finds plugins names (consulted (registered plugins) (names.map Text.lowered))
      (ascending (unprovided (registered plugins) (names.map Text.lowered))) := by
  constructor
  case inOrder => exact consulted_sublist _ _
  case once => exact nodup_keys_consulted _ _
  case requested => exact fun _ => mem_keys_consulted
  case first => exact fun r member => find?_of_mem_firsts (List.mem_filter.mp member).1
  case ascending => exact pairwise_ascending _
  case unprovided => exact fun _ => mem_ascending.trans mem_unprovided
  case found =>
    intro selectors loaded
    rw [discover_eq, answer, mapM_eq_ok_iff.mpr loaded]
    cases unprovided (registered plugins) (names.map Text.lowered) with
    | nil => rw [if_pos (ascending_eq_nil_iff.mpr rfl)]; rfl
    | cons key rest => rw [if_neg (by simp [ascending_eq_nil_iff])]; rfl
  case failed =>
    intro before r after failure split passed fails
    rw [discover_eq, answer, split, mapM_eq_error passed fails]
    rfl

/-! ### A single selector -/

theorem failsOnly_toSelector (object : Loaded) :
    FailsOnly (· ≠ .noneFound) object.toSelector := by
  cases object with
  | selectorClass chosen => trivial
  | selector chosen => trivial
  | factory made =>
    cases made with
    | none => exact RegistryError.noConfusion
    | some chosen => trivial
  | plainValue => exact RegistryError.noConfusion

theorem failsOnly_registered {plugins : List Plugin} :
    ∀ r ∈ registered plugins, FailsOnly (· ≠ .noneFound) r.selector := by
  intro r member
  rcases List.mem_append.mp member with ready | brought
  · obtain ⟨entry, _, rfl⟩ := List.mem_map.mp ready
    trivial
  · obtain ⟨plugin, _, rfl⟩ := List.mem_map.mp brought
    rw [Plugin.registration]
    cases plugin.kind with
    | loaded object => exact failsOnly_toSelector object
    | broken reason => exact RegistryError.noConfusion

theorem ends_answer_singleton (plugins : List Plugin) (key : String) :
    Ends (· ≠ []) (· ≠ .noneFound) (answer (registered plugins) [key]) := by
  have fails : FailsOnly (· ≠ .noneFound)
      ((consulted (registered plugins) [key]).mapM (·.selector)) :=
    .mapM fun r member => failsOnly_registered r ((consulted_sublist _ _).subset member)
  rw [answer]
  cases loaded : (consulted (registered plugins) [key]).mapM (·.selector) with
  | error failure =>
    rw [loaded] at fails
    exact fails
  | ok selectors =>
    cases lacking : unprovided (registered plugins) [key] with
    | cons missing rest => exact RegistryError.noConfusion
    | nil =>
      rintro rfl
      have unconsulted : consulted (registered plugins) [key] = [] := by
        simpa using mapM_eq_ok_iff.mp loaded
      have provided : key ∈ (registered plugins).map Registration.key := by
        by_contra absent
        have member := mem_unprovided.mpr ⟨List.mem_singleton_self key, absent⟩
        simp [lacking] at member
      have found := mem_keys_consulted.mpr ⟨List.mem_singleton_self key, provided⟩
      simp [unconsulted] at found

theorem get_cases (plugins : List Plugin) (name : String) (topN : Option Int) :
    (∃ n, get plugins name topN = .ok (.heuristic n)) ∨
      ∃ key, get plugins name topN = get.pick plugins key := by
  unfold get
  extract_lets key
  cases topN with
  | none => exact Or.inr ⟨key, rfl⟩
  | some n =>
    by_cases byScore : key = "heuristic"
    · exact Or.inl ⟨n, if_pos byScore⟩
    · exact Or.inr ⟨key, if_neg byScore⟩

theorem get_ne_noneFound (plugins : List Plugin) (name : String) (topN : Option Int) :
    get plugins name topN ≠ .error .noneFound := by
  intro failed
  rcases get_cases plugins name topN with ⟨n, byScore⟩ | ⟨key, picked⟩
  · rw [byScore] at failed
    cases failed
  · rw [picked, get.pick, discover_eq] at failed
    have ends := ends_answer_singleton plugins (Text.lowered key)
    rcases bind_eq_error_iff.mp failed with here | ⟨selectors, found, first⟩
    · rw [List.map_singleton] at here
      rw [here] at ends
      exact ends rfl
    · rw [List.map_singleton] at found
      rw [found] at ends
      cases selectors with
      | nil => exact ends rfl
      | cons selector rest => cases first

/-- A request finds the first registration of each of its names, case ignored, in the order of the
registrations, and refuses the names without any; no plugin matters that is not requested or that
comes behind another registration of its name; and a request for one name finds a selector or is
refused. -/
theorem discover_by_name (plugins : List Plugin) (names : List String) :
    (∃ chosen missing, Finds plugins names chosen missing) ∧
      (∀ before plugin after, plugins = before ++ plugin :: after →
        (Text.lowered plugin.name ∉ names.map Text.lowered ∨
          Text.lowered plugin.name ∈ (registered before).map Registration.key) →
        discover (before ++ after) (some names) = discover plugins (some names) ∧
          ∀ kind, discover (before ++ { plugin with kind } :: after) (some names) =
            discover plugins (some names)) ∧
      ∀ name topN, get plugins name topN ≠ .error .noneFound := by
  refine ⟨⟨_, _, finds plugins names⟩, ?_, get_ne_noneFound plugins⟩
  rintro before plugin after rfl spare
  have taken : Text.lowered plugin.name ∈ names.map Text.lowered →
      Text.lowered plugin.name ∈ (registered before).map Registration.key := by
    intro wanted
    exact spare.resolve_left (not_not_intro wanted)
  have removed (kind : PluginKind) :
      discover (before ++ ⟨plugin.name, kind⟩ :: after) (some names) =
        discover (before ++ after) (some names) :=
    discover_spare before ⟨plugin.name, kind⟩ after taken
  exact ⟨(removed plugin.kind).symm, fun kind => (removed kind).trans (removed plugin.kind).symm⟩

theorem discover_by_name_behind_another :
    discover [⟨"Extra", .loaded (.selector (.plugin id))⟩, ⟨"extra", .broken "gone"⟩]
      (some ["EXTRA", "Heuristic"]) = .ok [.heuristic 15, .plugin id] := by
  have taken : Text.lowered "extra" ∉ ["EXTRA", "Heuristic"].map Text.lowered ∨
      Text.lowered "extra" ∈ (registered [⟨"Extra", .loaded (.selector (.plugin id))⟩]).map
        Registration.key := by
    decide +kernel
  have removed := ((discover_by_name _ ["EXTRA", "Heuristic"]).2.1
    [⟨"Extra", .loaded (.selector (.plugin id))⟩] ⟨"extra", .broken "gone"⟩ [] rfl taken).1
  exact removed.symm.trans (by rfl)

end Registry

end Downstream
