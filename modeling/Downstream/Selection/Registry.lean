import Downstream.Selection.Basic
import Downstream.Text.Blank

/-!
Finding selectors by name, ignoring case: the built-in ones first, then those that plugins bring.
The first registration of a name wins.
-/
namespace Downstream

inductive Loaded where
  /-- A class of selectors; its instances choose as the given one. -/
  | selectorClass (instances : Selector)
  | selector (itself : Selector)
  /-- A function that makes a selector, or something that is none. -/
  | factory (made : Option Selector)
  | plainValue

inductive PluginKind where
  | loaded (object : Loaded)
  /-- Loading fails with a reason. -/
  | broken (reason : String)

structure Plugin where
  name : String
  kind : PluginKind

inductive RegistryError where
  | unknownNames (names : List String)
  | loadFailed (name reason : String)
  | noSelector
  | noneFound
  deriving DecidableEq, Repr

def RegistryError.message : RegistryError → String
  | .unknownNames names => "Unknown selectors requested: " ++ Text.join ", " names
  | .loadFailed name reason =>
    "Failed to load selector entry point '" ++ name ++ "': " ++ reason
  | .noSelector => "Selector entry point must be a KeyFileSelector subclass or factory"
  | .noneFound => "list index out of range"

def Loaded.toSelector : Loaded → Except RegistryError Selector
  | .selectorClass chosen | .selector chosen | .factory (some chosen) => .ok chosen
  | .factory none | .plainValue => .error .noSelector

namespace Registry

def builtIn : List (String × Selector) :=
  [("heuristic", .heuristic Selection.defaultTopN),
    ("module-fallback", .wiringModules Selection.defaultLimit)]

/-- A search in progress: the names still wanted, or none where every name is, the names found, and
the selectors found in their order. -/
structure Search where
  wanted : Option (List String)
  seen : List String
  found : List Selector

def Search.wants (search : Search) (key : String) : Bool :=
  search.wanted.all fun names => names.contains key

def Search.add (search : Search) (name : String) (make : Except RegistryError Selector) :
    Except RegistryError Search :=
  let key := Text.lowered name
  if search.wants key && !search.seen.contains key then do
    let selector ← make
    return { wanted := search.wanted.map fun names => names.filter (· != key),
             seen := key :: search.seen, found := search.found ++ [selector] }
  else .ok search

/-- Considers a plugin: it is loaded if its name is wanted, even if the name is taken. -/
def Search.consider (search : Search) (plugin : Plugin) : Except RegistryError Search :=
  if search.wants (Text.lowered plugin.name) then
    match plugin.kind with
    | .broken reason => .error (.loadFailed plugin.name reason)
    | .loaded object => search.add plugin.name object.toSelector
  else .ok search

/-- The selectors of the requested names, or all of them where no request is made. Every requested
name has to be found. -/
def discover (plugins : List Plugin) (requested : Option (List String)) :
    Except RegistryError (List Selector) := do
  let start : Search := ⟨requested.map fun names => names.map Text.lowered, [], []⟩
  let search ← builtIn.foldlM (fun search (name, selector) => search.add name (.ok selector)) start
  let search ← plugins.foldlM Search.consider search
  match search.wanted.getD [] with
  | [] => return search.found
  | missing => .error (.unknownNames (missing.eraseDups.mergeSort fun a b => a ≤ b))

def get (plugins : List Plugin) (name : String) (topN : Option Int) :
    Except RegistryError Selector := do
  let key := Text.lowered (Text.trimmed name)
  match topN with
  | some n =>
    if key = "heuristic" then return .heuristic n
    else pick key
  | none => pick key
where
  pick (key : String) : Except RegistryError Selector := do
    match ← discover plugins (some [key]) with
    | selector :: _ => return selector
    | [] => .error .noneFound

end Registry

end Downstream
