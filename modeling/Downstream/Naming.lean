import Downstream.Text.Search

/-!
Names of services: a type name loses the suffixes that only say how the service is reached, and what
is left has to look like the name of a service.
-/
namespace Downstream.Naming

def genericNames : List String :=
  ["String", "Integer", "Boolean", "Object", "List", "Map", "Set", "Array", "Http", "Rest", "Json",
    "Xml", "Builder"]

def infrastructureSuffixes : List String :=
  ["Builder", "Factory", "Utils", "Helper"]

def minLength : Nat := 3

def maxLength : Nat := 99

def stripSuffix (name suffix : List Char) : List Char :=
  if suffix != [] && Text.endsIn suffix name then Text.dropLast suffix.length name else name

def normalize (raw : String) (suffixes : List String) : String :=
  String.ofList (suffixes.foldl (fun name suffix => stripSuffix name suffix.toList) raw.toList)

def isServiceName (name : String) : Bool :=
  let cs := name.toList
  minLength ≤ cs.length && cs.length ≤ maxLength && cs.head?.any Char.isUpper
    && !genericNames.contains name
    && !infrastructureSuffixes.any fun suffix => Text.endsIn suffix.toList cs

def canonical? (raw : String) (suffixes : List String) : Option String :=
  let name := normalize raw suffixes
  if isServiceName name then some name else none

end Downstream.Naming
