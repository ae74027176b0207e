import Downstream.Dependency
import Downstream.Idiom.Statement
import Downstream.Idiom.Windowed
import Downstream.Language

/-!
The idioms by which code names a service it depends on. Each one belongs to some languages, implies
a kind of source and a confidence, and captures the name of a type.
-/
namespace Downstream

inductive Idiom where
  | providerMethod
  | builderCall
  | qualifiedImport
  | beanMethod
  | injectedField
  | fromImport
  | clientAttribute
  | namedImport
  deriving DecidableEq, Repr

namespace Idiom

def all : List Idiom :=
  [.providerMethod, .builderCall, .qualifiedImport, .beanMethod, .injectedField, .fromImport,
    .clientAttribute, .namedImport]

def name : Idiom → String
  | .providerMethod => "java-provides"
  | .builderCall => "java-client-builder"
  | .qualifiedImport => "java-import"
  | .beanMethod => "java-bean"
  | .injectedField => "java-autowired"
  | .fromImport => "python-import"
  | .clientAttribute => "python-client-attribute"
  | .namedImport => "js-import"

def ofName? (name : String) : Option Idiom :=
  all.find? fun idiom => idiom.name == name

def languages : Idiom → List Language
  | .providerMethod | .builderCall | .qualifiedImport | .beanMethod | .injectedField => ["java"]
  | .fromImport | .clientAttribute => ["python"]
  | .namedImport => ["javascript", "typescript"]

def source : Idiom → SourceKind
  | .providerMethod | .builderCall | .clientAttribute => .clientClass
  | .qualifiedImport | .fromImport | .namedImport => .importStatement
  | .beanMethod | .injectedField => .injection

def confidence : Idiom → Confidence
  | .providerMethod | .builderCall | .beanMethod | .fromImport | .namedImport => .high
  | .qualifiedImport | .injectedField | .clientAttribute => .medium

def describe (typeName : String) : Idiom → String
  | .providerMethod => "@Provides " ++ typeName
  | .builderCall => "ClientBuilder.remoteOf(" ++ typeName ++ ")"
  | .qualifiedImport | .fromImport | .namedImport => "import " ++ typeName
  | .beanMethod => "@Bean " ++ typeName
  | .injectedField => "@Autowired " ++ typeName
  | .clientAttribute => "self.* = " ++ typeName ++ "()"

def stripSuffixes : Idiom → List String
  | .providerMethod | .beanMethod | .injectedField => ["Client", "ServiceClient"]
  | .qualifiedImport => ["Client", "ServiceClient", "Resource"]
  | .builderCall | .fromImport | .clientAttribute | .namedImport => ["Client"]

/-- The match of an idiom in front of a text, of which `before` is the character before it. A
statement has to begin a word. -/
def matchAt (idiom : Idiom) (before : Option Char) (cs : List Char) : Option Capture :=
  let atWordStart (statement : List Char → Option Capture) :=
    if before.any Text.isWord then none else statement cs
  match idiom with
  | .providerMethod => Windowed.providerMethod.matchAt cs
  | .builderCall => Windowed.builderCall.matchAt cs
  | .beanMethod => Windowed.beanMethod.matchAt cs
  | .injectedField => Windowed.injectedField.matchAt cs
  | .qualifiedImport => atWordStart Statement.qualifiedImport
  | .fromImport => atWordStart Statement.fromImport
  | .clientAttribute => atWordStart Statement.clientAttribute
  | .namedImport => atWordStart Statement.namedImport

end Idiom

end Downstream
