import Downstream.Number.Integer
import Downstream.Text.LowerCase
import Downstream.Text.Search

/-!
Targets of requests: the path of the resource that a target names. A target may name a host, which
does not matter, and everything behind the path is left out. Dots in the path are taken back, and
percent signs with two hexadecimal digits stand for bytes, also where they come out only by
decoding others.
-/
namespace Downstream.Service

inductive TargetError where
  | tooLong
  | unprintable (c : Char) (position : Nat)
  | badPort (port : String)
  | hiddenHost
  | hiddenScheme
  | unknownScheme (scheme : String)
  deriving DecidableEq, Repr

def TargetError.message : TargetError → String
  | .tooLong => "URL too long"
  | .unprintable c position =>
    "Invalid non-printable ASCII character in URL, " ++ Text.quoted (String.singleton c)
      ++ " at position " ++ toString position ++ "."
  | .badPort port => "Invalid port: " ++ Text.quoted port
  | .hiddenHost => "Relative URLs cannot have a path starting with '//'"
  | .hiddenScheme => "Relative URLs cannot have a path starting with ':'"
  | .unknownScheme scheme => Text.quoted scheme

structure Target where
  scheme : String
  host : List Char
  port : String
  path : List Char
  deriving DecidableEq, Repr

namespace Target

def maxLength : Nat := 65536

def schemes : List String := ["http", "https", "ws", "wss"]

def splitScheme (cs : List Char) : List Char × List Char :=
  let scheme := cs.takeWhile fun c => c.isAlphanum || c == '+' || c == '.' || c == '-'
  match cs.drop scheme.length with
  | ':' :: rest => if (scheme.head?.all Char.isAlpha) then (scheme, rest) else ([], cs)
  | _ => ([], cs)

def splitAuthority : List Char → List Char × List Char
  | '/' :: '/' :: rest =>
    let authority := rest.takeWhile fun c => c != '/' && c != '?' && c != '#'
    (Text.afterLast '@' authority, rest.drop authority.length)
  | cs => ([], cs)

def ofString (text : String) : Target :=
  let (scheme, rest) := splitScheme text.toList
  let (authority, rest) := splitAuthority rest
  let host :=
    if authority.head? = some '[' && authority.contains ']' then
      Text.dropLast (Text.afterLast ']' authority).length authority
    else authority.takeWhile (· != ':')
  let port := authority.drop host.length
  let port := if port.head? = some ':' then port.drop 1 else port
  ⟨Text.lowered (String.ofList scheme), host, String.ofList port,
    rest.takeWhile fun c => c != '?' && c != '#'⟩

def isAbsolute (t : Target) : Bool :=
  t.scheme != "" && !t.host.isEmpty

def check (t : Target) : Except TargetError Unit := do
  if t.port != "" && (Number.readInteger 10 t.port).toOption.isNone then throw (.badPort t.port)
  if t.scheme = "" && t.host.isEmpty && t.port = "" then
    if ['/', '/'].isPrefixOf t.path then throw .hiddenHost
    if t.path.head? = some ':' then throw .hiddenScheme
  if t.isAbsolute && !schemes.contains t.scheme then throw (.unknownScheme t.scheme)

def collapse (components : List (List Char)) : List (List Char) :=
  let step (done : List (List Char)) (part : List Char) : List (List Char) :=
    if part = ['.'] then done
    else if part = ['.', '.'] then if done = [[]] then done else done.tail
    else part :: done
  (components.foldl step []).reverse

def percentBytes : List Char → List UInt8
  | '%' :: a :: b :: rest =>
    if Number.isDigitOf 16 a && Number.isDigitOf 16 b then
      (Number.digitsValue 16 [a, b]).toUInt8 :: percentBytes rest
    else ("%".toUTF8.toList) ++ percentBytes (a :: b :: rest)
  | c :: rest => (String.singleton c).toUTF8.toList ++ percentBytes rest
  | [] => []
termination_by cs => cs.length

def decodePercent (cs : List Char) : List Char :=
  match String.fromUTF8? ⟨(percentBytes cs).toArray⟩ with
  | some text => text.toList
  | none => cs

def pathOf (t : Target) : List Char :=
  let path := if t.isAbsolute then t.path else '/' :: t.path.dropWhile (· == '/')
  let path := ['/'].intercalate (collapse (Text.fields '/' path))
  let path := if path.isEmpty then ['/'] else path
  decodePercent (decodePercent path)

def path? (text : String) : Except TargetError String := do
  if maxLength < text.length then throw .tooLong
  let cs := text.toList
  let isUnprintable (c : Char) : Bool := c.toNat < 0x20 || c.toNat = 0x7F
  match cs.find? isUnprintable with
  | some c => throw (.unprintable c (cs.takeWhile (!isUnprintable ·)).length)
  | none =>
    let target := ofString text
    target.check
    return String.ofList target.pathOf

end Target

end Downstream.Service
