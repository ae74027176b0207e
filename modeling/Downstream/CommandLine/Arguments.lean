import Downstream.CommandLine.Grammar
import Downstream.Number.Integer
import Downstream.Text.DecimalDigit

/-!
Reading arguments by a grammar. Long options may be shortened as long as they stay unique, short
ones may share one dash, and an argument follows an option behind an equals sign, at once behind a
short option, or as the next word. What fits nothing is collected and left to the caller.
-/
namespace Downstream.CommandLine

inductive UsageError where
  | ambiguousOption (word : String) (names : List String)
  | surplusArgument (option text : String)
  | missingArgument (option : String)
  | notAnInteger (option text : String)
  | unknownCommand (word : String) (commands : List String)
  | missingCommand
  | unknownWords (words : List String)
  deriving DecidableEq, Repr

def UsageError.message : UsageError → String
  | .ambiguousOption word names =>
    "ambiguous option: " ++ word ++ " could match " ++ Text.join ", " names
  | .surplusArgument option text =>
    "argument " ++ option ++ ": ignored explicit argument " ++ Text.quoted text
  | .missingArgument option => "argument " ++ option ++ ": expected one argument"
  | .notAnInteger option text =>
    "argument " ++ option ++ ": invalid int value: " ++ Text.quoted text
  | .unknownCommand word commands =>
    "argument command: invalid choice: " ++ Text.quoted word ++ " (choose from "
      ++ Text.join ", " (commands.map Text.quoted) ++ ")"
  | .missingCommand => "the following arguments are required: command"
  | .unknownWords words => "unrecognized arguments: " ++ Text.join " " words

/-- Why no settings come out: the help text was asked for, or an error was found, of which the user
of a program is told after its usage line. -/
inductive Halt where
  | help (text : String)
  | refused (program usage : String) (error : UsageError)
  deriving DecidableEq, Repr

inductive Role (σ : Type) where
  | plain
  | dashes
  | option (rule : OptionRule σ) (name : String) (attached : Option (List Char))
  | unknownOption

namespace Grammar

variable {σ : Type}

def cutAtEquals (word : List Char) : List Char × Option (List Char) :=
  let name := word.takeWhile (· != '=')
  match word.drop name.length with
  | [] => (name, none)
  | _ :: text => (name, some text)

/-- The options that a word may be short for. A word with one dash may also be a short option with a
text behind it. -/
def candidates (g : Grammar σ) (word : List Char) : List (String × Role σ) :=
  match word with
  | '-' :: '-' :: _ =>
    let (name, attached) := cutAtEquals word
    g.optionNames.filterMap fun (full, rule) =>
      if name.isPrefixOf full.toList then some (full, .option rule full attached) else none
  | _ =>
    g.optionNames.filterMap fun (full, rule) =>
      if full.toList = word.take 2 then
        some (full, .option rule full (some (word.drop 2)))
      else if word.isPrefixOf full.toList then some (full, .option rule full none)
      else none

/-- Whether a word is a negative number: a dash and digits of any script, perhaps with one point
before the last of them. A line break at the end does not count. -/
def isNegativeNumber (word : List Char) : Bool :=
  let isDigit (c : Char) := (Text.decimalValue? c).isSome
  match word with
  | '-' :: body =>
    let body := if body.getLast? = some '\n' then body.dropLast else body
    let whole := body.takeWhile isDigit
    match body.drop whole.length with
    | [] => !whole.isEmpty
    | '.' :: fraction => !fraction.isEmpty && fraction.all isDigit
    | _ => false
  | _ => false

def role (g : Grammar σ) (word : String) : Except UsageError (Role σ) :=
  match word.toList with
  | [] | ['-'] => .ok .plain
  | '-' :: body =>
    let cs := '-' :: body
    let (name, attached) := cutAtEquals cs
    match g.option? word, g.option? (String.ofList name), attached with
    | some rule, _, _ => .ok (.option rule word none)
    | none, some rule, some attached =>
      .ok (.option rule (String.ofList name) (some attached))
    | _, _, _ =>
      match g.candidates cs with
      | [(_, role)] => .ok role
      | [] => .ok (if isNegativeNumber cs || cs.contains ' ' then .plain else .unknownOption)
      | several => .error (.ambiguousOption word (several.map (·.1)))
  | _ => .ok .plain

/-- Words with the parts they play. All words behind a double dash are plain. -/
def roles (g : Grammar σ) : List String → Except UsageError (List (String × Role σ))
  | [] => .ok []
  | word :: words =>
    if word = "--" then .ok ((word, .dashes) :: words.map fun w => (w, .plain))
    else do
      let role ← g.role word
      return (word, role) :: (← g.roles words)

structure Use (σ : Type) where
  rule : OptionRule σ
  argument : Option String

structure Uses (σ : Type) where
  uses : List (Use σ)
  takesNext : Bool := false

/-- The uses of an option without a text attached; `next` is the plain word behind it. -/
def useAlone (rule : OptionRule σ) (next : Option String) : Except UsageError (Uses σ) :=
  if rule.takesArgument then
    match next with
    | some argument => .ok { uses := [⟨rule, some argument⟩], takesNext := true }
    | none => .error (.missingArgument rule.title)
  else .ok { uses := [⟨rule, none⟩] }

/-- The argument that a text attached to an option gives; a double dash gives none. -/
def attachedArgument (text : List Char) : Option String :=
  if text = ['-', '-'] then none else some (String.ofList text)

/-- The uses of an option with a text attached. An option that takes an argument takes the whole
text. Behind a short option that takes none the text is a cluster: its first letter is the next
short option, and the rest is attached to that one, an equals sign with it. -/
def useAttached (g : Grammar σ) (next : Option String) (rule : OptionRule σ) (isShort : Bool)
    (text : List Char) : Except UsageError (Uses σ) :=
  if rule.takesArgument then .ok { uses := [⟨rule, attachedArgument text⟩] }
  else
    match text with
    | [] => .error (.surplusArgument rule.title "")
    | c :: rest =>
      match isShort, g.option? (String.ofList ['-', c]), rest with
      | true, some other, [] => do
        let more ← useAlone other next
        return { more with uses := ⟨rule, none⟩ :: more.uses }
      | true, some other, rest => do
        let more ← g.useAttached next other true rest
        return { more with uses := ⟨rule, none⟩ :: more.uses }
      | _, _, _ => .error (.surplusArgument rule.title (String.ofList text))
termination_by text.length

def usesOf (g : Grammar σ) (rule : OptionRule σ) (name : String) (attached : Option (List Char))
    (next : Option String) : Except UsageError (Uses σ) :=
  match attached with
  | none => useAlone rule next
  | some text => g.useAttached next rule (name.toList[1]? != some '-') text

def refuse (g : Grammar σ) (error : UsageError) : Halt :=
  .refused g.program g.usage error

def apply (g : Grammar σ) (settings : σ) (use : Use σ) : Except Halt σ :=
  match use.rule.action, use.argument with
  | .help, _ => .error (.help g.help)
  | .flag set, _ => .ok (set settings)
  | .text _ set, argument => .ok (set argument settings)
  | .integer _ _, none => .ok settings
  | .integer _ set, some argument =>
    match Number.readInteger 10 argument with
    | .ok n => .ok (set n settings)
    | .error _ => .error (g.refuse (.notAnInteger use.rule.title argument))

structure Reading (σ : Type) where
  settings : σ
  leftOver : List String
  command : List String

/-- Reads words by the parts they play; `skip` is set where the first word is used up already. -/
def readRoles (g : Grammar σ) (skip : Bool) (reading : Reading σ) :
    List (String × Role σ) → Except Halt (Reading σ)
  | [] => .ok reading
  | (word, role) :: rest =>
    if skip then g.readRoles false reading rest
    else
      match role with
      | .unknownOption =>
        g.readRoles false { reading with leftOver := reading.leftOver ++ [word] } rest
      | .option rule name attached => do
        let next :=
          match rest with
          | (word, .plain) :: _ => some word
          | _ => none
        match g.usesOf rule name attached next with
        | .error e => throw (g.refuse e)
        | .ok found =>
          let settings ← found.uses.foldlM g.apply reading.settings
          g.readRoles found.takesNext { reading with settings } rest
      | .plain =>
        if g.commands.isEmpty then
          g.readRoles false { reading with leftOver := reading.leftOver ++ [word] } rest
        else .ok { reading with command := word :: rest.map (·.1) }
      | .dashes =>
        if g.commands.isEmpty || rest.isEmpty then
          g.readRoles false { reading with leftOver := reading.leftOver ++ [word] } rest
        else .ok { reading with command := word :: rest.map (·.1) }

def read (g : Grammar σ) (settings : σ) (words : List String) : Except Halt (Reading σ) :=
  match g.roles words with
  | .error e => .error (g.refuse e)
  | .ok roles => g.readRoles false ⟨settings, [], []⟩ roles

end Grammar

end Downstream.CommandLine
