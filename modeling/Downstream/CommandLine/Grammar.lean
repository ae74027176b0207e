import Downstream.Text.Search

/-!
Grammars of command lines: the options of a program with the settings that they change, and the
commands that it has. A grammar is also the source of the usage line and of the help text.
-/
namespace Downstream.CommandLine

/-- What an option does to settings: it shows the help text, changes them by itself, or takes a text
or an integer. A text may turn out to be none at all. A placeholder stands for the argument in the
help text. -/
inductive OptionAction (σ : Type) where
  | help
  | flag (set : σ → σ)
  | text (placeholder : String) (set : Option String → σ → σ)
  | integer (placeholder : String) (set : Int → σ → σ)

structure OptionRule (σ : Type) where
  names : List String
  action : OptionAction σ
  help : String

namespace OptionRule

variable {σ : Type}

def showHelp : OptionRule σ :=
  ⟨["-h", "--help"], .help, "show this help message and exit"⟩

def placeholder? (rule : OptionRule σ) : Option String :=
  match rule.action with
  | .help | .flag _ => none
  | .text placeholder _ | .integer placeholder _ => some placeholder

def takesArgument (rule : OptionRule σ) : Bool :=
  rule.placeholder?.isSome

def title (rule : OptionRule σ) : String :=
  Text.join "/" rule.names

def invocation (rule : OptionRule σ) (name : String) : String :=
  match rule.placeholder? with
  | some placeholder => name ++ " " ++ placeholder
  | none => name

end OptionRule

/-- The options of a program, and the commands with their help texts. A program with commands needs
one of them, and all arguments from there on belong to the command. -/
structure Grammar (σ : Type) where
  program : String
  description : Option String := none
  options : List (OptionRule σ)
  commands : List (String × String) := []

namespace Grammar

variable {σ : Type}

def option? (g : Grammar σ) (name : String) : Option (OptionRule σ) :=
  g.options.find? fun rule => rule.names.contains name

def optionNames (g : Grammar σ) : List (String × OptionRule σ) :=
  g.options.flatMap fun rule => rule.names.map fun name => (name, rule)

def lineWidth : Nat := 78

def maxHelpColumn : Nat := 24

/-- Words packed into lines of at most `width` characters; a longer word has a line of its own.
`line` holds the line begun, last word first, and `used` its length. -/
def packFrom (width : Nat) (line : List String) (used : Nat) : List String → List String
  | [] => if line.isEmpty then [] else [Text.join " " line.reverse]
  | word :: words =>
    if line.isEmpty then packFrom width [word] word.length words
    else if used + 1 + word.length ≤ width then
      packFrom width (word :: line) (used + 1 + word.length) words
    else Text.join " " line.reverse :: packFrom width [word] word.length words

def pack (width : Nat) (words : List String) : List String :=
  packFrom width [] 0 words

def blanks (n : Nat) : String :=
  String.ofList (List.replicate n ' ')

def commandChoice (g : Grammar σ) : String :=
  "\x7b" ++ Text.join "," (g.commands.map (·.1)) ++ "\x7d"

def usageParts (g : Grammar σ) : List String :=
  g.options.map (fun rule => "[" ++ rule.invocation (rule.names.head?.getD "") ++ "]")
    ++ if g.commands.isEmpty then [] else [g.commandChoice ++ " ..."]

def usage (g : Grammar σ) : String :=
  let opening := "usage: " ++ g.program ++ " "
  let lines := pack (lineWidth - opening.length) g.usageParts
  opening ++ Text.join ("\n" ++ blanks opening.length) lines ++ "\n"

structure HelpItem where
  indent : Nat
  title : String
  help : String

def commandItems (g : Grammar σ) : List HelpItem :=
  if g.commands.isEmpty then []
  else ⟨2, g.commandChoice, ""⟩ :: g.commands.map fun (name, help) => ⟨4, name, help⟩

def optionItems (g : Grammar σ) : List HelpItem :=
  g.options.map fun rule => ⟨2, Text.join ", " (rule.names.map rule.invocation), rule.help⟩

def helpColumn (g : Grammar σ) : Nat :=
  let widths := (g.commandItems ++ g.optionItems).map fun item => item.title.length + 4
  min maxHelpColumn (widths.foldl max 0)

/-- The lines of an item; the help text begins on a line of its own where the title is too long. -/
def itemLines (column : Nat) (item : HelpItem) : List String :=
  let title := blanks item.indent ++ item.title
  match pack (lineWidth - column) (Text.splitAt ' ' item.help) with
  | [] => [title]
  | first :: rest =>
    if item.help.isEmpty then [title]
    else
      let others := rest.map (blanks column ++ ·)
      if title.length + 2 ≤ column then (title ++ blanks (column - title.length) ++ first) :: others
      else title :: (blanks column ++ first) :: others

def helpSection (g : Grammar σ) (heading : String) (items : List HelpItem) : List String :=
  if items.isEmpty then []
  else [Text.join "\n" ((heading ++ ":") :: items.flatMap (itemLines g.helpColumn)) ++ "\n"]

def help (g : Grammar σ) : String :=
  Text.join "\n"
    (g.usage :: g.description.toList.map (· ++ "\n")
      ++ g.helpSection "positional arguments" g.commandItems
      ++ g.helpSection "options" g.optionItems)

end Grammar

end Downstream.CommandLine
