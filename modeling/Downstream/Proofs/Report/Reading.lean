import Downstream.Proofs.Analysis.Words
import Downstream.Proofs.Report

/-!
Reading a report. A line shows by its beginning what it states: the service, the number of the
dependencies, one of them with its number, or one that the diagram should show. As no name holds a
line feed, the lines are found again, and with them everything that the report was made of.
-/
namespace Downstream.Report

open Text
open Cursor (behind? behind?_append)

inductive Fact where
  | service (name : String)
  | total (count : Nat)
  | numbered (number : Nat) (name : String) (confidence : Confidence)
  | bullet (name : String)
  deriving DecidableEq, Repr

/-! ### Reading line by line -/

def numberOf (cs : List Char) : Nat :=
  Nat.ofDigitChars 10 (cs.takeWhile Char.isDigit) 0

def service? (line : List Char) : Option Fact :=
  (behind? "**Service**: ".toList line).map fun name => .service (String.ofList name)

def total? (line : List Char) : Option Fact :=
  (behind? "**Dependencies Detected** (".toList line).map fun count => .total (numberOf count)

def confidence? (ending : List Char) : Option Confidence :=
  [Confidence.low, .medium, .high].find? fun c => ending == (c.label ++ " confidence)").toList

def numbered? (line : List Char) : Option Fact := do
  let name ← behind? ". **".toList (line.dropWhile Char.isDigit)
  let ending ← behind? "** (".toList (name.dropWhile isWord)
  let confidence ← confidence? ending
  return .numbered (numberOf line) (String.ofList (name.takeWhile isWord)) confidence

def bullet? (line : List Char) : Option Fact :=
  (behind? "  • ".toList line).map fun name => .bullet (String.ofList name)

def fact? (line : List Char) : Option Fact :=
  service? line <|> total? line <|> numbered? line <|> bullet? line

def facts (lines : List String) : List Fact :=
  lines.filterMap fun line => fact? line.toList

def read (text : String) : List Fact :=
  facts (splitAt '\n' text)

/-! ### The kinds of lines -/

variable {line : List Char}

theorem behind?_eq_none {front : List Char} {mark : Char} (opens : front.head? = some mark)
    (other : Stops (· == mark) line) : behind? front line = none := by
  obtain ⟨rest, rfl⟩ := List.head?_eq_some_iff.mp opens
  cases line with
  | nil => rfl
  | cons c line =>
    have differs : c ≠ mark := beq_eq_false_iff_ne.mp (other c rfl)
    rw [behind?, if_neg differs.symm]

theorem service?_eq_none (other : Stops (· == '*') line) : service? line = none := by
  rw [service?, behind?_eq_none (by decide) other, Option.map_none]

theorem total?_eq_none (other : Stops (· == '*') line) : total? line = none := by
  rw [total?, behind?_eq_none (by decide) other, Option.map_none]

theorem numbered?_eq_none (noDigit : Stops Char.isDigit line) (noStop : Stops (· == '.') line) :
    numbered? line = none := by
  rw [numbered?, dropWhile_eq_self_of_stops noDigit, behind?_eq_none (by decide) noStop]
  rfl

theorem bullet?_eq_none (other : Stops (· == ' ') line) : bullet? line = none := by
  rw [bullet?, behind?_eq_none (by decide) other, Option.map_none]

def opensFact (c : Char) : Bool :=
  c == '*' || c.isDigit || c == '.' || c == ' '

theorem fact?_eq_none (silent : Stops opensFact line) : fact? line = none := by
  have each : ∀ c ∈ line.head?,
      (((c == '*') = false ∧ c.isDigit = false) ∧ (c == '.') = false) ∧ (c == ' ') = false := by
    intro c first
    simpa only [opensFact, Bool.or_eq_false_iff] using silent c first
  have star : Stops (· == '*') line := fun c first => (each c first).1.1.1
  have digit : Stops Char.isDigit line := fun c first => (each c first).1.1.2
  have stop : Stops (· == '.') line := fun c first => (each c first).1.2
  have space : Stops (· == ' ') line := fun c first => (each c first).2
  rw [fact?, service?_eq_none star, total?_eq_none star, numbered?_eq_none digit stop,
    bullet?_eq_none space]
  rfl

theorem fact?_text {text : String} (silent : text.toList.head?.any opensFact = false) :
    fact? text.toList = none :=
  fact?_eq_none (stops_iff_head?.mpr silent)

theorem fact?_service (name : String) :
    fact? ("**Service**: " ++ name).toList = some (.service name) := by
  rw [fact?, service?, String.toList_append, behind?_append, Option.map_some, String.ofList_toList]
  rfl

theorem numberOf_append (n : Nat) {rest : List Char} (stops : Stops Char.isDigit rest) :
    numberOf ((toString n).toList ++ rest) = n := by
  rw [numberOf, takeWhile_append_of_stops (run_toString_nat n).2 stops, toList_toString_nat,
    Nat.ofDigitChars_toDigits (by decide) (by decide)]

theorem fact?_total (n : Nat) :
    fact? ("**Dependencies Detected** (" ++ toString n ++ " total):").toList =
      some (.total n) := by
  have stops : Stops Char.isDigit " total):".toList := stops_cons.mpr (by decide)
  rw [fact?, String.toList_append, String.toList_append, List.append_assoc, total?, behind?_append,
    Option.map_some, numberOf_append n stops]
  rfl

theorem confidence?_label (confidence : Confidence) :
    confidence? (confidence.label ++ " confidence)").toList = some confidence := by
  cases confidence <;> decide

theorem numbered?_numberedLine {d : Dependency} (word : Run isWord d.name.toList) (number : Nat) :
    numbered? (numberedLine d number).toList = some (.numbered number d.name d.confidence) := by
  let ending := "** (".toList ++ (d.confidence.label ++ " confidence)").toList
  have written : (numberedLine d number).toList =
      (toString number).toList ++ (". **".toList ++ (d.name.toList ++ ending)) := by
    simp only [numberedLine, ending, String.toList_append, List.append_assoc]
  have digitsStop : Stops Char.isDigit (". **".toList ++ (d.name.toList ++ ending)) :=
    stops_cons.mpr (by decide)
  have wordStops : Stops isWord ending := stops_cons.mpr (by decide)
  rw [numbered?, written, dropWhile_append_of_stops (run_toString_nat number).2 digitsStop,
    behind?_append, numberOf_append number digitsStop]
  simp only [Option.bind_eq_bind, Option.bind_some, dropWhile_append_of_stops word.2 wordStops,
    takeWhile_append_of_stops word.2 wordStops, String.ofList_toList]
  rw [behind?_append, Option.bind_some, confidence?_label]
  rfl

theorem fact?_numberedLine {d : Dependency} (word : Run isWord d.name.toList) (number : Nat) :
    fact? (numberedLine d number).toList = some (.numbered number d.name d.confidence) := by
  have apart : ∀ c : Char, c.isDigit = true → (c == '*') = false := by
    intro c digit
    refine beq_eq_false_iff_ne.mpr fun same => ?_
    rw [same] at digit
    exact absurd digit (by decide)
  have noStar : Stops (· == '*') (numberedLine d number).toList := by
    simp only [numberedLine, String.toList_append, List.append_assoc]
    exact (run_toString_nat number).stops apart _
  rw [fact?, service?_eq_none noStar, total?_eq_none noStar, numbered?_numberedLine word]
  rfl

theorem fact?_bullet (name : String) :
    fact? ("  • " ++ name).toList = some (.bullet name) := by
  rw [fact?, String.toList_append, bullet?, behind?_append, Option.map_some, String.ofList_toList]
  rfl

/-! ### The parts of a report -/

theorem facts_cons_of_none {line : String} (silent : fact? line.toList = none)
    (rest : List String) : facts (line :: rest) = facts rest :=
  List.filterMap_cons_none silent

theorem facts_cons_of_some {line : String} {fact : Fact} (states : fact? line.toList = some fact)
    (rest : List String) : facts (line :: rest) = fact :: facts rest :=
  List.filterMap_cons_some states

theorem facts_append (front behind : List String) :
    facts (front ++ behind) = facts front ++ facts behind :=
  List.filterMap_append

theorem facts_map {α : Type} {items : List α} {line : α → String} {fact : α → Fact}
    (states : ∀ item ∈ items, fact? (line item).toList = some (fact item)) :
    facts (items.map line) = items.map fact := by
  induction items with
  | nil => rfl
  | cons item items ih =>
    rw [List.map_cons, facts_cons_of_some (states item List.mem_cons_self),
      ih fun other later => states other (List.mem_cons_of_mem item later), List.map_cons]

theorem facts_heading (serviceName : String) :
    facts (heading serviceName) = [.service serviceName] := by
  rw [heading, facts_cons_of_none (fact?_text (by decide)),
    facts_cons_of_none (fact?_text (by decide)), facts_cons_of_some (fact?_service serviceName),
    facts_cons_of_none (fact?_text (by decide))]
  rfl

theorem facts_standalone : facts standalone = [] := by
  rw [standalone, facts_cons_of_none (by decide +kernel),
    facts_cons_of_none (fact?_text (by decide)), facts_cons_of_none (fact?_text (by decide +kernel))]
  rfl

variable {dependencies : List Dependency}

def numberedFact (entry : Dependency × Nat) : Fact :=
  .numbered entry.2 entry.1.name entry.1.confidence

theorem facts_listing (words : ∀ d ∈ dependencies, Run isWord d.name.toList) :
    facts (listing dependencies) = .total dependencies.length ::
      (dependencies.zipIdx 1).map numberedFact := by
  rw [listing, List.cons_append, facts_cons_of_some (fact?_total dependencies.length),
    List.cons_append, facts_cons_of_none (fact?_text (by decide)), List.nil_append]
  refine congrArg _ (facts_map fun entry numbered => ?_)
  exact fact?_numberedLine (words entry.1 (List.fst_mem_of_mem_zipIdx numbered)) entry.2

theorem facts_diagramRequirements (serviceName : String) (dependencies : List Dependency) :
    facts (diagramRequirements serviceName dependencies) =
      dependencies.map fun d => .bullet d.name := by
  have mainService :
      fact? ("- Main service: **" ++ serviceName ++ "** (Blue rectangle, left side)").toList =
        none := by
    simp only [String.toList_append, List.append_assoc]
    exact fact?_eq_none (stops_cons.mpr (by decide))
  have introduction : facts ["", "## Diagram Requirements:", "",
      "- Main service: **" ++ serviceName ++ "** (Blue rectangle, left side)",
      "- Dependency services (Green rectangles, right side):"] = [] := by
    rw [facts_cons_of_none (fact?_text (by decide)), facts_cons_of_none (fact?_text (by decide)),
      facts_cons_of_none (fact?_text (by decide)), facts_cons_of_none mainService,
      facts_cons_of_none (fact?_text (by decide))]
    rfl
  have closing : facts ["",
      "Generate a clean dependency diagram showing these relationships."] = [] := by
    rw [facts_cons_of_none (fact?_text (by decide)), facts_cons_of_none (fact?_text (by decide))]
    rfl
  rw [diagramRequirements, facts_append, facts_append, introduction, closing, List.nil_append,
    List.append_nil]
  exact facts_map fun d _ => fact?_bullet d.name

/-! ### Whole reports -/

structure Legible (a : ServiceAnalysis) : Prop where
  oneLine : '\n' ∉ a.serviceName.toList
  words : ∀ d ∈ a.dependencies, Run isWord d.name.toList

variable {a : ServiceAnalysis}

theorem noLineFeed_lines (legible : Legible a) (diagram : Bool) :
    ∀ line ∈ lines a diagram, '\n' ∉ line.toList := by
  have plain : ∀ c, isPlain c = true → c ≠ '\n' := by
    rintro _ isPlain rfl
    exact absurd isPlain (by decide)
  have name : ∀ c ∈ a.serviceName.toList, c ≠ '\n' :=
    fun c member same => legible.oneLine (same ▸ member)
  have names : ∀ d ∈ a.dependencies, ∀ c ∈ d.name.toList, c ≠ '\n' := by
    rintro d listed _ member rfl
    exact (legible.words d listed).not_mem (by decide) member
  intro line inside member
  exact forall_mem_lines plain diagram name names line inside '\n' member rfl

theorem lines_ne_nil (a : ServiceAnalysis) (diagram : Bool) : lines a diagram ≠ [] := by
  simp [lines, heading]

theorem splitAt_report (legible : Legible a) (diagram : Bool) :
    splitAt '\n' (a.report diagram) = lines a diagram ++ [""] := by
  have whole : a.report diagram = join "\n" (lines a diagram ++ [""]) := by
    rw [a.report_eq, join_append "\n" (lines_ne_nil a diagram) (by simp), join_singleton]
    simp
  have noLineFeed : ∀ line ∈ lines a diagram ++ [""], '\n' ∉ line.toList := by
    intro line inside
    rcases List.mem_append.mp inside with listed | last
    · exact noLineFeed_lines legible diagram line listed
    · rw [List.mem_singleton.mp last]
      decide
  rw [whole, splitAt, fields_join rfl (by simp) noLineFeed, List.map_map]
  simp [Function.comp_def]

/-- What a report on an analysis states: the service, and if there are dependencies their number,
each of them with its place in the list, and on request each of them for the diagram. -/
def factsOn (a : ServiceAnalysis) (diagram : Bool) : List Fact :=
  .service a.serviceName ::
    if a.dependencies.isEmpty then []
    else
      .total a.dependencies.length :: (a.dependencies.zipIdx 1).map numberedFact
        ++ if diagram then a.dependencies.map fun d => .bullet d.name else []

theorem read_report (legible : Legible a) (diagram : Bool) :
    read (a.report diagram) = factsOn a diagram := by
  have blank : facts [""] = [] := rfl
  rw [read, splitAt_report legible, facts_append, blank, List.append_nil, lines, facts_append,
    facts_heading, factsOn]
  by_cases empty : a.dependencies.isEmpty = true
  · rw [if_pos empty, if_pos empty, facts_standalone]
    rfl
  · rw [if_neg empty, if_neg empty, facts_append, facts_listing legible.words]
    cases diagram with
    | false => rfl
    | true => rw [if_pos rfl, if_pos rfl, facts_diagramRequirements]; rfl

def ratingsIn (facts : List Fact) : List (String × Confidence) :=
  facts.filterMap fun
    | .numbered _ name confidence => some (name, confidence)
    | _ => none

theorem ratingsIn_numbered (dependencies : List Dependency) (first : Nat) :
    ratingsIn ((dependencies.zipIdx first).map numberedFact) =
      Dependencies.ratings dependencies := by
  induction dependencies generalizing first with
  | nil => rfl
  | cons d rest ih => exact congrArg ((d.name, d.confidence) :: ·) (ih (first + 1))

theorem ratingsIn_bullets (dependencies : List Dependency) :
    ratingsIn (dependencies.map fun d => .bullet d.name) = [] := by
  simp [ratingsIn]

theorem ratingsIn_factsOn (a : ServiceAnalysis) (diagram : Bool) :
    ratingsIn (factsOn a diagram) = Dependencies.ratings a.dependencies := by
  by_cases empty : a.dependencies.isEmpty = true
  · rw [factsOn, if_pos empty, List.isEmpty_iff.mp empty]
    rfl
  · have drawn : ratingsIn (if diagram then a.dependencies.map fun d => .bullet d.name else []) =
        [] := by
      cases diagram with
      | false => rfl
      | true => exact ratingsIn_bullets a.dependencies
    calc ratingsIn (factsOn a diagram)
        = ratingsIn ((a.dependencies.zipIdx 1).map numberedFact ++
            if diagram then a.dependencies.map fun d => .bullet d.name else []) := by
          rw [factsOn, if_neg empty]
          rfl
      _ = Dependencies.ratings a.dependencies := by
          rw [ratingsIn, List.filterMap_append, ← ratingsIn, ← ratingsIn, drawn, List.append_nil,
            ratingsIn_numbered]

theorem eq_of_report_eq {b : ServiceAnalysis} {diagram : Bool} (legible : Legible a)
    (legible' : Legible b) (same : a.report diagram = b.report diagram) :
    a.serviceName = b.serviceName ∧
      Dependencies.ratings a.dependencies = Dependencies.ratings b.dependencies := by
  have facts : factsOn a diagram = factsOn b diagram := by
    rw [← read_report legible, ← read_report legible', same]
  constructor
  · exact Fact.service.inj (List.cons.inj facts).1
  · rw [← ratingsIn_factsOn a diagram, ← ratingsIn_factsOn b diagram, facts]

theorem report_true_eq (a : ServiceAnalysis) :
    (a.dependencies = [] → a.report true = a.report false) ∧
      ∃ further, a.report true = a.report false ++ further := by
  by_cases empty : a.dependencies.isEmpty = true
  · have same : a.report true = a.report false := by
      rw [a.report_eq, a.report_eq, lines, lines, if_pos empty, if_pos empty]
    exact ⟨fun _ => same, "", by rw [same, String.append_empty]⟩
  · have longer : lines a true =
        lines a false ++ diagramRequirements a.serviceName a.dependencies := by
      simp [lines, empty]
    refine ⟨fun noneListed => absurd (List.isEmpty_iff.mpr noneListed) empty,
      join "\n" (diagramRequirements a.serviceName a.dependencies) ++ "\n", ?_⟩
    rw [a.report_eq, a.report_eq, longer,
      join_append "\n" (lines_ne_nil a false) (by simp [diagramRequirements]),
      String.append_assoc]

/-- From a report everything that it was made of is read back: the service, the number of the
dependencies, and their names and certainties in their order, each with its place in the list. Two
reports differ unless these agree, the part on the diagram is added behind the rest, and what an
analysis finds can always be read back in this way. -/
theorem report_is_faithful (a : ServiceAnalysis) (diagram : Bool) :
    (Legible a → read (a.report diagram) = factsOn a diagram ∧
      ∀ b, Legible b → a.report diagram = b.report diagram →
        a.serviceName = b.serviceName ∧
          Dependencies.ratings a.dependencies = Dependencies.ratings b.dependencies) ∧
    (a.dependencies = [] → a.report true = a.report false) ∧
    (∃ further, a.report true = a.report false ++ further) ∧
    (∀ (ws : Workspace) request outcome,
      ((∃ path, (ws.analyze request path).1 = .ok outcome) ∨
        ∃ uploads, (ws.analyzeUploads request uploads).1 = .ok outcome) →
      '\n' ∉ outcome.analysis.serviceName.toList → Legible outcome.analysis) := by
  obtain ⟨same, longer⟩ := report_true_eq a
  refine ⟨fun legible => ⟨read_report legible diagram, fun _ => eq_of_report_eq legible⟩, same,
    longer, ?_⟩
  rintro ws request outcome (⟨path, ended⟩ | ⟨uploads, ended⟩) oneLine
  · exact ⟨oneLine, Workspace.run_of_analyze ended⟩
  · exact ⟨oneLine, Workspace.run_of_analyzeUploads ended⟩

def shop : ServiceAnalysis where
  serviceName := "**Shop** \x7b\x7b name \x7d\x7d "
  dependencies := [⟨"Billing", .injection, .high, ""⟩, ⟨"Ledger_2", .importStatement, .low, ""⟩]

theorem legible_shop : Legible shop where
  oneLine := by decide +kernel
  words := by
    have billing : "Billing".toList.all isWord = true := by decide +kernel
    have ledger : "Ledger_2".toList.all isWord = true := by decide +kernel
    simp only [shop, List.forall_mem_cons]
    exact ⟨⟨by decide, List.all_eq_true.mp billing⟩, ⟨by decide, List.all_eq_true.mp ledger⟩,
      by simp⟩

theorem shop_report_is_faithful :
    Legible shop ∧ read (shop.report true) =
      [.service "**Shop** \x7b\x7b name \x7d\x7d ", .total 2, .numbered 1 "Billing" .high,
        .numbered 2 "Ledger_2" .low, .bullet "Billing", .bullet "Ledger_2"] :=
  ⟨legible_shop, ((report_is_faithful shop true).1 legible_shop).1⟩

end Downstream.Report
