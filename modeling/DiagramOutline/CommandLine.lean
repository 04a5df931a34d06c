import DiagramOutline.CommandLine.Arguments
import DiagramOutline.Console.Table
import DiagramOutline.Console.Tree
import DiagramOutline.Record.Kind
import DiagramOutline.Settings

/-! # The command line

What a command line answers, given the files and the settings.

* **`Text.withNewlines text`** — a text in which every line break is a newline.
* **`Surroundings`** — the files and settings that a command is run in.
* **`Answer`** — what comes of a command line.
* **`CommandLine.run surroundings arguments`** — the answer to a command line. -/

namespace DiagramOutline

/-- A text in which each carriage return, with a newline after it or without, is a **newline**. -/
def Text.withNewlines : Text → Text
  | [] => []
  | '\r' :: '\n' :: rest => '\n' :: withNewlines rest
  | c :: rest => (if c = '\r' then '\n' else c) :: withNewlines rest

/-- What a command is **run in**. -/
structure Surroundings where
  /-- The settings. -/
  settings : Settings
  /-- The parses that the grammar of a name has to offer, if there is such a grammar. -/
  parses : Text → Option ParseTable
  /-- The bytes of a file, if there is a file of that path. -/
  file : Path → Option (List UInt8)

/-- What **comes of** a command line. -/
inductive Answer where
  /-- The command line is not understood, or names a file that is not there. -/
  | usage
  /-- A file is not valid UTF-8. -/
  | undecodable
  /-- Error text cannot be anchored. -/
  | unanchored (error : DiagnosticError)
  /-- Interiors nest too deep for the grammar. -/
  | tooDeep
  /-- What is printed, with notices. -/
  | printed (output : Logged Text)

namespace CommandLine

/-- The **text** of a file's bytes, with newlines for line breaks. -/
def decode (bytes : List UInt8) : Option Text := (Utf8.decode? bytes).map Text.withNewlines

/-- Lines as **output**, each with a newline after it. -/
def output (lines : List Text) : Text := lines.flatMap fun line => line ++ ['\n']

/-- How **many** of something there are, in parentheses. -/
def total (count : Nat) (things : String) : Text :=
  '(' :: Text.ofNat count ++ ' ' :: things.toList ++ [')']

/-- The **grammar** to use, if one is wanted and found, and the notices of the search. -/
def grammar (surroundings : Surroundings) (useGrammar : Bool) : Logged (Option ParseTable) :=
  if useGrammar then
    let search := surroundings.settings.findGrammar none surroundings.parses
    ⟨search.found, search.notices⟩
  else .quiet none

/-- The printed **blocks** of a file. -/
def printBlocks (path : Path) (asJson : Bool) (blocks : List Block) : Text :=
  if asJson then output [(Json.array (Block.allJson blocks)).withoutNulls.render]
  else
    output ((Console.Tree.ofBlocks path.lastName blocks).draw ++ [total blocks.length "blocks"])

/-- A block's name and its metadata as one **record**. -/
def entryJson (entry : Survey.Entry) : Json :=
  .object (("name".toList, .text entry.block.name) :: entry.metadata.members)

/-- The printed **metadata** of blocks. -/
def printSurvey (asJson : Bool) (entries : List Survey.Entry) : Text :=
  if asJson then output [(Json.array (entries.map entryJson)).render]
  else output ((Console.Table.ofSurvey entries).draw ++ [total entries.length "rows"])

/-- One printed **diagnostic**: the file, the line counted from one, the stretch and the message. -/
def diagnosticLines (path : Path) (text : Text) (diagnostic : Diagnostic) : List Text :=
  Console.displayLines
    (Diagnostic.severity ++ ' ' :: path.lastName ++ ':' ::
      Text.ofNat ((text.take diagnostic.start).count '\n' + 1) ++ " (".toList ++
      Text.ofNat diagnostic.start ++ '-' :: Text.ofNat diagnostic.stop ++ ") ".toList ++
      diagnostic.message)

/-- The printed **diagnostics** about a text. -/
def printDiagnostics (path : Path) (text : Text) (asJson : Bool) (diagnostics : List Diagnostic) :
    Text :=
  if asJson then output [(Json.array (diagnostics.map Diagnostic.toJson)).render]
  else
    output (diagnostics.flatMap (diagnosticLines path text) ++
      [total diagnostics.length "diagnostics"])

/-- The answer from a **survey or outline**, with notices from before it. -/
def answer {α : Type} (notices : List Notice) (print : α → Text) : Option (Logged α) → Answer
  | none => .tooDeep
  | some result => .printed ((result.map print).after notices)

/-- The answer to a **command**. -/
def runCommand (surroundings : Surroundings) : Command → Answer
  | .blocks path useGrammar asJson =>
    match surroundings.file path with
    | none => .usage
    | some bytes =>
      match decode bytes with
      | none => .undecodable
      | some source =>
        let parses := grammar surroundings useGrammar
        answer parses.notices (printBlocks path asJson)
          (Outline.read (parses.value.map ParseTable.grammar)
            ((parses.value.map ParseTable.depth).getD 0) source)
  | .analyze path useGrammar asJson =>
    match surroundings.file path with
    | none => .usage
    | some bytes =>
      match decode bytes with
      | none => .undecodable
      | some source =>
        let parses := grammar surroundings useGrammar
        answer parses.notices (printSurvey asJson)
          (Survey.readTop (parses.value.map ParseTable.grammar)
            ((parses.value.map ParseTable.depth).getD 0) source)
  | .lint errors source asJson =>
    match surroundings.file errors, surroundings.file source with
    | some errorBytes, some sourceBytes =>
      match decode errorBytes, decode sourceBytes with
      | some errorText, some text =>
        match Diagnostic.ofErrors (.ofText text) errorText with
        | .error error => .unanchored error
        | .ok diagnostics =>
          .printed (.quiet (printDiagnostics source text asJson diagnostics))
      | _, _ => .undecodable
    | _, _ => .usage

/-- The **answer** to a command line. -/
def run (surroundings : Surroundings) (arguments : List Text) : Answer :=
  match Invocation.ofArguments? arguments with
  | none => .usage
  | some invocation => runCommand surroundings invocation.command

/-- The **status** with which a command line ends. -/
def status : Answer → Nat
  | .usage => 2
  | .undecodable => 1
  | .unanchored _ => 1
  | .tooDeep => 1
  | .printed _ => 0

end CommandLine

end DiagramOutline
