import DiagramOutline.Path

/-! # Arguments of the command line

What the command line asks for. Options stand anywhere after the command, before or after the file,
and their names are given in full; after two hyphens nothing is an option any more.

* **`Command`** — what is asked for.
* **`Invocation`** — a command, and whether to tell about its course.
* **`Invocation.ofArguments? arguments`** — the invocation that arguments make; nothing if they make
  none. -/

namespace DiagramOutline

/-- What the command line **asks for**. -/
inductive Command where
  /-- The outline of a file. -/
  | blocks (path : Path) (useGrammar asJson : Bool)
  /-- The metadata of the blocks at the top of a file. -/
  | analyze (path : Path) (useGrammar asJson : Bool)
  /-- The diagnostics of the error text in one file about the source in another. -/
  | lint (errors source : Path) (asJson : Bool)
  deriving DecidableEq, Repr

/-- A command line: a **command**, and whether to tell about its course. -/
structure Invocation where
  /-- Whether to tell also what is no cause for concern. -/
  verbose : Bool
  /-- The command. -/
  command : Command
  deriving DecidableEq, Repr

/-- What has been **given** to a command so far. -/
structure Given where
  /-- The arguments that are no options, in order. -/
  positional : List Text := []
  /-- Whether a grammar is to be used. -/
  useGrammar : Bool := true
  /-- Whether the answer is to be JSON. -/
  asJson : Bool := false
  /-- The file that error text is about. -/
  source : Option Text := none
  deriving DecidableEq, Repr

/-- Which **options** a command has, beside the one for JSON. -/
inductive OptionSet where
  /-- Those that turn the grammar on and off. -/
  | grammar
  /-- The one that names a source. -/
  | source
  deriving DecidableEq, Repr

/-- Whether an argument has the **form** of an option. -/
def isOptionLike : Text → Bool
  | '-' :: _ :: _ => true
  | _ => false

/-- The option that names a source, up to and with the sign **before** its value. -/
def sourceOption : Text := "--source=".toList

/-- The arguments of a command, **read on** from what was given before; nothing if some argument is
no option of the command. -/
def Given.read (options : OptionSet) (given : Given) : List Text → Option Given
  | [] => some given
  | argument :: more =>
    if argument = "--".toList then some { given with positional := given.positional ++ more }
    else if argument = "--json".toList then read options { given with asJson := true } more
    else if options = .grammar ∧ argument = "--grammar".toList then
      read options { given with useGrammar := true } more
    else if options = .grammar ∧ argument = "--no-grammar".toList then
      read options { given with useGrammar := false } more
    else if options = .source ∧ argument = "--source".toList then
      match more with
      | [] => none
      | value :: more => read options { given with source := some value } more
    else if options = .source ∧ sourceOption.isPrefixOf argument then
      read options { given with source := some (argument.drop sourceOption.length) } more
    else if isOptionLike argument then none
    else read options { given with positional := given.positional ++ [argument] } more

/-- The **command** of a name with its arguments. -/
def Command.ofArguments? (name : Text) (arguments : List Text) : Option Command :=
  if name = "blocks".toList then
    match Given.read .grammar {} arguments with
    | some ⟨[path], useGrammar, asJson, _⟩ => some (.blocks (.ofText path) useGrammar asJson)
    | _ => none
  else if name = "analyze".toList then
    match Given.read .grammar {} arguments with
    | some ⟨[path], useGrammar, asJson, _⟩ => some (.analyze (.ofText path) useGrammar asJson)
    | _ => none
  else if name = "lint".toList then
    match Given.read .source {} arguments with
    | some ⟨[errors], _, asJson, some source⟩ =>
      some (.lint (.ofText errors) (.ofText source) asJson)
    | _ => none
  else none

/-- Whether an argument **asks to tell** about the course of a command: the long option, or the
short one any number of times. -/
def isVerboseOption (argument : Text) : Bool :=
  argument == "--verbose".toList ||
    match argument with
    | '-' :: 'v' :: more => more.all (· == 'v')
    | _ => false

namespace Invocation

/-- The invocation that arguments make **after** others that did or did not ask to tell. -/
def ofArgumentsFrom? (verbose : Bool) : List Text → Option Invocation
  | [] => none
  | argument :: more =>
    if isVerboseOption argument then ofArgumentsFrom? true more
    else if argument = "--".toList then
      match more with
      | [] => none
      | name :: more => (Command.ofArguments? name more).map (Invocation.mk verbose)
    else if isOptionLike argument then none
    else (Command.ofArguments? argument more).map (Invocation.mk verbose)

/-- The **invocation** that arguments make. -/
def ofArguments? (arguments : List Text) : Option Invocation := ofArgumentsFrom? false arguments

end Invocation

end DiagramOutline
