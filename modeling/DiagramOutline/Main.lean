import DiagramOutline.CommandLine

/-! # The program

Runs a command line: reads the files that it names and the variables that set it up, prints the
answer, and ends with its status. No grammar is built into the program, so outlines are read off the
text.

* **`Program.run arguments`** — the course of the program. -/

namespace DiagramOutline.Program

/-- The files that a command **names**. -/
def paths : Command → List Path
  | .blocks path _ _ => [path]
  | .analyze path _ _ => [path]
  | .lint errors source _ => [errors, source]

/-- The bytes of a file; nothing if it cannot be **read**. -/
def loadBytes (path : Path) : IO (Option (List UInt8)) := do
  try
    let bytes ← IO.FS.readBinFile (String.ofList path.text)
    return some bytes.toList
  catch _ => return none

/-- The settings that the **environment** makes. -/
def loadSettings : IO Settings := do
  let disable ← IO.getEnv Settings.disableVariable
  let grammar ← IO.getEnv Settings.grammarVariable
  return ⟨disable.map String.toList, grammar.map String.toList⟩

/-- Whether a notice is **told**: always if it is a warning, else only on request. -/
def isTold (verbose : Bool) (notice : Notice) : Bool := verbose || notice.level == .warning

/-- Prints an **answer**: output as output, anything else as a message. -/
def printAnswer (verbose : Bool) : Answer → IO Unit
  | .usage => IO.eprintln "usage: blocks PATH | analyze PATH | lint ERRORS --source SOURCE"
  | .undecodable => IO.eprintln "a file is not valid UTF-8"
  | .unanchored error => IO.eprintln (String.ofList error.message)
  | .tooDeep => IO.eprintln "the bodies nest too deep"
  | .printed output => do
    for notice in output.notices do
      if isTold verbose notice then IO.eprintln (String.ofList notice.line)
    IO.print (String.ofList output.value)

/-- Runs the **program** and gives the status that it ends with. -/
def run (arguments : List Text) : IO UInt32 := do
  let invocation := Invocation.ofArguments? arguments
  let named := (invocation.map fun invocation => paths invocation.command).getD []
  let files ← named.mapM fun path => return (path, ← loadBytes path)
  let surroundings : Surroundings := {
    settings := ← loadSettings
    parses := fun _ => none
    file := fun path => (files.lookup path).join }
  let answer := CommandLine.run surroundings arguments
  printAnswer ((invocation.map Invocation.verbose).getD false) answer
  return UInt32.ofNat (CommandLine.status answer)

end DiagramOutline.Program

/-- The **entry** of the program. -/
def main (arguments : List String) : IO UInt32 :=
  DiagramOutline.Program.run (arguments.map String.toList)
