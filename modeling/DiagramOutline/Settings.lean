import DiagramOutline.Notice
import DiagramOutline.Text.Blank

/-! # Settings

The settings that decide which grammar is used, if any.

* **`Settings`** — what the environment variables say.
* **`Settings.disablesGrammar settings`** — the settings say to do without a grammar.
* **`Settings.grammarName settings language`** — the name of the grammar to look for.
* **`Settings.findGrammar settings language find`** — the search for the grammar, with its
  notices. -/

namespace DiagramOutline

/-- What the **environment** says about grammars; a variable that is not set says nothing. -/
structure Settings where
  /-- Whether to do without a grammar. -/
  disable : Option Text := none
  /-- The name of the grammar. -/
  grammar : Option Text := none
  deriving DecidableEq, Repr

/-- The outcome of a **search** for a grammar. -/
structure GrammarSearch (α : Type) where
  /-- The names that were looked for, in order. -/
  requested : List Text
  /-- What was found. -/
  found : Option α
  /-- What there is to tell about it. -/
  notices : List Notice
  deriving Repr

namespace Settings

/-- The variable that says to do **without** a grammar. -/
def disableVariable : String := "D2_FRAGMENTS_DISABLE_GRAMMAR"

/-- The variable that **names** the grammar. -/
def grammarVariable : String := "D2_FRAGMENTS_GRAMMAR"

/-- The settings that **variables** make. -/
def ofVariables (lookup : String → Option Text) : Settings :=
  ⟨lookup disableVariable, lookup grammarVariable⟩

/-- The name of the grammar if **nothing else** is said. -/
def defaultGrammar : Text := "d2".toList

/-- The words that **say yes**, in lower case. -/
def affirmations : List Text := ["1", "true", "yes"].map String.toList

/-- Whether the settings say to do **without** a grammar, in whatever case and with blanks
around. -/
def disablesGrammar (settings : Settings) : Bool :=
  affirmations.contains ((Text.trim (settings.disable.getD [])).map Char.toLower)

/-- The **name** of the grammar: the language that was asked for if its name is not empty, or else
what the settings say. -/
def grammarName (settings : Settings) (language : Option Text) : Text :=
  match language with
  | some (c :: rest) => c :: rest
  | _ => settings.grammar.getD defaultGrammar

/-- The **search** for a grammar. -/
def findGrammar {α : Type} (settings : Settings) (language : Option Text)
    (find : Text → Option α) : GrammarSearch α :=
  if settings.disablesGrammar then ⟨[], none, [.grammarDisabled]⟩
  else
    let name := settings.grammarName language
    match find name with
    | some grammar => ⟨[name], some grammar, [.grammarLoaded name]⟩
    | none => ⟨[name], none, [.grammarUnavailable name]⟩

end Settings

end DiagramOutline
