import DiagramOutline.Text.Quoted

/-! # Notices

What the library has to tell about its own work: which grammar it found, and where it had to do
without one. Notices are values that come with a result, in the order in which they arose.

* **`Notice`** — one thing to tell; `Notice.line` is its wording, after its level.
* **`Logged α`** — a result with its notices. -/

namespace DiagramOutline

/-- How **grave** a notice is. -/
inductive NoticeLevel where
  /-- Of interest only when something is looked into. -/
  | debug
  /-- The ordinary course of things. -/
  | info
  /-- Something did not work as wished. -/
  | warning
  deriving DecidableEq, Repr

/-- One thing that the library **has to tell**. -/
inductive Notice where
  /-- An outline could not be made with the grammar. -/
  | outlineFellBack
  /-- The grammar made no tree of a text to be outlined. -/
  | noTree
  /-- The metadata could not be found with the grammar. -/
  | metadataFellBack
  /-- The grammar of this name is in use. -/
  | grammarLoaded (name : Text)
  /-- The settings say to do without a grammar. -/
  | grammarDisabled
  /-- There is no grammar of this name. -/
  | grammarUnavailable (name : Text)
  deriving DecidableEq, Repr

/-- The word for a **level**. -/
def NoticeLevel.word : NoticeLevel → Text
  | debug => "DEBUG".toList
  | info => "INFO".toList
  | warning => "WARNING".toList

namespace Notice

/-- The **level** of a notice. -/
def level : Notice → NoticeLevel
  | outlineFellBack => .warning
  | noTree => .debug
  | metadataFellBack => .warning
  | grammarLoaded _ => .info
  | grammarDisabled => .info
  | grammarUnavailable _ => .warning

/-- The **wording** of a notice. -/
def message : Notice → Text
  | outlineFellBack => "Grammar extraction failed; falling back to text scanner".toList
  | noTree => "Grammar backend returned no tree; using text scanner".toList
  | metadataFellBack => "Grammar analysis failed; falling back to text scanner".toList
  | grammarLoaded name => "Loaded tree-sitter grammar ".toList ++ name.quoted
  | grammarDisabled => "Grammar backend disabled by D2_FRAGMENTS_DISABLE_GRAMMAR".toList
  | grammarUnavailable name =>
    "Tree-sitter grammar ".toList ++ name.quoted ++ " unavailable; using text scanner".toList

/-- A notice as one **line**: the word for its level, and its wording. -/
def line (notice : Notice) : Text := notice.level.word ++ ' ' :: notice.message

end Notice

/-- A result with the **notices** that arose on the way to it, in order. -/
structure Logged (α : Type) where
  /-- The result. -/
  value : α
  /-- The notices. -/
  notices : List Notice
  deriving Repr

namespace Logged

variable {α β : Type}

/-- A result without notices. -/
def quiet (value : α) : Logged α := ⟨value, []⟩

/-- The same notices with another result. -/
def map (f : α → β) (logged : Logged α) : Logged β := ⟨f logged.value, logged.notices⟩

/-- A result with notices from **before** it in front. -/
def after (notices : List Notice) (logged : Logged α) : Logged α :=
  ⟨logged.value, notices ++ logged.notices⟩

end Logged

end DiagramOutline
