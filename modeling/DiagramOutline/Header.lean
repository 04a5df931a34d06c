import DiagramOutline.Brace
import DiagramOutline.Keyword
import DiagramOutline.Text.Blank

/-! # Names of statements

A statement is named by its header, the part before its body. A plain statement takes the identifier
that it starts with; a connection takes its whole text, since no single word of it would do.

* **`Header.bodyTail? text`** — what is left of the line after a body's brace, when `text` begins
  with such a brace, or with a colon and blanks in front of it.
* **`Header.withoutBodies text`** — a text without its bodies: each opening brace goes, with an
  optional colon and the blanks before it, and everything up to the end of its line.
* **`Header.connectionName header`** — the name of a connection.
* **`Header.head line`** — the part of a line before a body: what its name is read off.
* **`Header.name line`** — the name of the statement whose first line is `line`; empty if it has
  none. -/

namespace DiagramOutline.Header

open Text Keyword

/-- The text **after the line** on which a body opens, when `text` begins with the body's opening:
blanks, an optional colon, blanks, a brace. The newline that ends the line is kept. -/
def bodyTail? (text : Text) : Option Text :=
  let body :=
    match trimStart text with
    | ':' :: rest => trimStart rest
    | rest => rest
  match body with
  | '{' :: rest => some (rest.dropWhile (· != '\n'))
  | _ => none

/-- Dropping characters from the start makes no text longer. -/
theorem length_dropWhile_le (p : Char → Bool) (text : Text) :
    (text.dropWhile p).length ≤ text.length :=
  (List.dropWhile_sublist p).length_le

/-- The text after a body's line is shorter than the text that begins with the body's opening. -/
theorem length_bodyTail?_lt {text tail : Text} (h : bodyTail? text = some tail) :
    tail.length < text.length := by
  unfold bodyTail? at h
  dsimp only at h
  split at h
  · next rest hbody =>
    cases h
    have htail := length_dropWhile_le (· != '\n') rest
    have hstart : (trimStart text).length ≤ text.length := length_dropWhile_le _ text
    split at hbody
    · next after hafter =>
      have : (trimStart after).length ≤ after.length := length_dropWhile_le _ after
      rw [hafter] at hstart
      rw [hbody] at this
      simp only [List.length_cons] at hstart this
      omega
    · rw [hbody] at hstart
      simp only [List.length_cons] at hstart
      omega
  · cases h

/-- A text **without its bodies**, each cut from its opening to the end of the line. -/
def withoutBodies : Text → Text
  | [] => []
  | c :: rest =>
    match _tail : bodyTail? (c :: rest) with
    | some tail => withoutBodies tail
    | none => c :: withoutBodies rest
termination_by text => text.length
decreasing_by
  · exact length_bodyTail?_lt _tail
  · simp

/-- The **name of a connection**: its trimmed text without bodies and without the colons before
them. -/
def connectionName (header : Text) : Text :=
  trim (dropEndWhile (· == ':') (withoutBodies (trim header)))

/-- A line **up to** its first opening brace outside literals. -/
def beforeBody (line : Text) : Text :=
  match (Braces.ofLine line).find? (·.brace = .opening) with
  | some placed => line.take placed.offset
  | none => line

/-- The **head** of a line: what its name is read off. -/
def head (line : Text) : Text := beforeBody (trim line)

/-- The **name** of the statement that starts on a line, empty if it has none. -/
def name (line : Text) : Text :=
  if hasConnection (head line) then connectionName (head line) else leadingIdentifier (head line)

/-- A line with a connection in its head is **named as a connection**. -/
theorem name_of_hasConnection {line : Text} (h : hasConnection (head line) = true) :
    name line = connectionName (head line) := if_pos h

/-- A line without a connection in its head is named by the **identifier** that it starts with. -/
theorem name_of_not_hasConnection {line : Text} (h : hasConnection (head line) = false) :
    name line = leadingIdentifier (head line) := by
  rw [name, h, if_neg Bool.false_ne_true]

/-- A text in which no body opens stays as it is. -/
theorem withoutBodies_of_forall {text : Text} (h : ∀ rest, rest <:+ text → bodyTail? rest = none) :
    withoutBodies text = text := by
  induction text with
  | nil => simp [withoutBodies]
  | cons c rest ih =>
    have hrest := ih fun other hother => h other (hother.trans (List.suffix_cons c rest))
    unfold withoutBodies
    split
    · next tail htail =>
      rw [h _ (List.suffix_refl _)] at htail
      cases htail
    · rw [hrest]

/-- A line without an opening brace outside literals is all head. -/
theorem beforeBody_of_not_opens {line : Text} (h : Braces.opens line = false) :
    beforeBody line = line := by
  unfold beforeBody
  split
  · next placed hfind =>
    have hmem := List.mem_of_find?_eq_some hfind
    have hbrace := List.find?_some hfind
    rw [Braces.opens, List.any_eq_false] at h
    exact absurd hbrace (by simpa using h placed hmem)
  · rfl

end DiagramOutline.Header
