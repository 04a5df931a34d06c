import DiagramOutline.Brace
import DiagramOutline.Text.Blank

/-! # Labels

A statement may carry a label to be shown in place of its name: a quoted one in its header, after
the first colon, or the value of a `label` property that stands directly in its body.

* **`Label.clean raw`** — label text made ready to be shown; nothing where no text is left.
* **`Label.literal? text`** — the string literal at the start of `text` and what follows it.
* **`Label.quoted? line`** — the string literal after the first colon of `line` and what follows it.
* **`Label.ofStatement code`** — the label of a statement without a body.
* **`Label.ofBody code`** — the label of a statement with a body. -/

namespace DiagramOutline.Label

open Text

/-- The greatest **length** of a label. -/
def maxLength : Nat := 60

/-! ## Cleaning -/

/-- A text without the **pair of quotes** around it, if the same quote stands at both its ends. -/
def unquote (text : Text) : Text :=
  match text with
  | [] => []
  | c :: rest =>
    if Quoting.isQuote c && !rest.isEmpty && rest.getLast? == some c then rest.dropLast else text

/-- A text with a space in place of each written **line break**, a backslash and the letter n. -/
def spaceLineBreaks : Text → Text
  | '\\' :: 'n' :: rest => ' ' :: spaceLineBreaks rest
  | c :: rest => c :: spaceLineBreaks rest
  | [] => []

/-- A text cut down to the greatest **length** of a label, its last three characters then being
dots. -/
def shorten (text : Text) : Text :=
  if text.length > maxLength then text.take (maxLength - 3) ++ ['.', '.', '.'] else text

/-- Label text **made ready** to be shown: trimmed, without its quotes, on one line, and not too
long. Nothing is left of a text without characters. -/
def clean (raw : Text) : Option Text :=
  match shorten (spaceLineBreaks (unquote (trim raw))) with
  | [] => none
  | text => some text

/-- A shortened text keeps to the greatest length. -/
theorem length_shorten_le (text : Text) : (shorten text).length ≤ maxLength := by
  unfold shorten
  split
  · simp only [List.length_append, List.length_take, List.length_cons, List.length_nil, maxLength]
    omega
  · omega

/-- A clean label is the shortened text, and that is not empty. -/
theorem clean_eq_some_iff {raw label : Text} :
    clean raw = some label ↔
      shorten (spaceLineBreaks (unquote (trim raw))) = label ∧ label ≠ [] := by
  unfold clean
  split
  · next h => simp only [h, reduceCtorEq, false_iff, not_and, ne_eq]; intro h'; simp [← h']
  · next text h =>
    simp only [Option.some.injEq]
    exact ⟨fun heq => ⟨heq, heq ▸ h⟩, fun heq => heq.1⟩

/-- A clean label is not empty. -/
theorem ne_nil_of_clean {raw label : Text} (h : clean raw = some label) : label ≠ [] :=
  (clean_eq_some_iff.1 h).2

/-- A clean label keeps to the greatest length. -/
theorem length_le_of_clean {raw label : Text} (h : clean raw = some label) :
    label.length ≤ maxLength :=
  (clean_eq_some_iff.1 h).1 ▸ length_shorten_le _

/-! ## Literals -/

/-- What is read of a literal that `quote` opened, **up to and with** the quote that closes it, and
what follows; nothing if the literal is not closed. -/
def literalBody? (quote : Char) : Text → Option (Text × Text)
  | [] => none
  | c :: rest =>
    if c = Quoting.backslash then
      match rest with
      | [] => none
      | d :: more => (literalBody? quote more).map fun (read, left) => (c :: d :: read, left)
    else if c = quote then some ([c], rest)
    else (literalBody? quote rest).map fun (read, left) => (c :: read, left)

/-- The string **literal** at the start of a text, its quotes included, and what follows it. -/
def literal? : Text → Option (Text × Text)
  | [] => none
  | c :: rest =>
    if Quoting.isQuote c then (literalBody? c rest).map fun (read, left) => (c :: read, left)
    else none

/-- What is read of a literal and what is left make up the text. -/
theorem eq_append_of_literalBody? {quote : Char} {text read left : Text}
    (h : literalBody? quote text = some (read, left)) : text = read ++ left := by
  fun_induction literalBody? quote text generalizing read left with
  | case1 => cases h
  | case2 => cases h
  | case3 d more ih =>
    obtain ⟨⟨read', left'⟩, hbody, heq⟩ := Option.map_eq_some_iff.1 h
    simp only [Prod.mk.injEq] at heq
    obtain ⟨rfl, rfl⟩ := heq
    simp [ih hbody]
  | case4 =>
    cases h
    rfl
  | case5 c rest _ _ ih =>
    obtain ⟨⟨read', left'⟩, hbody, heq⟩ := Option.map_eq_some_iff.1 h
    simp only [Prod.mk.injEq] at heq
    obtain ⟨rfl, rfl⟩ := heq
    simp [ih hbody]

/-- A literal and what follows it make up the text. -/
theorem eq_append_of_literal? {text literal left : Text}
    (h : literal? text = some (literal, left)) : text = literal ++ left := by
  unfold literal? at h
  split at h
  · cases h
  · split at h
    · obtain ⟨⟨read, left'⟩, hbody, heq⟩ := Option.map_eq_some_iff.1 h
      simp only [Prod.mk.injEq] at heq
      obtain ⟨rfl, rfl⟩ := heq
      simp [eq_append_of_literalBody? hbody]
    · cases h

/-! ## Labels of a header -/

/-- The literal after the **first colon** of a line, and what follows it. Something other than an
opening brace has to stand before the colon, and only blanks between the colon and the literal. -/
def quoted? (line : Text) : Option (Text × Text) :=
  match line.span (fun c => c != ':' && c != '{') with
  | (_ :: _, ':' :: rest) => literal? (trimStart rest)
  | _ => none

/-- The **label of a statement without a body**: the literal after the first colon of its first
line, if nothing but blanks follows it there. -/
def ofStatement (code : Text) : Option Text :=
  match quoted? (code.lines.headD []) with
  | some (literal, left) => if isAllBlank left then clean literal else none
  | none => none

/-- The literal after the first colon of a line on which a **body opens** right after it. -/
def ofHeader? (line : Text) : Option Text :=
  match quoted? line with
  | some (literal, left) =>
    match trimStart left with
    | '{' :: _ => some literal
    | _ => none
  | none => none

/-! ## Labels of a body -/

/-- The word that names a **label property**. -/
def property : Text := "label".toList

/-- The **value** that a property is given after its colon: a literal, or else the text up to a
closing brace. Blanks alone are an empty value; where not even a blank stands, there is no value. -/
def value? (text : Text) : Option Text :=
  match literal? (trimStart text) with
  | some (literal, _) => some literal
  | none =>
    match (trimStart text).takeWhile (· != '}') with
    | [] =>
      -- a blank, if there is one, is then the whole value
      match text with
      | [] => none
      | c :: _ => if isBlank c then some [] else none
    | bare => some bare

/-- The value of the label property that a line **begins with**. -/
def propertyValue? (line : Text) : Option Text :=
  let start := trimStart line
  if property.isPrefixOf start then
    match trimStart (start.drop property.length) with
    | ':' :: rest => value? rest
    | _ => none
  else none

/-- The label that the lines of a body give when `depth` bodies are **open** before them: the value
of the first label property at depth one, before the depth falls to zero. -/
def ofBodyLines (depth : Int) : List Text → Option Text
  | [] => none
  | line :: more =>
    match (if depth = 1 then propertyValue? line else none) with
    | some value => clean value
    | none =>
      let inner := depth + Braces.delta line
      if inner ≤ 0 then none else ofBodyLines inner more

/-- The **label of a statement with a body**: the literal in its header, or else the label property
that stands directly in its body. -/
def ofBody (code : Text) : Option Text :=
  match code.lines with
  | [] => none
  | first :: more =>
    match ofHeader? first with
    | some literal => clean literal
    | none => ofBodyLines (Braces.delta first) more

/-- The label of a statement is a clean one. -/
theorem exists_clean_of_ofStatement {code label : Text} (h : ofStatement code = some label) :
    ∃ raw, clean raw = some label := by
  unfold ofStatement at h
  split at h
  · split at h
    · exact ⟨_, h⟩
    · cases h
  · cases h

/-- The label that body lines give is a clean one. -/
theorem exists_clean_of_ofBodyLines {depth : Int} {lines : List Text} {label : Text}
    (h : ofBodyLines depth lines = some label) : ∃ raw, clean raw = some label := by
  induction lines generalizing depth with
  | nil => cases h
  | cons line more ih =>
    unfold ofBodyLines at h
    split at h
    · exact ⟨_, h⟩
    · dsimp only at h
      split at h
      · cases h
      · exact ih h

/-- The label of a statement with a body is a clean one. -/
theorem exists_clean_of_ofBody {code label : Text} (h : ofBody code = some label) :
    ∃ raw, clean raw = some label := by
  unfold ofBody at h
  split at h
  · cases h
  · split at h
    · exact ⟨_, h⟩
    · exact exists_clean_of_ofBodyLines h

end DiagramOutline.Label
