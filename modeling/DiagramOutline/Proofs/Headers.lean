import DiagramOutline.Header
import DiagramOutline.Proofs.Nesting

/-! # Names in headers that are put together

What the readers of names find in a header whose braces are known.

* **`Header.beforeBody_of_quiet`**, **`Header.beforeBody_append_brace`** — a quiet line is all
  header, and so is what stands before the brace that ends a line.
* **`Header.connectionName_ne_nil`** — a connection that starts with a word has a name.
* **`Header.connectionName_append`** — blanks after a connection are not in its name. -/

namespace DiagramOutline.Header

open Text

/-- A **quiet** line is all header. -/
theorem beforeBody_of_quiet {line : Text} (h : Braces.Quiet line) : beforeBody line = line := by
  refine beforeBody_of_not_opens ?_
  rw [Braces.opens, Braces.ofLine, h.scan]
  rfl

/-- What stands before the **brace that ends** a line is the header. -/
theorem beforeBody_append_brace {line : Text} (h : Braces.Quiet line) :
    beforeBody (line ++ ['{']) = line := by
  have hbraces : Braces.ofLine (line ++ ['{']) = [⟨line.length, .opening⟩] :=
    Braces.ofLine_append_char h .opening
  have hfind : (Braces.ofLine (line ++ ['{'])).find? (·.brace = .opening) =
      some ⟨line.length, .opening⟩ := by
    rw [hbraces]
    rfl
  rw [beforeBody, hfind]
  exact List.take_left

/-- **Blanks after** a connection are not in its name. -/
theorem connectionName_append {after : Text} (h : isAllBlank after = true) (header : Text) :
    connectionName (header ++ after) = connectionName header := by
  rw [connectionName, connectionName, trim_append_right h]

/-- No body opens in front of **a character that is neither blank nor a colon nor a brace**, if no
brace stands before it. -/
theorem bodyTail?_append_cons {before : Text} {c : Char} (hbefore : '{' ∉ before)
    (hblank : isBlank c = false) (hcolon : c ≠ ':') (hbrace : c ≠ '{') (rest : Text) :
    bodyTail? (before ++ c :: rest) = none := by
  -- dropping blanks from the start leaves that character, and what is left before it
  have htrim : ∀ first : Text, '{' ∉ first →
      ∃ kept : Text, trimStart (first ++ c :: rest) = kept ++ c :: rest ∧ '{' ∉ kept := by
    intro first hfirst
    refine ⟨trimStart first, ?_, fun hmem => hfirst ((List.dropWhile_sublist _).subset hmem)⟩
    rw [trimStart, List.dropWhile_append, List.dropWhile_cons_of_neg (by simp [hblank])]
    split
    · next hempty => rw [trimStart, List.isEmpty_iff.1 hempty, List.nil_append]
    · rfl
  have hne : ∀ kept : Text, '{' ∉ kept → ∀ after, kept ++ c :: rest ≠ '{' :: after := by
    intro kept hkept after heq
    cases kept with
    | nil => exact hbrace (List.cons.inj heq).1
    | cons d kept => exact hkept (List.mem_cons.2 (.inl (List.cons.inj heq).1.symm))
  obtain ⟨kept, hkept, hfirst⟩ := htrim before hbefore
  unfold bodyTail?
  dsimp only
  rw [hkept]
  split
  -- a brace would stand at the start of what is left, or behind a colon there
  · next after hbody =>
    split at hbody
    · next behind hstart =>
      cases kept with
      | nil => exact absurd (List.cons.inj hstart).1 hcolon
      | cons d kept =>
        rw [List.cons_append, List.cons.injEq] at hstart
        obtain ⟨-, rfl⟩ := hstart
        obtain ⟨kept', hkept', hfirst'⟩ :=
          htrim kept fun hmem => hfirst (List.mem_cons_of_mem d hmem)
        rw [hkept'] at hbody
        exact absurd hbody (hne kept' hfirst' after)
    · exact absurd hbody (hne kept hfirst after)
  · rfl

/-- A character at which no body opens **stays** in a text without its bodies. -/
theorem withoutBodies_cons {c : Char} {rest : Text} (h : bodyTail? (c :: rest) = none) :
    withoutBodies (c :: rest) = c :: withoutBodies rest := by
  rw [withoutBodies]
  split
  · next tail htail =>
    rw [h] at htail
    cases htail
  · rfl

/-- A text without bodies has **all of its start** up to such a character. -/
theorem withoutBodies_append_cons {before : Text} {c : Char} (hbefore : '{' ∉ before)
    (hblank : isBlank c = false) (hcolon : c ≠ ':') (hbrace : c ≠ '{') (rest : Text) :
    withoutBodies (before ++ c :: rest) = before ++ c :: withoutBodies rest := by
  induction before with
  | nil => exact withoutBodies_cons (bodyTail?_append_cons hbefore hblank hcolon hbrace rest)
  | cons d before ih =>
    have hnone : bodyTail? (d :: (before ++ c :: rest)) = none :=
      bodyTail?_append_cons hbefore hblank hcolon hbrace rest
    rw [List.cons_append, withoutBodies_cons hnone,
      ih fun hmem => hbefore (List.mem_cons_of_mem d hmem), List.cons_append]

/-- A connection that **starts** with a character that is neither blank nor a colon nor a brace has
a name. -/
theorem connectionName_ne_nil {c : Char} {rest : Text} (h : Tight (c :: rest)) (hcolon : c ≠ ':')
    (hbrace : c ≠ '{') : connectionName (c :: rest) ≠ [] := by
  have hblank : isBlank c = false := h.head c rfl
  have hnone : '{' ∉ ([] : Text) := List.not_mem_nil
  have hbodies := withoutBodies_append_cons hnone hblank hcolon hbrace rest
  rw [List.nil_append, List.nil_append] at hbodies
  -- the first character stays through all that is dropped from the end
  have hkept : ∃ kept, dropEndWhile (· == ':') (c :: withoutBodies rest) = c :: kept := by
    rw [dropEndWhile]
    split
    · exact ⟨[], if_neg (by rw [beq_iff_eq]; exact hcolon)⟩
    · exact ⟨_, rfl⟩
  obtain ⟨kept, hkept⟩ := hkept
  intro hnil
  rw [connectionName, h.trim_eq, hbodies, hkept, trim_eq_nil_iff, isAllBlank, List.all_cons,
    hblank] at hnil
  cases hnil

end DiagramOutline.Header
