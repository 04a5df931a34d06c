import DiagramOutline.Proofs.Interiors
import DiagramOutline.Proofs.Labels
import Mathlib.Data.List.TakeWhile

/-! # Label properties before a closing brace

A bare value ends at a closing brace, and a literal that is closed is read the same whatever follows
it. So a line that is cut at the brace that closes a body, which stands outside literals, begins with
the same label property as the whole line.

* **`Braces.exists_eq_append_of_closing?`** — the brace that closes a body parts the line it is on.
* **`Label.value?_append_closing`**, **`Label.propertyValue?_append_closing`** — what stands before
  such a brace has the value that the whole line has. -/

namespace DiagramOutline

namespace Braces

/-- A scan that finds the brace that closes a body is **parted** there, and the brace stands
outside literals. -/
theorem exists_eq_append_of_closing? {depth : Nat} {state : Quoting} {offset found : Nat}
    {text : Text} (h : closing? depth (scan state offset text) = some found) :
    ∃ front back, text = front ++ '}' :: back ∧ found = offset + front.length ∧
      state.after front = .outside := by
  obtain ⟨before, behind, hbraces⟩ := List.append_of_mem (mem_of_closing?_eq_some h)
  obtain ⟨front, back, htext, hfound, -, hafter⟩ := exists_eq_append_of_scan hbraces
  exact ⟨front, back, htext, hfound, hafter⟩

end Braces

namespace Label

open Text

/-! ## Values that a brace cuts off -/

/-- A literal that is closed where the scan leaves it is read the same **whatever follows**. -/
theorem literalBody?_append_of_after {quote : Char} {text : Text}
    (h : Quoting.after (.inside quote) text = .outside) (more : Text) :
    ∃ read left, literalBody? quote text = some (read, left) ∧
      literalBody? quote (text ++ more) = some (read, left ++ more) := by
  fun_induction literalBody? quote text with
  | case1 => cases h
  | case2 => cases h
  | case3 d rest ih =>
    -- the backslash takes the next character, and the literal goes on behind both
    obtain ⟨read, left, hread, hmore⟩ := ih h
    refine ⟨Quoting.backslash :: d :: read, left, by rw [hread]; rfl, ?_⟩
    rw [List.cons_append, List.cons_append, literalBody?, if_pos rfl]
    dsimp only
    rw [hmore]
    rfl
  | case4 rest hbackslash =>
    refine ⟨[quote], rest, rfl, ?_⟩
    unfold literalBody?
    exact (if_neg hbackslash).trans (if_pos rfl)
  | case5 c rest hbackslash hquote ih =>
    have hnext : Quoting.next (.inside quote) c = .inside quote := by
      rw [Quoting.next, if_neg hbackslash, if_neg hquote]
    rw [Quoting.after_cons, hnext] at h
    obtain ⟨read, left, hread, hmore⟩ := ih h
    refine ⟨c :: read, left, by rw [hread]; rfl, ?_⟩
    rw [List.cons_append, literalBody?_cons hbackslash hquote, hmore]
    rfl

/-- A brace behind **blanks** is what the trimmed text starts with. -/
theorem trimStart_append_closing {front : Text} (h : isAllBlank front = true) (back : Text) :
    trimStart (front ++ '}' :: back) = '}' :: back := by
  rw [trimStart_append h]
  exact trimStart_eq_self fun c hc => by cases hc; decide

/-- A scan that leaves a text outside literals does so also **behind the blanks** at its start. -/
theorem after_trimStart {text : Text} (h : Quoting.after .outside text = .outside) :
    Quoting.after .outside (trimStart text) = .outside := by
  obtain ⟨before, hbefore, htext⟩ := exists_eq_append_trimStart text
  rw [htext, Quoting.after_append, (Braces.Quiet.of_isAllBlank hbefore).after] at h
  exact h

/-- Bare text is taken up to a brace, **whatever follows** the brace. -/
theorem takeWhile_append_closing (front back : Text) :
    (front ++ '}' :: back).takeWhile (· != '}') = front.takeWhile (· != '}') := by
  induction front with
  | nil => rfl
  | cons c rest ih => rw [List.cons_append, List.takeWhile_cons, List.takeWhile_cons, ih]

/-- The value of a label property is read up to a **closing brace** outside literals, and not
further. -/
theorem value?_append_closing {front : Text} (h : Quoting.after .outside front = .outside)
    (back : Text) : value? (front ++ '}' :: back) = value? front := by
  cases hblank : isAllBlank front with
  | true =>
    -- no value stands before the brace, and whether a blank does is seen at once
    unfold value?
    rw [trimStart_append_closing hblank, trimStart_of_isAllBlank hblank]
    cases front <;> rfl
  | false =>
    cases front with
    | nil => cases hblank
    | cons first more =>
      have hafter := after_trimStart h
      unfold value?
      rw [trimStart_append_of_not_isAllBlank hblank]
      generalize trimStart (first :: more) = start at hafter ⊢
      cases start with
      | nil => rfl
      | cons c rest =>
        cases hquote : Quoting.isQuote c with
        | true =>
          -- the literal is closed before the brace
          rw [Quoting.after_cons, Quoting.next, if_pos hquote] at hafter
          obtain ⟨read, left, hread, hmore⟩ := literalBody?_append_of_after hafter ('}' :: back)
          have hliteral : literal? (c :: rest) = some (c :: read, left) := by
            rw [literal?, if_pos hquote, hread]
            rfl
          have hlonger : literal? (c :: rest ++ '}' :: back) =
              some (c :: read, left ++ '}' :: back) := by
            rw [List.cons_append, literal?, if_pos hquote, hmore]
            rfl
          rw [hliteral, hlonger]
        | false =>
          have hnone : ∀ other : Text, literal? (c :: other) = none :=
            fun other => literal?_eq_none fun d hd => by cases hd; exact hquote
          have htake := takeWhile_append_closing (c :: rest) back
          rw [List.cons_append] at htake ⊢
          rw [hnone, hnone, htake]
          rfl

/-- The label property that a line begins with is read up to a **closing brace** outside literals,
and not further. -/
theorem propertyValue?_append_closing {front : Text} (h : Quoting.after .outside front = .outside)
    (back : Text) : propertyValue? (front ++ '}' :: back) = propertyValue? front := by
  cases hblank : isAllBlank front with
  | true =>
    rw [propertyValue?_of_isAllBlank hblank]
    exact propertyValue?_append_cons hblank (by decide) (by decide) back
  | false =>
    have hproperty : '}' ∉ property := by decide
    have hquiet : Quoting.after .outside property = .outside := by decide
    have hafter := after_trimStart h
    unfold propertyValue?
    dsimp only
    rw [trimStart_append_of_not_isAllBlank hblank]
    generalize trimStart front = start at hafter ⊢
    rw [Keyword.isPrefixOf_append_cons hproperty]
    by_cases hprefix : property.isPrefixOf start = true
    · rw [if_pos hprefix, if_pos hprefix]
      obtain ⟨rest, rfl⟩ := List.isPrefixOf_iff_prefix.1 hprefix
      rw [Quoting.after_append, hquiet] at hafter
      rw [List.append_assoc, List.drop_left, List.drop_left]
      cases hrest : isAllBlank rest with
      | true =>
        rw [trimStart_append_closing hrest, trimStart_of_isAllBlank hrest]
        rfl
      | false =>
        have hbehind := after_trimStart hafter
        rw [trimStart_append_of_not_isAllBlank hrest]
        generalize trimStart rest = colon at hbehind ⊢
        cases colon with
        | nil => rfl
        | cons c value =>
          rw [List.cons_append]
          by_cases hcolon : c = ':'
          · subst hcolon
            have hvalue : Quoting.after .outside value = .outside := hbehind
            exact value?_append_closing hvalue back
          · split
            · next heq => exact absurd (List.cons.inj heq).1 hcolon
            · split
              · next heq => exact absurd (List.cons.inj heq).1 hcolon
              · rfl
    · rw [if_neg hprefix, if_neg hprefix]

end Label

end DiagramOutline
