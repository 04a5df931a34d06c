import DiagramOutline.Proofs.Offsets
import DiagramOutline.Proofs.Utf8
import Mathlib.Data.List.Chain

/-! # Outlines that end

An outline asks for the outlines of other texts: of the interiors of the nodes that stand for its
blocks, which are given to the grammar again, or of the interiors of the statements where it is read
off the text. The interior of a node is cut out of the bytes of the source and read as a text of its
own. If it is cut off inside a character, that text may have more bytes than were cut out, since a
replacement character has three. But it has no more characters than stand behind the brace of the
body, so it is shorter than the source.

* **`Grammar.OpensBodies grammar`** — in the trees of `grammar` the bodies start at braces.
* **`Outline.AsksFor source nodes interior`** — the blocks of `nodes` are made with the outline of
  `interior`.
* **`Outline.Asks grammar outer inner`** — the outline of `outer` with `grammar` is made with that
  of `inner`.
* **`Outline.HandsOver reading inner`** — the outline of a text, with a grammar or without one, may
  be made with the one of another text.
* **`Outline.exists_parsed_iff`** — a bound on the depth is enough exactly if no chain of texts that
  ask for each other is longer.
* **`Outline.exists_read_of_opensBodies`** — with bodies that start at braces every outline ends, at
  a depth that the length of the source bounds. -/

namespace DiagramOutline

/-! ## Interiors of bodies that start at braces -/

/-- The byte of an **opening brace**. -/
def SyntaxNode.openingByte : UInt8 := 0x7b

/-- A node **starts at a brace** of the source whose bytes are given. Nothing is said of where it
ends. -/
def SyntaxNode.StartsAtBrace (source : List UInt8) (node : SyntaxNode) : Prop :=
  0 ≤ node.startByte ∧ source[node.startByte.toNat]? = some openingByte

/-- In the trees of a grammar the **bodies start at braces**. Only those of the nodes at the top are
read, so the others may start anywhere. -/
def Grammar.OpensBodies (grammar : Grammar) : Prop :=
  ∀ text root, grammar text = .tree root → ∀ node ∈ root.children, ∀ body,
    node.body? = some body → body.StartsAtBrace (Utf8.encode text)

/-- A slice that starts **behind** the first part of a list holds the first items of the rest. -/
theorem exists_slice_append_eq_take {α : Type} (before behind : List α) (stop : Int) :
    ∃ count, slice (before ++ behind) before.length stop = behind.take count := by
  have hle : before.length ≤ (before ++ behind).length := (List.prefix_append _ _).length_le
  refine ⟨position (before ++ behind).length stop - before.length, ?_⟩
  rw [slice, position_natCast hle, List.drop_take, List.drop_left]

namespace SyntaxNode

/-- The bytes **behind the brace** at which a node starts are read as fewer characters than the
source has, wherever they are cut off. -/
theorem StartsAtBrace.length_decodeLossy_slice_lt {node : SyntaxNode} {source : Text}
    (h : node.StartsAtBrace (Utf8.encode source)) (stop : Int) :
    (Utf8.decodeLossy (slice (Utf8.encode source) (node.startByte + 1) stop)).length <
      source.length := by
  obtain ⟨hstart, hbrace⟩ := h
  obtain ⟨before, c, behind, rfl, hlength, hsingle⟩ :=
    Utf8.exists_of_getElem?_encode (by decide) hbrace
  have hbytes : Utf8.encode (before ++ c :: behind) =
      Utf8.encode (before ++ [c]) ++ Utf8.encode behind := by
    rw [← Utf8.encode_append, List.append_assoc, List.singleton_append]
  have hbehind : node.startByte + 1 = (Utf8.encode (before ++ [c])).length := by
    rw [Utf8.encode_append, Utf8.encode_cons, Utf8.encode_nil, hsingle, List.length_append, hlength]
    simp only [List.append_nil, List.length_singleton]
    omega
  obtain ⟨count, hslice⟩ := exists_slice_append_eq_take (Utf8.encode (before ++ [c]))
    (Utf8.encode behind) stop
  rw [hbytes, hbehind, hslice, List.length_append, List.length_cons]
  have hle := Utf8.length_decodeLossy_take_encode_le behind count
  omega

/-- The interior of a body that starts at a brace is **shorter** than the source. -/
theorem length_interior?_lt {node : SyntaxNode} {source : Text} {interior : Interior}
    (hopen : ∀ body, node.body? = some body → body.StartsAtBrace (Utf8.encode source))
    (h : node.interior? (Utf8.encode source) = some interior) :
    interior.text.length < source.length := by
  obtain ⟨body, hbody, htrimmed⟩ := Option.bind_eq_some_iff.1 h
  exact Nat.lt_of_le_of_lt (Interior.length_text_le_of_trimmed? htrimmed)
    ((hopen body hbody).length_decodeLossy_slice_lt _)

end SyntaxNode

namespace Outline

/-! ## What an outline asks for -/

/-- The blocks of nodes are made with the outline of an **interior**: it is that of a node which
stands for a statement with a name. A node that spoils the blocks is the last one that is looked
at. -/
inductive AsksFor (source : List UInt8) : List SyntaxNode → Interior → Prop where
  /-- The interior of the first node. -/
  | here {node : SyntaxNode} {more : List SyntaxNode} {interior : Interior} :
    standsForStatement node = true → node.declaredName source ≠ [] →
      node.interior? source = some interior → AsksFor source (node :: more) interior
  /-- The interior of a later one. -/
  | later {node : SyntaxNode} {more : List SyntaxNode} {interior : Interior} :
    ¬ Spoils source node → AsksFor source more interior → AsksFor source (node :: more) interior

variable {source : List UInt8} {lines : List Text} {nodes : List SyntaxNode} {interior : Interior}

/-- Nodes ask for an interior if the **first** of them does, or else those behind it, unless the
first one spoils the blocks. -/
theorem asksFor_cons_iff {node : SyntaxNode} {more : List SyntaxNode} :
    AsksFor source (node :: more) interior ↔
      (standsForStatement node = true ∧ node.declaredName source ≠ [] ∧
        node.interior? source = some interior) ∨
      ¬ Spoils source node ∧ AsksFor source more interior := by
  constructor
  · intro h
    cases h with
    | here hstands hname hinterior => exact .inl ⟨hstands, hname, hinterior⟩
    | later hnot hasks => exact .inr ⟨hnot, hasks⟩
  · rintro (⟨hstands, hname, hinterior⟩ | ⟨hnot, hasks⟩)
    · exact .here hstands hname hinterior
    · exact .later hnot hasks

/-- A node that stands for **no block** asks for nothing. -/
theorem asksFor_cons_of_not {node : SyntaxNode} {more : List SyntaxNode}
    (h : ¬ (standsForStatement node = true ∧ node.declaredName source ≠ [])) :
    AsksFor source (node :: more) interior ↔ AsksFor source more interior := by
  have hnot : ¬ Spoils source node := fun hspoils => h ⟨hspoils.1, hspoils.2.1⟩
  rw [asksFor_cons_iff, ← and_assoc, or_iff_right fun hhere => h hhere.1, and_iff_right hnot]

/-- The interior that is asked for is that of **one of the nodes**. -/
theorem AsksFor.exists_node (h : AsksFor source nodes interior) :
    ∃ node ∈ nodes, node.interior? source = some interior := by
  induction h with
  | here _ _ hinterior => exact ⟨_, List.mem_cons_self, hinterior⟩
  | later _ _ ih =>
    obtain ⟨node, hnode, hinterior⟩ := ih
    exact ⟨node, List.mem_cons_of_mem _ hnode, hinterior⟩

/-- Outlines that agree on what nodes **ask for** give them the same blocks. -/
theorem declared_congr {inner other : Text → Result}
    (h : ∀ interior, AsksFor source nodes interior → inner interior.text = other interior.text) :
    declared inner source lines nodes = declared other source lines nodes := by
  induction nodes with
  | nil => rfl
  | cons node more ih =>
    have hmore (hnot : ¬ Spoils source node) :
        declared inner source lines more = declared other source lines more :=
      ih fun interior hasks => h interior (.later hnot hasks)
    unfold declared
    split
    · next hstands =>
      split
      · next hname => exact hmore fun hspoils => hspoils.2.1 hname
      · next c name hname =>
        have hne : node.declaredName source ≠ [] := by simp [hname]
        have hchildren : declaredChildren inner source lines node =
            declaredChildren other source lines node := by
          unfold declaredChildren
          split
          · rfl
          · next interior hinterior => rw [h interior (.here hstands hne hinterior)]
        rw [hchildren]
        split
        · rfl
        · split
          · rfl
          · next hrows => rw [hmore fun hspoils => hrows hspoils.2.2]
    · next hstands => exact hmore fun hspoils => hstands hspoils.1

/-- The children of a node have an outline exactly if the **interior** of the node has one. -/
theorem isSome_declaredChildren_iff (lines : List Text) {inner : Text → Result}
    {node : SyntaxNode} :
    (declaredChildren inner source lines node).isSome ↔
      ∀ interior, node.interior? source = some interior → (inner interior.text).isSome := by
  unfold declaredChildren
  cases node.interior? source with
  | none => exact iff_of_true rfl nofun
  | some interior => simp

/-- Nodes have their blocks exactly if all that they **ask for** has an outline. -/
theorem isSome_declared_iff {inner : Text → Result} :
    (declared inner source lines nodes).isSome ↔
      ∀ interior, AsksFor source nodes interior → (inner interior.text).isSome := by
  induction nodes with
  | nil => exact iff_of_true rfl nofun
  | cons node more ih =>
    unfold declared
    split
    · next hstands =>
      split
      · next hname => simp only [ih, asksFor_cons_of_not fun h => h.2 hname]
      · next c name hname =>
        have hne : node.declaredName source ≠ [] := by simp [hname]
        -- the node asks for its own interior, and leaves the others to the nodes behind it
        simp only [asksFor_cons_iff, hstands, hne, ne_eq, not_false_eq_true, true_and, or_imp,
          forall_and, ← isSome_declaredChildren_iff lines]
        split
        · next hnone => simp [hnone]
        · next children hchildren =>
          rw [hchildren, and_iff_right Option.isSome_some]
          split
          · next hrows => exact iff_of_true rfl fun _ hnot => absurd ⟨hstands, hne, hrows⟩ hnot.1
          · next hrows =>
            have hnot : ¬ Spoils source node := fun hspoils => hrows hspoils.2.2
            simp only [Option.isSome_map, ih, hnot, not_false_eq_true, true_and]
    · next hstands => simp only [ih, asksFor_cons_of_not fun h => hstands h.1]

/-! ## Texts that ask for each other -/

/-- The outline of a text with a grammar **asks for** the outline of another text, which is the
interior of a node of its tree. -/
def Asks (grammar : Grammar) (outer inner : Text) : Prop :=
  ∃ root interior, grammar outer = .tree root ∧
    AsksFor (Utf8.encode outer) root.children interior ∧ inner = interior.text

variable {grammar : Grammar}

/-- A text of which the grammar makes **no tree** asks for nothing. -/
theorem not_asks {outer inner : Text} (h : ∀ root, grammar outer ≠ .tree root) :
    ¬ Asks grammar outer inner := by
  rintro ⟨root, interior, hroot, -, -⟩
  exact h root hroot

/-- A text with a tree asks for what the nodes **at the top** of the tree ask for. -/
theorem asks_iff {root : SyntaxNode} {outer inner : Text} (h : grammar outer = .tree root) :
    Asks grammar outer inner ↔
      ∃ interior, AsksFor (Utf8.encode outer) root.children interior ∧ inner = interior.text := by
  constructor
  · rintro ⟨other, interior, hother, hasks, hinner⟩
    rw [h] at hother
    cases hother
    exact ⟨interior, hasks, hinner⟩
  · rintro ⟨interior, hasks, hinner⟩
    exact ⟨root, interior, h, hasks, hinner⟩

/-- **One text.** A source has an outline exactly if each text that it asks for has one, at a depth
that is less by one. -/
theorem isSome_parsed_succ_iff {depth : Nat} {source : Text} :
    (parsed grammar (depth + 1) source).isSome ↔
      ∀ inner, Asks grammar source inner → (parsed grammar depth inner).isSome := by
  rw [parsed]
  cases hreply : grammar source with
  | failure => exact iff_of_true rfl fun _ hasks => absurd hasks (not_asks (by simp [hreply]))
  | noTree => exact iff_of_true rfl fun _ hasks => absurd hasks (not_asks (by simp [hreply]))
  | tree root =>
    dsimp only
    rw [Option.isSome_map, isSome_declared_iff]
    constructor
    · intro h inner hasks
      obtain ⟨interior, hinterior, rfl⟩ := (asks_iff hreply).1 hasks
      exact h interior hinterior
    · intro h interior hinterior
      exact h _ ((asks_iff hreply).2 ⟨interior, hinterior, rfl⟩)

/-- **How deep texts ask for each other.** A source has an outline at a depth exactly if no chain of
texts that starts with the source, and in which each text asks for the next, is longer than the
depth. -/
theorem exists_parsed_iff {depth : Nat} {source : Text} :
    (∃ found, parsed grammar depth source = some found) ↔
      ∀ texts, (source :: texts).IsChain (Asks grammar) → (source :: texts).length ≤ depth := by
  rw [← Option.isSome_iff_exists]
  induction depth generalizing source with
  | zero => exact iff_of_false nofun fun h => nomatch h [] (.singleton source)
  | succ depth ih =>
    simp only [isSome_parsed_succ_iff, ih]
    constructor
    · intro h texts hchain
      cases texts with
      | nil => exact Nat.le_add_left 1 depth
      | cons inner texts =>
        obtain ⟨hasks, hinner⟩ := List.isChain_cons_cons.1 hchain
        exact Nat.succ_le_succ (h inner hasks texts hinner)
    · intro h inner hasks texts hinner
      exact Nat.le_of_succ_le_succ (h (inner :: texts) (.cons_cons hasks hinner))

/-- An outline is **the same** at every greater depth. -/
theorem parsed_of_le {depth depth' : Nat} {source : Text} {found : Logged (List Block)}
    (h : parsed grammar depth source = some found) (hle : depth ≤ depth') :
    parsed grammar depth' source = some found := by
  induction depth generalizing depth' source found with
  | zero => cases h
  | succ depth ih =>
    obtain ⟨below, rfl⟩ := Nat.exists_eq_add_of_le' (Nat.le_trans (Nat.le_add_left 1 depth) hle)
    have hsome := isSome_parsed_succ_iff.1 (Option.isSome_of_eq_some h)
    rw [parsed] at h ⊢
    cases hreply : grammar source with
    | failure => rwa [hreply] at h
    | noTree => rwa [hreply] at h
    | tree root =>
      rw [hreply] at h
      dsimp only at h ⊢
      rwa [← declared_congr]
      intro interior hasks
      obtain ⟨inside, hinside⟩ :=
        Option.isSome_iff_exists.1 (hsome _ ((asks_iff hreply).2 ⟨interior, hasks, rfl⟩))
      rw [hinside, ih hinside (Nat.le_of_succ_le_succ hle)]

/-! ## The end of an outline -/

/-- A **text to outline**, with a grammar or without one. -/
structure Reading where
  /-- The grammar, if there is one. -/
  grammar : Option Grammar
  /-- The text. -/
  source : Text

/-- The outline of a text may be **made with** that of another one: of the interior of a node, with
the same grammar, or of the interior of a statement, without a grammar. A text may be read without
the grammar for any reason, so nothing is asked about that. -/
inductive HandsOver : Reading → Reading → Prop where
  /-- The interior of a node of the tree. -/
  | node {grammar : Grammar} {outer inner : Text} : Asks grammar outer inner →
    HandsOver ⟨some grammar, outer⟩ ⟨some grammar, inner⟩
  /-- The interior of a statement. -/
  | statement {grammar : Option Grammar} {source : Text} {statement : Statement}
    {interior : Interior} : statement ∈ statements 0 source.lines →
      statement.interior? = some interior →
        HandsOver ⟨grammar, source⟩ ⟨none, interior.text⟩

/-- The bodies start at braces in the trees of the grammar of a reading, **if it has one**. -/
def Reading.OpensBodies (reading : Reading) : Prop :=
  ∀ grammar, reading.grammar = some grammar → grammar.OpensBodies

/-- **One step.** A text that is handed over is shorter than the one that it is cut from, and it is
read with no other grammar. -/
theorem HandsOver.length_lt {outer inner : Reading} (h : HandsOver outer inner)
    (hopen : outer.OpensBodies) :
    inner.source.length < outer.source.length ∧ inner.OpensBodies := by
  cases h with
  | node hasks =>
    obtain ⟨root, interior, hroot, hasksFor, rfl⟩ := hasks
    obtain ⟨node, hnode, hinterior⟩ := hasksFor.exists_node
    have hbodies := hopen _ rfl _ root hroot node hnode
    exact ⟨SyntaxNode.length_interior?_lt hbodies hinterior, hopen⟩
  | statement hstatement hinterior =>
    exact ⟨Statement.length_interior_lt hstatement hinterior, nofun⟩

/-- **A whole run.** In a chain of texts that are handed over each one is shorter than the one
before it, so there are no more of them than the first one has characters. -/
theorem length_le_of_isChain {reading : Reading} (hopen : reading.OpensBodies)
    {readings : List Reading} (h : (reading :: readings).IsChain HandsOver) :
    (reading :: readings).IsChain (fun outer inner => inner.source.length < outer.source.length) ∧
      readings.length ≤ reading.source.length := by
  induction readings generalizing reading with
  | nil => exact ⟨.singleton _, Nat.zero_le _⟩
  | cons next readings ih =>
    obtain ⟨hhands, hmore⟩ := List.isChain_cons_cons.1 h
    obtain ⟨hlt, hnext⟩ := hhands.length_lt hopen
    obtain ⟨hshrinks, hlength⟩ := ih hnext hmore
    exact ⟨.cons_cons hlt hshrinks, Nat.lt_of_le_of_lt hlength hlt⟩

/-- **Every outline ends**, if the bodies start at braces, wherever they end and whatever else is in
the trees. Each text that is handed over on the way is shorter than the text that it is cut from, so
the texts that are open at once are at most as many as the source has characters, and one. A depth
of that many is enough, and gives the same outline as every greater one. -/
theorem exists_read_of_opensBodies {grammar : Option Grammar} {source : Text}
    (hopen : Reading.OpensBodies ⟨grammar, source⟩) :
    (∀ readings : List Reading, (⟨grammar, source⟩ :: readings).IsChain HandsOver →
      (⟨grammar, source⟩ :: readings).IsChain
        (fun outer inner => inner.source.length < outer.source.length) ∧
      (⟨grammar, source⟩ :: readings).length ≤ source.length + 1) ∧
    ∃ found, ∀ depth, source.length + 1 ≤ depth → read grammar depth source = some found := by
  have hrun : ∀ readings : List Reading, (⟨grammar, source⟩ :: readings).IsChain HandsOver →
      readings.length ≤ source.length := fun _ h => (length_le_of_isChain hopen h).2
  refine ⟨fun readings h => ⟨(length_le_of_isChain hopen h).1, Nat.succ_le_succ (hrun _ h)⟩, ?_⟩
  cases grammar with
  | none => exact ⟨_, fun _ _ => rfl⟩
  | some grammar =>
    have hchain : ∀ texts, (source :: texts).IsChain (Asks grammar) →
        (source :: texts).length ≤ source.length + 1 := by
      intro texts h
      have hreadings := List.isChain_map_of_isChain (fun text => Reading.mk (some grammar) text)
        (fun _ _ => HandsOver.node) h
      have hlength := hrun _ hreadings
      rw [List.length_map] at hlength
      exact Nat.succ_le_succ hlength
    obtain ⟨found, hfound⟩ := exists_parsed_iff.2 hchain
    exact ⟨found, fun depth hdepth => parsed_of_le hfound hdepth⟩

/-- A source with a character of **two bytes** behind a brace. -/
def cutCharacterSource : Text := "a \x7b\u00e9".toList

/-- A grammar that makes a tree of that source in which the body ends **between** the two bytes, and
none of any other text. -/
def cutCharacterGrammar : Grammar := fun text =>
  if text = cutCharacterSource then
    .tree ⟨"source_file", true, 0, 5, ⟨0, 0⟩, ⟨0, 5⟩,
      [⟨"declaration", true, 0, 5, ⟨0, 0⟩, ⟨0, 5⟩,
        [⟨"identifier", true, 0, 1, ⟨0, 0⟩, ⟨0, 1⟩, []⟩,
          ⟨"block", true, 2, 4, ⟨0, 2⟩, ⟨0, 4⟩, []⟩]⟩]⟩
  else .noTree

/-- The source hands over a **replacement character**, and its outline ends. -/
theorem read_cutCharacter :
    Reading.OpensBodies ⟨some cutCharacterGrammar, cutCharacterSource⟩ ∧
      HandsOver ⟨some cutCharacterGrammar, cutCharacterSource⟩
        ⟨some cutCharacterGrammar, [Utf8.replacement]⟩ ∧
      ∃ found, ∀ depth, 5 ≤ depth →
        read (some cutCharacterGrammar) depth cutCharacterSource = some found := by
  have hopen : Reading.OpensBodies ⟨some cutCharacterGrammar, cutCharacterSource⟩ := by
    rintro _ ⟨⟩ text root hroot node hnode body hbody
    unfold cutCharacterGrammar at hroot
    split at hroot
    · next htext =>
      subst htext
      cases hroot
      rw [List.mem_singleton] at hnode
      subst hnode
      cases hbody
      constructor <;> decide +kernel
    · cases hroot
  refine ⟨hopen, .node ?_, (exists_read_of_opensBodies hopen).2⟩
  refine ⟨_, ⟨0, [Utf8.replacement]⟩, if_pos rfl, .here ?_ ?_ ?_, rfl⟩ <;> decide +kernel

end Outline

end DiagramOutline
