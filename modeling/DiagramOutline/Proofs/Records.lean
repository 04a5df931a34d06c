import DiagramOutline.Proofs.Forest
import DiagramOutline.Record.Kind

/-! # Records that are read back

A value that was read from a record can be written and read again, and it comes back as it was. It
does so from a record of all its members and from one without those that are null, since only what
may be left out is ever null. It does not matter how the data was converted when it was first read:
what is written is of the kind that the fields ask for, and a conservative conversion leaves it
alone. What a record must not be is decided by the values alone: whatever it was read from, a value
comes back exactly when it is one that the fields admit.

* **`ReadsBack toJson ofData value`** — `value` is read again from its record, with the null members
  and without them.
* **`LineSpan.Admissible`**, **`Metadata.Admissible`**, **`Block.Admissible`** — what the fields
  admit.
* **`Block.readsBack_iff`** — exactly the admissible blocks are read back.
* **`readsBack_of_ofData`** — whatever was read is read back, for each kind of record. -/

namespace DiagramOutline

variable {Foreign : Type} {conversion : Conversion Foreign}

/-- A value is **read back**: its record describes it, and so does its record without the members
that are null. -/
structure ReadsBack {α : Type} (toJson : α → Json) (ofData : Data Foreign → Checked α) (value : α) :
    Prop where
  /-- The record of all members describes the value. -/
  full : ofData (.ofJson (toJson value)) = .ok value
  /-- The record without null members describes the value. -/
  compact : ofData (.ofJson (toJson value).withoutNulls) = .ok value

/-! ## Fields -/

/-- What is found for a key **is a member**. -/
theorem FieldKey.mem_of_find? {α : Type} {key : FieldKey} {members : List (Text × α)}
    {found : Text × α} (h : key.find? members = some found) : found ∈ members := by
  have hmem : ∀ {name : Text} {value : α}, List.lookup name members = some value →
      (name, value) ∈ members := by
    intro name value hlookup
    obtain ⟨before, after, rfl, -⟩ := List.lookup_eq_some_iff.1 hlookup
    exact List.mem_append_right _ List.mem_cons_self
  unfold find? at h
  split at h
  · next value houter =>
    cases h
    exact hmem houter
  · obtain ⟨value, hinner, rfl⟩ := Option.map_eq_some_iff.1 h
    exact hmem hinner

namespace Field

variable {α β : Type} {key : FieldKey} {members : List (Text × α)}

/-- A field that has to be given is read from the member that is **found** for it. -/
theorem required_eq_ok_iff {read : α → Checked β} {result : β} :
    required key read members = .ok result ↔
      ∃ found, key.find? members = some found ∧ read found.2 = .ok result := by
  unfold required
  cases key.find? members <;> simp

/-- So it is if the field is found and its value is **read**. -/
theorem required_of_find? {read : α → Checked β} {found : Text × α} {result : β}
    (hfind : key.find? members = some found) (hread : read found.2 = .ok result) :
    required key read members = .ok result :=
  required_eq_ok_iff.2 ⟨found, hfind, hread⟩

/-- A field that may be left out is read from the member that is found for it, or has its
**standard** value. -/
theorem optional_eq_ok_iff {standard : β} {read : α → Checked β} {result : β} :
    optional key standard read members = .ok result ↔
      (∃ found, key.find? members = some found ∧ read found.2 = .ok result) ∨
        key.find? members = none ∧ standard = result := by
  unfold optional
  cases key.find? members <;> simp

/-- A list has as many **values** as items. -/
theorem length_of_items_eq_ok {read : α → Checked β} {position : Nat} {values : List α}
    {results : List β} (h : items read position values = .ok results) :
    results.length = values.length := by
  induction values generalizing position results with
  | nil =>
    cases h
    rfl
  | cons value more ih =>
    obtain ⟨cons, tail, hcons, htail, rfl⟩ := Checked.apply_eq_ok_iff.1 h
    obtain ⟨head, -, rfl⟩ := Checked.map_eq_ok_iff.1 hcons
    rw [List.length_cons, ih htail, List.length_cons]

/-- No more texts are read than are **allowed**. -/
theorem length_le_of_textsUpTo {limit : Nat} {data : Data Foreign} {texts : List Text}
    (h : textsUpTo conversion limit data = .ok texts) : texts.length ≤ limit := by
  cases data with
  | array values =>
    rw [textsUpTo] at h
    split at h
    · cases h
    · next hle =>
      rw [length_of_items_eq_ok h]
      omega
  | _ => cases h

section Conservative

variable (h : conversion.Conservative)

include h

/-- A count is read from **that number**. -/
theorem count_natCast (number : Nat) : count conversion (.int number) = .ok number := by
  rw [count, h.int]
  dsimp only
  rw [if_neg (Int.not_lt.2 (Int.natCast_nonneg number)), Int.toNat_natCast]

/-- A **label** is read from its value. -/
theorem nullableText_labelJson (label : Option Text) :
    nullableText conversion (.ofJson (Block.labelJson label)) = .ok label := by
  cases label with
  | none => rfl
  | some label =>
    show (conversion.text (.text label)).map some = .ok (some label)
    rw [h.text]
    rfl

/-- Texts are read from the **list** of them. -/
theorem items_map_text (position : Nat) (values : List Text) :
    items conversion.text position (values.map .text) = .ok values := by
  induction values generalizing position with
  | nil => rfl
  | cons value more ih =>
    rw [List.map_cons, items, ih, h.text]
    rfl

/-- As many texts as are allowed are **read** from the list of them. -/
theorem textsUpTo_texts {limit : Nat} {values : List Text} (hle : values.length ≤ limit) :
    textsUpTo conversion limit (.ofJson (.texts values)) = .ok values := by
  rw [Json.texts, Data.ofJson, Data.ofItems_map_text, textsUpTo, List.length_map,
    if_neg (Nat.not_lt.2 hle), items_map_text h]

end Conservative

end Field

/-! ## Spans, diagnostics and metadata -/

namespace LineSpan

/-- A span is **admissible** as a record: neither end is below zero. -/
structure Admissible (span : LineSpan) : Prop where
  /-- The start is not below zero. -/
  start : 0 ≤ span.start
  /-- The stop is not below zero. -/
  stop : 0 ≤ span.stop

/-- Only **admissible** spans are read. -/
theorem admissible_of_ofData {data : Data Foreign} {span : LineSpan}
    (h : ofData conversion data = .ok span) : span.Admissible := by
  cases data with
  | object members =>
    obtain ⟨make, stop, hmake, -, rfl⟩ := Checked.apply_eq_ok_iff.1 h
    obtain ⟨start, -, rfl⟩ := Checked.map_eq_ok_iff.1 hmake
    exact ⟨Int.natCast_nonneg start, Int.natCast_nonneg stop⟩
  | _ => cases h

/-- Admissible spans are **read back**. -/
theorem Admissible.readsBack {span : LineSpan} (h : span.Admissible)
    (hconversion : conversion.Conservative) : ReadsBack toJson (ofData conversion) span := by
  obtain ⟨start, hstart⟩ := Int.eq_ofNat_of_zero_le h.start
  obtain ⟨stop, hstop⟩ := Int.eq_ofNat_of_zero_le h.stop
  obtain rfl : span = ⟨start, stop⟩ := by rw [← hstart, ← hstop]
  have hfull : ofData conversion (.ofJson (toJson ⟨start, stop⟩)) = .ok ⟨start, stop⟩ := by
    rw [toJson, Data.ofJson, ofData, Field.required_of_find? rfl (Field.count_natCast hconversion start),
      Field.required_of_find? rfl (Field.count_natCast hconversion stop)]
    rfl
  exact ⟨hfull, hfull⟩

end LineSpan

/-- Every diagnostic is **read back**. -/
theorem Diagnostic.readsBack (diagnostic : Diagnostic) (h : conversion.Conservative) :
    ReadsBack toJson (ofData conversion) diagnostic := by
  obtain ⟨start, stop, message⟩ := diagnostic
  have hfull : ofData conversion (.ofJson (toJson ⟨start, stop, message⟩)) =
      .ok ⟨start, stop, message⟩ := by
    rw [toJson, Data.ofJson, ofData, Field.required_of_find? rfl (Field.count_natCast h start),
      Field.required_of_find? rfl (Field.count_natCast h stop),
      Field.required_of_find? rfl (h.text message)]
    rfl
  exact ⟨hfull, hfull⟩

namespace Metadata

/-- Metadata is **admissible** as a record: it does not name too many shapes. -/
def Admissible (metadata : Metadata) : Prop := metadata.topIdentifiers.length ≤ maxTopIdentifiers

/-- Only **admissible** metadata is read. -/
theorem admissible_of_ofData {data : Data Foreign} {metadata : Metadata}
    (h : ofData conversion data = .ok metadata) : metadata.Admissible := by
  cases data with
  | object members =>
    obtain ⟨make, names, hmake, hnames, rfl⟩ := Checked.apply_eq_ok_iff.1 h
    obtain ⟨found, -, hread⟩ := Field.required_eq_ok_iff.1 hnames
    -- the other fields only fill in what the names are put beside
    obtain ⟨_, _, hclasses, -, rfl⟩ := Checked.apply_eq_ok_iff.1 hmake
    obtain ⟨_, _, hstyles, -, rfl⟩ := Checked.apply_eq_ok_iff.1 hclasses
    obtain ⟨_, _, hcategory, -, rfl⟩ := Checked.apply_eq_ok_iff.1 hstyles
    obtain ⟨_, _, hdepth, -, rfl⟩ := Checked.apply_eq_ok_iff.1 hcategory
    obtain ⟨_, _, hconnections, -, rfl⟩ := Checked.apply_eq_ok_iff.1 hdepth
    obtain ⟨_, -, rfl⟩ := Checked.map_eq_ok_iff.1 hconnections
    exact Field.length_le_of_textsUpTo hread
  | _ => cases h

/-- The record of metadata has **no null** members. -/
theorem withoutNulls_toJson (metadata : Metadata) :
    metadata.toJson.withoutNulls = metadata.toJson := by
  have hitems : Json.itemsWithoutNulls (metadata.topIdentifiers.map .text) =
      metadata.topIdentifiers.map .text := by
    induction metadata.topIdentifiers with
    | nil => rfl
    | cons name more ih => rw [List.map_cons, Json.itemsWithoutNulls, ih]; rfl
  simp [toJson, members, Json.withoutNulls, Json.membersWithoutNulls, Json.texts, hitems]

/-- Admissible metadata is **read back**. -/
theorem Admissible.readsBack {metadata : Metadata} (h : metadata.Admissible)
    (hconversion : conversion.Conservative) : ReadsBack toJson (ofData conversion) metadata := by
  have hfull : ofData conversion (.ofJson metadata.toJson) = .ok metadata := by
    obtain ⟨shapes, connections, depth, category, styles, classes, names⟩ := metadata
    have hcategory : Field.word Category.ofWord? (.text category.word : Data Foreign) =
        .ok category := by
      rw [Field.word, Category.ofWord?_word]
    rw [toJson, Data.ofJson, ofData, ofMembers,
      Field.required_of_find? rfl (Field.count_natCast hconversion shapes),
      Field.required_of_find? rfl (Field.count_natCast hconversion connections),
      Field.required_of_find? rfl (Field.count_natCast hconversion depth),
      Field.required_of_find? rfl hcategory,
      Field.required_of_find? rfl (hconversion.bool styles),
      Field.required_of_find? rfl (hconversion.bool classes),
      Field.required_of_find? rfl (Field.textsUpTo_texts hconversion h)]
    rfl
  constructor
  case full => exact hfull
  case compact =>
    rw [withoutNulls_toJson]
    exact hfull

end Metadata

/-! ## Blocks -/

namespace Block

/-- Blocks are **admissible** as records: at no depth does one have a line below zero. -/
def Admissible (blocks : List Block) : Prop :=
  ∀ block : Block, block.OccursIn blocks → 0 ≤ block.startLine ∧ 0 ≤ block.endLine

/-- Blocks in a list are admissible exactly when **the first** one and the others are. -/
theorem admissible_cons {block : Block} {more : List Block} :
    Admissible (block :: more) ↔ Admissible [block] ∧ Admissible more := by
  constructor
  · intro h
    refine ⟨fun other hin => h other (hin.mono ?_), fun other hin => h other (hin.mono ?_)⟩
    · intro top htop
      exact List.mem_singleton.1 htop ▸ List.mem_cons_self
    · exact fun _ => List.mem_cons_of_mem block
  · rintro ⟨hblock, hmore⟩ other hin
    cases hin with
    | top hmem =>
      rcases List.mem_cons.1 hmem with rfl | hmem
      · exact hblock _ (.top List.mem_cons_self)
      · exact hmore other (.top hmem)
    | inside hmem hchildren hin =>
      rcases List.mem_cons.1 hmem with rfl | hmem
      · exact hblock other (.inside List.mem_cons_self hchildren hin)
      · exact hmore other (.inside hmem hchildren hin)

/-- A block is admissible exactly when **its lines** are not below zero and its children are
admissible. -/
theorem admissible_singleton {block : Block} :
    Admissible [block] ↔ (0 ≤ block.startLine ∧ 0 ≤ block.endLine) ∧
      ∀ children, block.children = some children → Admissible children := by
  constructor
  · intro h
    refine ⟨h block (.top List.mem_cons_self), ?_⟩
    intro children hchildren other hin
    exact h other (.inside List.mem_cons_self hchildren hin)
  · rintro ⟨hlines, hinside⟩ other hin
    cases hin with
    | top hmem => exact List.mem_singleton.1 hmem ▸ hlines
    | inside hmem hchildren hin =>
      rw [List.mem_singleton.1 hmem] at hchildren
      exact hinside _ hchildren other hin

/-- **No** blocks are admissible. -/
theorem admissible_nil : Admissible [] := fun _ hin => absurd rfl hin.ne_nil

mutual

/-- Only **admissible** blocks are read. -/
theorem admissible_of_ofData : ∀ {data : Data Foreign} {block : Block},
    ofData conversion data = .ok block → Admissible [block]
  | .object members, block, h => by
    obtain ⟨make, children, hmake, hchildren, rfl⟩ := Checked.apply_eq_ok_iff.1 h
    obtain ⟨_, label, hlabel, -, rfl⟩ := Checked.apply_eq_ok_iff.1 hmake
    obtain ⟨_, _, hend, hlast, rfl⟩ := Checked.apply_eq_ok_iff.1 hlabel
    obtain ⟨_, _, hstart, hfirst, rfl⟩ := Checked.apply_eq_ok_iff.1 hend
    obtain ⟨_, code, hcode, -, rfl⟩ := Checked.apply_eq_ok_iff.1 hstart
    obtain ⟨name, -, rfl⟩ := Checked.map_eq_ok_iff.1 hcode
    obtain ⟨first, -, rfl⟩ := Checked.map_eq_ok_iff.1 hfirst
    obtain ⟨last, -, rfl⟩ := Checked.map_eq_ok_iff.1 hlast
    refine admissible_singleton.2 ⟨⟨Int.natCast_nonneg first, Int.natCast_nonneg last⟩, ?_⟩
    rintro blocks rfl
    obtain ⟨found, hfind, hread⟩ | ⟨-, hnone⟩ := Field.optional_eq_ok_iff.1 hchildren
    · exact admissible_of_readMembers (FieldKey.mem_of_find? hfind) hread
    · cases hnone
  | .null, _, h => nomatch h
  | .bool _, _, h => nomatch h
  | .int _, _, h => nomatch h
  | .text _, _, h => nomatch h
  | .foreign _, _, h => nomatch h
  | .array _, _, h => nomatch h

/-- Only admissible blocks are read as the **children** of one. -/
theorem admissible_of_readMembers : ∀ {members : List (Text × Data Foreign)} {reading},
    reading ∈ readMembers conversion members → ∀ {blocks}, reading.2 = .ok (some blocks) →
      Admissible blocks
  | [], _, hmem, _, _ => nomatch hmem
  | (name, value) :: more, reading, hmem, blocks, h => by
    rcases List.mem_cons.1 hmem with rfl | hmem
    · exact admissible_of_readChildren h
    · exact admissible_of_readMembers hmem h

/-- Only admissible blocks are read from a **value** for the children. -/
theorem admissible_of_readChildren : ∀ {value : Data Foreign} {blocks : List Block},
    readChildren conversion value = .ok (some blocks) → Admissible blocks
  | .array items, blocks, h => by
    obtain ⟨_, hitems, hsome⟩ := Checked.map_eq_ok_iff.1 h
    cases hsome
    exact admissible_of_readItems hitems
  | .null, _, h => nomatch h
  | .bool _, _, h => nomatch h
  | .int _, _, h => nomatch h
  | .text _, _, h => nomatch h
  | .foreign _, _, h => nomatch h
  | .object _, _, h => nomatch h

/-- Only admissible blocks are read from a **list**. -/
theorem admissible_of_readItems : ∀ {items : List (Data Foreign)} {position : Nat}
    {blocks : List Block}, readItems conversion position items = .ok blocks → Admissible blocks
  | [], _, _, h => by
    cases h
    exact admissible_nil
  | item :: more, position, blocks, h => by
    obtain ⟨_, tail, hcons, htail, rfl⟩ := Checked.apply_eq_ok_iff.1 h
    obtain ⟨block, hblock, rfl⟩ := Checked.map_eq_ok_iff.1 hcons
    exact admissible_cons.2 ⟨admissible_of_ofData (Checked.under_eq_ok_iff.1 hblock),
      admissible_of_readItems htail⟩

end

/-- A block is read from members that hold **its fields**, be the label and the children among them
or not. -/
theorem ofData_object (h : conversion.Conservative) {members : List (Text × Data Foreign)}
    {name code : Text} {first last : Nat} {label : Option Text} {children : Option (List Block)}
    (hname : (FieldKey.single "name").find? members = some ("name".toList, .text name))
    (hcode : (FieldKey.single "code").find? members = some ("code".toList, .text code))
    (hfirst : (FieldKey.double "startLine" "start_line").find? members =
      some ("startLine".toList, .int first))
    (hlast : (FieldKey.double "endLine" "end_line").find? members =
      some ("endLine".toList, .int last))
    (hlabel : Field.optional (.single "label") none (Field.nullableText conversion) members =
      .ok label)
    (hchildren : Field.optional (.single "children") none id (readMembers conversion members) =
      .ok children) :
    ofData conversion (.object members) = .ok ⟨name, code, first, last, label, children⟩ := by
  rw [ofData, ofMembers, Field.required_of_find? hname (h.text name),
    Field.required_of_find? hcode (h.text code),
    Field.required_of_find? hfirst (Field.count_natCast h first),
    Field.required_of_find? hlast (Field.count_natCast h last), hlabel, hchildren]
  rfl

mutual

/-- Admissible blocks are **read back**. -/
theorem readsBack_of_admissible (h : conversion.Conservative) : ∀ {block : Block},
    Admissible [block] → ReadsBack toJson (ofData conversion) block
  | ⟨name, code, startLine, endLine, label, children⟩, hblock => by
    obtain ⟨⟨hstart, hend⟩, hinside⟩ := admissible_singleton.1 hblock
    obtain ⟨first, rfl⟩ := Int.eq_ofNat_of_zero_le hstart
    obtain ⟨last, rfl⟩ := Int.eq_ofNat_of_zero_le hend
    obtain ⟨hfull, hcompact⟩ := readChildren_childrenJson h hinside
    have hlabel := Field.nullableText_labelJson h label
    constructor
    case full =>
      refine ofData_object h rfl rfl rfl rfl ?_ ?_
      · exact Field.optional_eq_ok_iff.2 (.inl ⟨_, rfl, hlabel⟩)
      · exact Field.optional_eq_ok_iff.2 (.inl ⟨_, rfl, hfull⟩)
    case compact =>
      -- a label and children that are null are not there to be found
      cases label <;> cases children
      · exact ofData_object h rfl rfl rfl rfl rfl rfl
      · refine ofData_object h rfl rfl rfl rfl rfl ?_
        exact Field.optional_eq_ok_iff.2 (.inl ⟨_, rfl, hcompact⟩)
      · refine ofData_object h rfl rfl rfl rfl ?_ rfl
        exact Field.optional_eq_ok_iff.2 (.inl ⟨_, rfl, hlabel⟩)
      · refine ofData_object h rfl rfl rfl rfl ?_ ?_
        · exact Field.optional_eq_ok_iff.2 (.inl ⟨_, rfl, hlabel⟩)
        · exact Field.optional_eq_ok_iff.2 (.inl ⟨_, rfl, hcompact⟩)

/-- The **children** of a block are read from their value. -/
theorem readChildren_childrenJson (h : conversion.Conservative) :
    ∀ {children : Option (List Block)}, (∀ blocks, children = some blocks → Admissible blocks) →
      readChildren conversion (.ofJson (childrenJson children)) = .ok children ∧
        readChildren conversion (.ofJson (childrenJson children).withoutNulls) = .ok children
  | none, _ => ⟨rfl, rfl⟩
  | some blocks, hblocks => by
    obtain ⟨hfull, hcompact⟩ := readItems_allJson h (hblocks blocks rfl) 0
    constructor
    · rw [childrenJson, Data.ofJson, readChildren, hfull]
      rfl
    · rw [childrenJson, Json.withoutNulls, Data.ofJson, readChildren, hcompact]
      rfl

/-- Admissible blocks are read from the **list** of their records. -/
theorem readItems_allJson (h : conversion.Conservative) : ∀ {blocks : List Block},
    Admissible blocks → ∀ position : Nat,
      readItems conversion position (Data.ofItems (allJson blocks)) = .ok blocks ∧
        readItems conversion position (Data.ofItems (Json.itemsWithoutNulls (allJson blocks))) =
          .ok blocks
  | [], _, _ => ⟨rfl, rfl⟩
  | block :: more, hblocks, position => by
    obtain ⟨hblock, hmore⟩ := admissible_cons.1 hblocks
    obtain ⟨hfull, hcompact⟩ := readItems_allJson h hmore (position + 1)
    have hread := readsBack_of_admissible h hblock
    constructor
    · rw [allJson, Data.ofItems, readItems, hread.full, hfull]
      rfl
    · rw [allJson, Json.itemsWithoutNulls, Data.ofItems, readItems, hread.compact, hcompact]
      rfl

end

/-- **Exactly the admissible** blocks are read back. -/
theorem readsBack_iff (h : conversion.Conservative) {block : Block} :
    ReadsBack toJson (ofData conversion) block ↔ Admissible [block] :=
  ⟨fun hread => admissible_of_ofData hread.full, readsBack_of_admissible h⟩

end Block

/-! ## All kinds of records -/

/-- **Whatever was read is read back.** For each kind of record, from whatever data a value was
read, with either name for a field, nested to any depth, with members that mean nothing and with
values that had to be converted, both the record of all its members and the one without null members
are read as that value again. The conversion may be any that is conservative. -/
theorem readsBack_of_ofData (h : conversion.Conservative) :
    (∀ data block, Block.ofData conversion data = .ok block →
      ReadsBack Block.toJson (Block.ofData conversion) block) ∧
    (∀ data metadata, Metadata.ofData conversion data = .ok metadata →
      ReadsBack Metadata.toJson (Metadata.ofData conversion) metadata) ∧
    (∀ data diagnostic, Diagnostic.ofData conversion data = .ok diagnostic →
      ReadsBack Diagnostic.toJson (Diagnostic.ofData conversion) diagnostic) ∧
    (∀ data span, LineSpan.ofData conversion data = .ok span →
      ReadsBack LineSpan.toJson (LineSpan.ofData conversion) span) := by
  refine ⟨?_, ?_, ?_, ?_⟩
  · intro data block hread
    exact Block.readsBack_of_admissible h (Block.admissible_of_ofData hread)
  · intro data metadata hread
    exact (Metadata.admissible_of_ofData hread).readsBack h
  · intro data diagnostic _
    exact diagnostic.readsBack h
  · intro data span hread
    exact (LineSpan.admissible_of_ofData hread).readsBack h

/-- The record of a block in which **both names** of a field are given, an unknown member stands,
and a child with an empty list of children has the other names throughout. Its numbers are given as
a text, as a truth value and with a fraction of zero. -/
def mixedBlock : Data Decimal :=
  .object
    [("start_line".toList, .int 7), ("startLine".toList, .foreign ⟨0, 1⟩), ("kind".toList, .null),
      ("name".toList, .text "a".toList), ("code".toList, .text "a \x7b\n  b\n\x7d".toList),
      ("end_line".toList, .text "2".toList), ("label".toList, .null),
      ("children".toList, .array
        [.object
          [("children".toList, .array []), ("start_line".toList, .bool true),
            ("label".toList, .text "x".toList), ("end_line".toList, .int 100000000000000000000),
            ("code".toList, .text "  b".toList), ("name".toList, .text "b".toList)]])]

/-- The child that the record describes. -/
def mixedChild : Block :=
  ⟨"b".toList, "  b".toList, 1, 100000000000000000000, some "x".toList, some []⟩

/-- The block of that record is **read back** with the standard conversion, as are metadata, a
diagnostic without a severity and a span, each with the other names and with converted values. -/
theorem readsBack_convertedValues :
    Conversion.standard.Conservative ∧
    (Block.ofData .standard mixedBlock =
        .ok ⟨"a".toList, "a \x7b\n  b\n\x7d".toList, 0, 2, none, some [mixedChild]⟩ ∧
      ReadsBack Block.toJson (Block.ofData .standard)
        ⟨"a".toList, "a \x7b\n  b\n\x7d".toList, 0, 2, none, some [mixedChild]⟩) ∧
    ReadsBack Metadata.toJson (Metadata.ofData .standard)
      ⟨1, 0, 2, .component, false, true, ["a".toList]⟩ ∧
    ReadsBack Diagnostic.toJson (Diagnostic.ofData .standard) ⟨2, 4, "bad".toList⟩ ∧
    ReadsBack LineSpan.toJson (LineSpan.ofData .standard) ⟨3, 1⟩ := by
  obtain ⟨hblocks, hmetadata, hdiagnostics, hspans⟩ :=
    readsBack_of_ofData Conversion.standard_conservative
  have hblock : Block.ofData .standard mixedBlock =
      .ok ⟨"a".toList, "a \x7b\n  b\n\x7d".toList, 0, 2, none, some [mixedChild]⟩ := rfl
  refine ⟨Conversion.standard_conservative, ⟨hblock, hblocks _ _ hblock⟩, hmetadata ?_ _ ?_,
    hdiagnostics ?_ _ ?_, hspans ?_ _ ?_⟩
  · exact .object
      [("shape_count".toList, .text "1".toList), ("connectionCount".toList, .bool false),
        ("nesting_depth".toList, .foreign ⟨20, 1⟩),
        ("category".toList, .text "component".toList), ("has_styles".toList, .text "No".toList),
        ("hasClasses".toList, .int 1), ("top_identifiers".toList, .array [.text "a".toList])]
  · rfl
  · exact .object
      [("from_".toList, .text "2".toList), ("to".toList, .int 4),
        ("message".toList, .text "bad".toList)]
  · rfl
  · exact .object [("from_".toList, .int 3), ("to".toList, .bool true)]
  · rfl

end DiagramOutline
