import Mathlib.Order.Nat
import PdfDisplay.Graphics.Machine
import PdfDisplay.Proofs.Document.RoundTrip
import PdfDisplay.Proofs.Syntax.Framing

/-!
# The reader of operands and the reader of objects

Values are read in two ways: in page contents as operands, and in the text of an object as objects.
The readers differ in how deep they go, in what they make of damage, and in that only objects can be
references. On a text that is whole they agree: `Operand.readers_agree`. So it makes no difference
to an image whether its dictionary stands in the contents or in an object of its own.

The lexemes of an operand are not quite those of the object that it is, as they tell two kinds of
strings apart and may repeat a key, but they write it (`Operand.written`). The induction goes along
the operand, for the operand, the items of an array and the entries of a dictionary at once.
-/

namespace PdfDisplay

open Lexeme

/-! ## Lexemes of operands -/

/-- No operand begins like the header of an object, so parsing it as an object takes nothing from
its front. -/
theorem Token.withoutHeader_operand (value : Operand) :
    withoutHeader value.lexemes = value.lexemes := by
  cases value <;> rfl

namespace Operand

theorem itemLexemes_eq (items : List Operand) :
    itemLexemes items = (items.map fun item => (item.object, item.lexemes)).flatMap (·.2) := by
  induction items with
  | nil => rfl
  | cons item items ih => rw [itemLexemes, ih, List.map_cons, List.flatMap_cons]

theorem objects_eq (items : List Operand) :
    objects items = (items.map fun item => (item.object, item.lexemes)).map (·.1) := by
  induction items with
  | nil => rfl
  | cons item items ih => rw [objects, ih, List.map_cons, List.map_cons]

/-- A key with its value, and the lexemes of the value. -/
def writtenEntry (entry : String × Operand) : WrittenEntry :=
  ⟨entry.1, entry.2.object, entry.2.lexemes⟩

theorem entryLexemes_eq (entries : List (String × Operand)) :
    entryLexemes entries = (entries.map writtenEntry).flatMap WrittenEntry.text := by
  induction entries with
  | nil => rfl
  | cons entry entries ih =>
    rw [entryLexemes, ih, List.map_cons, List.flatMap_cons]
    rfl

/-- A key that is repeated has its value replaced, in both readers alike. -/
theorem objectEntries_eq (before : List (String × Object)) (entries : List (String × Operand)) :
    objectEntries before entries =
      Entries.setAll before ((entries.map writtenEntry).map WrittenEntry.pair) := by
  induction entries generalizing before with
  | nil => rfl
  | cons entry entries ih =>
    rw [objectEntries, ih]
    rfl

mutual

/-- **The lexemes of an operand write the object that it is.** -/
theorem written (value : Operand) {depth : Nat} (h : value.nesting ≤ depth) :
    value.object.Written depth value.lexemes := by
  match value, depth with
  | .integer value, _ => exact .integer value
  | .real value, _ => exact .real value
  | .name text, _ => exact .name text
  | .literalString bytes, _ => exact .literalString bytes
  | .hexString bytes, _ => exact .hexString bytes
  | .boolean true, _ => exact .boolean true
  | .boolean false, _ => exact .boolean false
  | .null, _ => exact .null
  -- the two containers go on to their parts with one level less
  | .array items, depth + 1 =>
    rw [object, lexemes, objects_eq, itemLexemes_eq]
    exact .array _ (List.forall_mem_map.mpr (items_written items (Nat.le_of_succ_le_succ h)))
  | .dictionary entries, depth + 1 =>
    rw [object, lexemes, objectEntries_eq, entryLexemes_eq]
    exact .dictionary _
      (List.forall_mem_map.mpr (entries_written entries (Nat.le_of_succ_le_succ h)))

theorem items_written (items : List Operand) {depth : Nat} (h : itemNesting items ≤ depth) :
    ∀ item ∈ items, item.object.Written depth item.lexemes := by
  match items with
  | [] => exact List.forall_mem_nil _
  | item :: items =>
    rw [itemNesting] at h
    exact List.forall_mem_cons.mpr
      ⟨written item (by omega), items_written items (by omega)⟩

theorem entries_written (entries : List (String × Operand)) {depth : Nat}
    (h : entryNesting entries ≤ depth) :
    ∀ entry ∈ entries, entry.2.object.Written depth entry.2.lexemes := by
  match entries with
  | [] => exact List.forall_mem_nil _
  | (key, value) :: entries =>
    rw [entryNesting] at h
    exact List.forall_mem_cons.mpr
      ⟨written value (by omega), entries_written entries (by omega)⟩

end

end Operand

/-! ## Texts of operands -/

namespace Operand

theorem depth_lt_entryDepth {entries : List (String × Operand)} {entry : String × Operand}
    (h : entry ∈ entries) : entry.2.depth < entryDepth entries := by
  induction h with
  | head rest => exact Nat.lt_of_succ_le (Nat.le_max_left ..)
  | tail first _ ih => exact ih.trans_le (Nat.le_max_right ..)

/-- Whether a text is that of an operand: its lexemes are those of the operand, and behind them
comes nothing that is read. -/
def IsWritten (value : Operand) (text : Bytes) : Prop :=
  ∃ rest, Scans text value.lexemes rest ∧ scan rest = .done

theorem IsWritten.lexemes_eq {value : Operand} {text : Bytes} (h : value.IsWritten text) :
    Token.lexemes text = value.lexemes := by
  obtain ⟨rest, hscans, hdone⟩ := h
  exact Document.Value.lexemesOnto_of_scans_of_done hscans hdone []

/-- The operand at the front of a text, as page contents are read. -/
def parse? (text : Bytes) : Option Operand :=
  match scan text with
  | .lexeme l rest =>
    match Operator.Piece.read l rest with
    | .ok (.operand value, _) => some value
    | _ => none
  | _ => none

theorem parse?_of_isWritten {value : Operand} {text : Bytes} (h : value.IsWritten text)
    (hdepth : value.depth ≤ Container.maxOpen) : parse? text = some value := by
  obtain ⟨rest, hscans, -⟩ := h
  have hopen : ([] : List Container).length + value.depth ≤ Container.maxOpen := by
    rw [List.length_nil, Nat.zero_add]
    exact hdepth
  obtain ⟨l, after, next, hl, hscan, hbegin, hnext⟩ := begin_of_scans value hopen hscans
  have hread : Operand.read l after = .ok (value, rest) := (read_of_begin hbegin).trans hnext
  rw [parse?, hscan]
  dsimp only
  rw [Operator.piece_of_read hl hread]

end Operand

/-- The object reader makes of the text of an operand the object that the operand is. -/
theorem Object.parse?_of_isWritten {value : Operand} {text : Bytes} (h : value.IsWritten text)
    (hnesting : value.nesting ≤ OpenObject.maxOpen) : Object.parse? text = some value.object := by
  have htakes : OpenObject.Takes [] value.lexemes value.object :=
    OpenObject.takes_of_written (value.written hnesting) (Nat.zero_add _).le
  have hrun := OpenObject.run_of_takes rfl htakes Token.settled_nil
  rw [List.append_nil] at hrun
  rw [Object.parse?, h.lexemes_eq, Token.withoutHeader_operand, hrun]
  rfl

/-- The dictionary reader makes of the text of entries what they make as operands. -/
theorem Dictionary.parse?_of_isWritten {entries : List (String × Operand)} {text : Bytes}
    (h : (Operand.dictionary entries).IsWritten text)
    (hnesting : (Operand.dictionary entries).nesting ≤ OpenObject.maxOpen) :
    Dictionary.parse? text = some (Operand.dictionaryOf entries) := by
  have hwritten : ∀ entry ∈ entries, entry.2.object.Written 127 entry.2.lexemes :=
    Operand.entries_written entries (Nat.le_of_succ_le_succ hnesting)
  have hlexemes := h.lexemes_eq
  rw [Operand.lexemes, Operand.entryLexemes_eq] at hlexemes
  rw [parse?_of_written hlexemes (List.forall_mem_map.mpr hwritten), Operand.dictionaryOf,
    Operand.objectEntries_eq]
  rfl

/-! ## Images -/

/-- What stands between `BI` and `ID` are the entries of the image that is read. -/
theorem InlineImage.entries_of_scans {image : InlineImage} {entries : List (String × Operand)}
    {text rest after : Bytes} (hdepth : ∀ entry ∈ entries, entry.2.depth ≤ Container.maxOpen)
    (h : Scans text (Operand.entryLexemes entries ++ [.keyword "ID"]) rest)
    (hread : read text = .ok (image, after)) : image.entries = entries := by
  rw [read, readEntries_of_scans hdepth h] at hread
  dsimp only [List.reverse_nil, List.nil_append] at hread
  split at hread
  · cases hread
    rfl
  · cases hread

variable {m : Type → Type} [Monad m]

/-- Whether a page has a stream under a name: what its store answers when asked for the text of the
dictionary and for the data. -/
structure PageContext.HasStream (page : PageContext m) (name : String) (target : ObjectRef)
    (text : String) (data : Bytes) : Prop where
  /-- The name stands for the object. -/
  drawable : page.resources.drawable[name]? = some target
  /-- The text of the dictionary. -/
  text : page.store.text target = pure (.ok text)
  /-- The data as they are. -/
  raw : page.store.raw target = pure (.ok data)

/-- A table of objects answers for the streams in it. -/
theorem PageContext.HasStream.ofTable {page : PageContext Id} {table : ObjectTable}
    (hstore : page.store = table.store) {name text : String} {target : ObjectRef} {data : Bytes}
    (hdrawable : page.resources.drawable[name]? = some target)
    (hobject : table.objects[target]? = some ⟨text, some data⟩) :
    page.HasStream name target text data := by
  have hfind : table.find target = .ok ⟨text, some data⟩ := by
    rw [ObjectTable.find, hobject]
  have htext : table.text target = .ok text := by
    rw [ObjectTable.text, hfind]
    rfl
  have hraw : table.raw target = .ok data := by
    rw [ObjectTable.raw, hfind]
    rfl
  exact ⟨hdrawable, hstore ▸ htext, hstore ▸ hraw⟩

variable [LawfulMonad m]

theorem Machine.drawObject_of_hasStream {page : PageContext m} {name : String}
    {target : ObjectRef} {text : String} {data : Bytes}
    (hstream : page.HasStream name target text data) {d : Dictionary}
    (hparse : Dictionary.parse? (Utf8.encode text) = some d)
    (himage : d.name? "Subtype" = some "Image") (index : Nat) (machine : Machine) :
    machine.drawObject page index name =
      pure (machine.placeImage page index name d data (some target)) := by
  rw [drawObject, hstream.drawable]
  dsimp only
  rw [hstream.text, pure_bind]
  dsimp only
  rw [hparse]
  dsimp only
  rw [if_pos himage, hstream.raw, pure_bind]

namespace Operand

/-- A dictionary is written as its entries between brackets, if their text and the closing bracket
are scanned as their lexemes. -/
theorem isWritten_of_entries {entries : List (String × Operand)} {body : Bytes}
    (h : Scans (body ++ Utf8.encode ">>") (entryLexemes entries ++ [.dictionaryEnd]) []) :
    (dictionary entries).IsWritten (Utf8.encode "<<" ++ (body ++ Utf8.encode ">>")) := by
  have hbracket : Utf8.encode "<<" = [Byte.of '<', Byte.of '<'] := by decide +kernel
  have hscan : scan (Utf8.encode "<<" ++ (body ++ Utf8.encode ">>")) =
      .lexeme .dictionaryStart (body ++ Utf8.encode ">>") := by
    rw [hbracket]
    rfl
  exact ⟨[], .cons hscan h, rfl⟩

/-- **The readers agree.** A text of an operand, whose containers nest at most 128 deep, is read as
that operand, and as the object that it is. So the same text makes the same dictionary of an image,
whether it stands in the contents between `BI` and `ID` or in an object between brackets. -/
theorem readers_agree :
    (∀ (value : Operand) (text : Bytes), value.IsWritten text → value.nesting ≤ 128 →
      parse? text = some value ∧ Object.parse? text = some value.object) ∧
    ∀ (page : PageContext m) (index : Nat) (machine : Machine) (entries : List (String × Operand))
      (body tail rest after : Bytes) (image : InlineImage) (name text : String)
      (target : ObjectRef),
      Utf8.encode text = Utf8.encode "<<" ++ (body ++ Utf8.encode ">>") →
      Scans (body ++ Utf8.encode ">>") (entryLexemes entries ++ [.dictionaryEnd]) [] →
      Scans (body ++ tail) (entryLexemes entries ++ [.keyword "ID"]) rest →
      (dictionary entries).nesting ≤ 128 →
      InlineImage.read (body ++ tail) = .ok (image, after) →
      page.HasStream name target text image.data →
      (dictionaryOf entries).name? "Subtype" = some "Image" →
      machine.execute page index (.ofInlineImage image) =
          pure ({ machine with inlineImages := machine.inlineImages + 1 }.placeImage page index
            ("inline-" ++ toString (machine.inlineImages + 1)) (dictionaryOf entries) image.data
            none) ∧
        machine.execute page index ⟨"Do", [.name name]⟩ =
          pure (machine.placeImage page index name (dictionaryOf entries) image.data
            (some target)) := by
  -- a value by itself, and then a dictionary that is met in two places
  constructor
  · intro value text h hnesting
    have hdepth : value.depth ≤ 128 := value.depth_le_nesting.trans hnesting
    exact ⟨parse?_of_isWritten h (hdepth.trans (by decide)),
      Object.parse?_of_isWritten h hnesting⟩
  · intro page index machine entries body tail rest after image name text target htext hobject
      hinline hnesting hread hstream himage
    have hdepth (entry : String × Operand) (hentry : entry ∈ entries) :
        entry.2.depth ≤ Container.maxOpen := by
      have hdepth := (dictionary entries).depth_le_nesting.trans hnesting
      exact ((depth_lt_entryDepth hentry).le.trans hdepth).trans (by decide)
    have hparse : Dictionary.parse? (Utf8.encode text) = some (dictionaryOf entries) :=
      Dictionary.parse?_of_isWritten (htext ▸ isWritten_of_entries hobject) hnesting
    constructor
    · rw [← InlineImage.entries_of_scans hdepth hinline hread]
      rfl
    · exact Machine.drawObject_of_hasStream hstream hparse himage index machine

/-- The entries of an image of one gray pixel; the later of the widths counts. -/
def pixel : List (String × Operand) :=
  [("Subtype", .name "Image"), ("W", .integer 2), ("W", .integer 1), ("H", .integer 1),
    ("CS", .name "G")]

theorem compact_pixel :
    Compact (entryLexemes pixel) (Utf8.encode "/Subtype/Image/W 2/W 1/H 1/CS/G") := by
  have htext : Utf8.encode "/Subtype/Image/W 2/W 1/H 1/CS/G" =
      (Byte.of '/' :: Utf8.encode "Subtype") ++ ((Byte.of '/' :: Utf8.encode "Image") ++
        ((Byte.of '/' :: Utf8.encode "W") ++ ([0x20] ++ (Utf8.encode (toString (2 : Int)) ++
          ((Byte.of '/' :: Utf8.encode "W") ++ ([0x20] ++ (Utf8.encode (toString (1 : Int)) ++
            ((Byte.of '/' :: Utf8.encode "H") ++ ([0x20] ++ (Utf8.encode (toString (1 : Int)) ++
              ((Byte.of '/' :: Utf8.encode "CS") ++
                (Byte.of '/' :: Utf8.encode "G")))))))))))) := by decide +kernel
  rw [htext]
  exact .joined (written_name (by decide +kernel)) (.inr rfl) <|
    .joined (written_name (by decide +kernel)) (.inr rfl) <|
    .spaced (written_name (by decide +kernel)) (.white rfl) <|
    .joined (written_integer (by decide)) (.inr rfl) <|
    .spaced (written_name (by decide +kernel)) (.white rfl) <|
    .joined (written_integer (by decide)) (.inr rfl) <|
    .spaced (written_name (by decide +kernel)) (.white rfl) <|
    .joined (written_integer (by decide)) (.inr rfl) <|
    .joined (written_name (by decide +kernel)) (.inr rfl) <|
    .last (written_name (by decide +kernel))

theorem scans_pixel {l : Lexeme} {tail rest : Bytes} (htail : InlineImage.endsWord tail = true)
    (h : scan tail = .lexeme l rest) :
    Scans (Utf8.encode "/Subtype/Image/W 2/W 1/H 1/CS/G" ++ tail) (entryLexemes pixel ++ [l])
      rest :=
  (scans_append_of_compact compact_pixel htail).append (.cons h .nil)

/-- Strings of both kinds under a repeated key, and an image that is there twice. -/
theorem readers_agree_pixel :
    let text := "<</Subtype/Image/W 2/W 1/H 1/CS/G>>"
    let target : ObjectRef := ⟨1, 0⟩
    let page : PageContext Id := ⟨(ObjectTable.empty.insert target ⟨text, some [0x61]⟩).store, 100,
      { drawable := (∅ : Std.TreeMap String ObjectRef).insert "I" target }, {}⟩
    let machine : Machine := { fonts := ∅ }
    (parse? (Utf8.encode "<</A(x)/A[<41>null]>>") =
        some (.dictionary
          [("A", .literalString [0x78]), ("A", .array [.hexString [0x41], .null])]) ∧
      Object.parse? (Utf8.encode "<</A(x)/A[<41>null]>>") =
        some (.dictionary [("A", .array [.string [0x41], .null])])) ∧
    machine.execute page 0 (.ofInlineImage ⟨pixel, [0x61]⟩) =
        pure ({ machine with inlineImages := 1 }.placeImage page 0 "inline-1" (dictionaryOf pixel)
          [0x61] none) ∧
      machine.execute page 0 ⟨"Do", [.name "I"]⟩ =
        pure (machine.placeImage page 0 "I" (dictionaryOf pixel) [0x61] (some target)) := by
  intro text target page machine
  obtain ⟨hvalue, hdrawn⟩ := readers_agree (m := Id)
  constructor
  · refine hvalue _ _ ⟨[], ?_, rfl⟩ (by decide)
    decide +kernel
  · have hobject : Scans (_ ++ Utf8.encode ">>") _ [] :=
      scans_pixel (l := .dictionaryEnd) (by decide +kernel) (by decide +kernel)
    have hinline : Scans (_ ++ Utf8.encode " ID a EI") _ (Utf8.encode " a EI") :=
      scans_pixel (l := .keyword "ID") (by decide +kernel) (by decide +kernel)
    have hread : InlineImage.read (Utf8.encode "/Subtype/Image/W 2/W 1/H 1/CS/G" ++
        Utf8.encode " ID a EI") = .ok (⟨pixel, [0x61]⟩, []) := by
      have hdata : InlineImage.readData pixel (InlineImage.skipSeparator (Utf8.encode " a EI")) =
          some ([0x61], []) := by decide +kernel
      rw [InlineImage.read, InlineImage.readEntries_of_scans (by decide) hinline]
      dsimp only [List.reverse_nil, List.nil_append]
      rw [hdata]
    have hstream : page.HasStream "I" target text [0x61] :=
      .ofTable rfl Std.TreeMap.getElem?_insert_self Std.HashMap.getElem?_insert_self
    have hname : "inline-" ++ toString (machine.inlineImages + 1) = "inline-1" := by decide +kernel
    exact hname ▸ hdrawn page 0 machine pixel _ _ _ [] ⟨pixel, [0x61]⟩ "I" text target
      (by decide +kernel) hobject hinline (by decide) hread hstream (by decide +kernel)

end Operand

end PdfDisplay
