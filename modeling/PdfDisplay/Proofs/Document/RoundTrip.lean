import PdfDisplay.Document.Value
import PdfDisplay.Proofs.Object.Reading
import PdfDisplay.Proofs.Syntax.Scanning

/-!
# Reading back the text of a document value

`Value.text` and `Object.parse?` are inverse to each other as far as the text can carry the
value: `Object.parse?_text` reads the text of a value as the object that the value is, its names
decoded and a stream as its dictionary. Numbers with a fraction are left out, they pass through
a rounded decimal.

There are two halves. The text of a value scans as the lexemes of its object (`prints_of_readable`),
by induction on the value with an arbitrary text behind it; and the reader makes the object of
these lexemes (`OpenObject.run_lexemes`).
-/

namespace PdfDisplay

namespace Document.Value

/-! ## Values as objects -/

mutual

/-- The object that a value is: names are text, and a stream is its dictionary. -/
def object : Value → Object
  | .null => .null
  | .boolean value => .boolean value
  | .integer value => .integer value
  | .real value => .real value.toFloat
  | .name bytes => .name (Utf8.decode bytes)
  | .string bytes => .string bytes
  | .array items => .array (objects items)
  | .dictionary entries => .dictionary (entryObjects entries)
  | .stream entries _ => .dictionary (entryObjects entries)
  | .reference target => .reference target

/-- The objects that some values are. -/
def objects : List Value → List Object
  | [] => []
  | item :: rest => item.object :: objects rest

/-- The keys as text, with the objects of their values. -/
def entryObjects : List (Bytes × Value) → List (String × Object)
  | [] => []
  | (key, value) :: rest => (Utf8.decode key, value.object) :: entryObjects rest

end

/-- Whether bytes are the UTF-8 form of a text. -/
def IsUtf8 (bytes : Bytes) : Prop := ∃ text, bytes = Utf8.encode text

/-- The values that the object reader can read back: integers have 64 bits, references are in
range, names and keys are UTF-8, the keys of a dictionary differ, and containers nest at most
`depth` deep. -/
inductive Readable : Nat → Value → Prop where
  /-- The null value. -/
  | null {depth : Nat} : Readable depth .null
  /-- A truth value. -/
  | boolean {depth : Nat} (value : Bool) : Readable depth (.boolean value)
  /-- A whole number. -/
  | integer {depth : Nat} {value : Int} (h : IsInt64 value) : Readable depth (.integer value)
  /-- A name. -/
  | name {depth : Nat} {bytes : Bytes} (h : IsUtf8 bytes) : Readable depth (.name bytes)
  /-- A string. -/
  | string {depth : Nat} (bytes : Bytes) : Readable depth (.string bytes)
  /-- A reference. -/
  | reference {depth : Nat} {target : ObjectRef} (h : target.InRange) :
    Readable depth (.reference target)
  /-- An array. -/
  | array {depth : Nat} {items : List Value} (h : ∀ item ∈ items, Readable depth item) :
    Readable (depth + 1) (.array items)
  /-- A dictionary. -/
  | dictionary {depth : Nat} {entries : List (Bytes × Value)}
    (hkeys : (entries.map (·.1)).Nodup) (htext : ∀ entry ∈ entries, IsUtf8 entry.1)
    (h : ∀ entry ∈ entries, Readable depth entry.2) : Readable (depth + 1) (.dictionary entries)
  /-- A stream. -/
  | stream {depth : Nat} {entries : List (Bytes × Value)} (data : Bytes)
    (hkeys : (entries.map (·.1)).Nodup) (htext : ∀ entry ∈ entries, IsUtf8 entry.1)
    (h : ∀ entry ∈ entries, Readable depth entry.2) : Readable (depth + 1) (.stream entries data)

theorem IsUtf8.encode_decode {bytes : Bytes} (h : IsUtf8 bytes) :
    Utf8.encode (Utf8.decode bytes) = bytes := by
  obtain ⟨text, rfl⟩ := h
  rw [Utf8.decode_encode]

theorem objects_eq_map (items : List Value) : objects items = items.map object := by
  induction items with
  | nil => rfl
  | cons item items ih => rw [objects, ih, List.map_cons]

theorem entryObjects_eq_map (entries : List (Bytes × Value)) :
    entryObjects entries = entries.map fun entry => (Utf8.decode entry.1, entry.2.object) := by
  induction entries with
  | nil => rfl
  | cons entry entries ih => rw [entryObjects, ih, List.map_cons]

/-- Keys that differ as bytes differ as text, since the bytes of a key can be had back from its
text. -/
theorem nodup_entryObjects {entries : List (Bytes × Value)} (hkeys : (entries.map (·.1)).Nodup)
    (htext : ∀ entry ∈ entries, IsUtf8 entry.1) :
    ((entryObjects entries).map (·.1)).Nodup := by
  rw [List.Nodup, List.pairwise_map] at hkeys
  rw [entryObjects_eq_map, List.map_map, List.Nodup, List.pairwise_map]
  refine hkeys.imp_of_mem fun {first second} hfirst hsecond hne heq => hne ?_
  have hdecode : Utf8.decode first.1 = Utf8.decode second.1 := heq
  rw [← (htext first hfirst).encode_decode, hdecode, (htext second hsecond).encode_decode]

theorem fits_entryObjects {depth : Nat} {entries : List (Bytes × Value)}
    (h : ∀ entry ∈ entries, entry.2.object.Fits depth) :
    ∀ entry ∈ entryObjects entries, entry.2.Fits depth := by
  rw [entryObjects_eq_map]
  intro entry hentry
  obtain ⟨source, hsource, rfl⟩ := List.mem_map.mp hentry
  exact h source hsource

/-- The objects of readable values are within what the reader can follow. -/
theorem Readable.fits {depth : Nat} {v : Value} (h : Readable depth v) :
    v.object.Fits depth := by
  induction h with
  | null => exact .null
  | boolean value => exact .boolean value
  | integer _ => exact .integer _
  | name _ => exact .name _
  | string bytes => exact .string bytes
  | reference h => exact .reference h
  | array _ ih =>
    refine .array ?_
    -- the nested recursion over items is a map, whose elements the induction is about
    rw [objects_eq_map]
    intro o ho
    obtain ⟨item, hitem, rfl⟩ := List.mem_map.mp ho
    exact ih item hitem
  | dictionary hkeys htext _ ih =>
    exact .dictionary (nodup_entryObjects hkeys htext) (fits_entryObjects ih)
  | stream _ hkeys htext _ ih =>
    exact .dictionary (nodup_entryObjects hkeys htext) (fits_entryObjects ih)

/-! ## Texts as lexemes -/

open Lexeme InlineImage

/-- A plain byte stands for itself in a name. -/
theorem of_isPlain (b : UInt8) (h : isPlain b = true) :
    Byte.isRegular b = true ∧ b ≠ Byte.of '#' ∧ [(Char.ofNat b.toNat).toUInt8] = [b] ∧
      (Char.ofNat b.toNat).toNat < 0x80 := by
  revert b
  exact Byte.forall_of_halves (by decide)

theorem toNat_lt_of_mem_nameByte {b : UInt8} {c : Char} (h : c ∈ nameByte b) :
    c.toNat < 0x80 := by
  rw [nameByte] at h
  split at h
  case isTrue hb =>
    obtain ⟨-, -, -, hascii⟩ := of_isPlain b hb
    rwa [List.mem_singleton.mp h]
  case isFalse =>
    rcases List.mem_cons.mp h with rfl | h
    · decide
    · exact toNat_lt_of_mem_upperPair h

theorem nameSpelling_nameText (bytes : Bytes) :
    NameSpelling bytes ((bytes.flatMap nameByte).map Char.toUInt8) := by
  induction bytes with
  | nil => exact .nil
  | cons b bytes ih =>
    rw [List.flatMap_cons, List.map_append, nameByte]
    split
    case isTrue hb =>
      obtain ⟨hregular, hne, hself, -⟩ := of_isPlain b hb
      rw [List.map_singleton, hself, List.singleton_append]
      exact .plain hregular hne ih
    case isFalse =>
      obtain ⟨high, low, hpair, hp⟩ := hexPair_upperPair b
      rw [List.map_cons, hpair]
      exact .escaped hp ih

theorem hexSpelling_stringText (bytes : Bytes) :
    HexSpelling bytes ((bytes.flatMap Hex.upperPair).map Char.toUInt8) := by
  induction bytes with
  | nil => exact .nil
  | cons b bytes ih =>
    obtain ⟨high, low, hpair, hp⟩ := hexPair_upperPair b
    rw [List.flatMap_cons, List.map_append, hpair]
    exact .pair hp ih

theorem spells_nameText {bytes : Bytes} (h : IsUtf8 bytes) :
    Spells (.name (Utf8.decode bytes)) (Utf8.encode (nameText bytes)) := by
  have hascii : ∀ c ∈ '/' :: bytes.flatMap nameByte, c.toNat < 0x80 := by
    intro c hc
    rcases List.mem_cons.mp hc with rfl | hc
    · decide
    · obtain ⟨b, -, hb⟩ := List.mem_flatMap.mp hc
      exact toNat_lt_of_mem_nameByte hb
  have hspelling := nameSpelling_nameText bytes
  rw [nameText, Utf8.encode_ofList_of_ascii hascii, List.map_cons]
  rw [← h.encode_decode] at hspelling ⊢
  rw [Utf8.decode_encode]
  exact .name hspelling

theorem spells_stringText (bytes : Bytes) :
    Spells (.hexString bytes) (Utf8.encode (stringText bytes)) := by
  have hascii : ∀ c ∈ '<' :: (bytes.flatMap Hex.upperPair ++ ['>']), c.toNat < 0x80 := by
    intro c hc
    rw [List.mem_cons, List.mem_append, List.mem_singleton] at hc
    rcases hc with rfl | hc | rfl
    · decide
    · obtain ⟨b, -, hb⟩ := List.mem_flatMap.mp hc
      exact toNat_lt_of_mem_upperPair hb
    · decide
  rw [stringText, Utf8.encode_ofList_of_ascii hascii, List.map_cons, List.map_append]
  exact .hexString (hexSpelling_stringText bytes)

/-- The text of a value scans as the lexemes of its object, if something follows that ends a
word. -/
def Prints (v : Value) : Prop :=
  ∀ rest, endsWord rest = true → Scans (Utf8.encode v.text ++ rest) v.object.lexemes rest

theorem prints_of_spells {v : Value} {l : Lexeme} (hl : v.object.lexemes = [l])
    (h : Spells l (Utf8.encode v.text)) : Prints v := by
  intro rest hrest
  rw [hl]
  exact .cons (scan_append_of_spells h hrest) .nil

theorem prints_reference {target : ObjectRef} (h : target.InRange) :
    Prints (.reference target) := by
  intro rest hrest
  obtain ⟨hnumber, hgeneration⟩ := h
  -- three lexemes with a blank between each two of them
  have htext : Utf8.encode target.text = Utf8.encode (toString (target.number : Int)) ++
      ([0x20] ++ (Utf8.encode (toString (target.generation : Int)) ++
        ([0x20] ++ Utf8.encode "R"))) := by
    have hword : Utf8.encode " R" = [0x20] ++ Utf8.encode "R" :=
      Utf8.encode_blank ▸ Utf8.encode_append " " "R"
    rw [ObjectRef.text, Utf8.encode_append, Utf8.encode_append, Utf8.encode_append,
      Utf8.encode_blank, hword, List.append_assoc, List.append_assoc]
    rfl
  have hR : IsWord "R" := isWord_literal 'R' [] rfl rfl
  rw [text, htext]
  simp only [List.append_assoc]
  exact .cons (scan_append_of_spells (.integer ⟨by omega, by omega⟩) rfl)
    (.of_append_gap (.white rfl)
      (.cons (scan_append_of_spells (.integer ⟨by omega, by omega⟩) rfl)
        (.of_append_gap (.white rfl) (.cons (scan_append_of_spells (.keyword hR) hrest) .nil))))

theorem exists_lexemes_eq_cons (o : Object) : ∃ l ls, o.lexemes = l :: ls := by
  cases o <;> exact ⟨_, _, rfl⟩

/-- Items print one behind another with a space between them, by induction over the items. -/
theorem prints_items {items : List Value} (h : ∀ item ∈ items, Prints item) {rest : Bytes}
    (hrest : endsWord rest = true) :
    Scans (Utf8.encode (" ".intercalate (texts items)) ++ rest)
      (Object.itemLexemes (objects items)) rest := by
  induction items with
  | nil =>
    rw [texts, String.intercalate_nil, Utf8.encode_empty]
    exact .nil
  | cons item items ih =>
    have hitem := h item List.mem_cons_self
    have hitems := ih fun other hother => h other (List.mem_cons_of_mem item hother)
    rw [objects, Object.itemLexemes]
    cases items with
    | nil =>
      rw [texts, texts, String.intercalate_singleton]
      exact (hitem rest hrest).append .nil
    | cons next items =>
      obtain ⟨l, ls, hl⟩ := exists_lexemes_eq_cons next.object
      rw [objects, Object.itemLexemes, hl, List.cons_append] at hitems ⊢
      rw [texts, texts, String.intercalate_cons_cons, ← texts]
      rw [Utf8.encode_append, Utf8.encode_append, Utf8.encode_blank, List.append_assoc,
        List.append_assoc]
      -- the blank between two items ends the first and is passed over in front of the second
      exact (hitem _ rfl).append (.of_append_gap (.white rfl) hitems)

/-- Entries begin with a blank, so that a word ends in front of them. -/
theorem endsWord_entries (entries : List (Bytes × Value)) {rest : Bytes}
    (hrest : endsWord rest = true) :
    endsWord (Utf8.encode (String.join (entryTexts entries)) ++ rest) = true := by
  cases entries with
  | nil =>
    rw [entryTexts, String.join_nil, Utf8.encode_empty]
    exact hrest
  | cons entry entries =>
    rw [entryTexts, String.join_cons]
    simp only [Utf8.encode_append, Utf8.encode_blank]
    rfl

theorem prints_entries {entries : List (Bytes × Value)} (htext : ∀ entry ∈ entries, IsUtf8 entry.1)
    (h : ∀ entry ∈ entries, Prints entry.2) {rest : Bytes} (hrest : endsWord rest = true) :
    Scans (Utf8.encode (String.join (entryTexts entries)) ++ rest)
      (Object.entryLexemes (entryObjects entries)) rest := by
  induction entries with
  | nil =>
    rw [entryTexts, String.join_nil, Utf8.encode_empty]
    exact .nil
  | cons entry entries ih =>
    obtain ⟨key, value⟩ := entry
    have hkey := spells_nameText (htext (key, value) List.mem_cons_self)
    have hvalue := h (key, value) List.mem_cons_self
    have hentries := ih (fun other hother => htext other (List.mem_cons_of_mem _ hother))
      fun other hother => h other (List.mem_cons_of_mem _ hother)
    -- the blank in front of a value is a gap before its first lexeme
    obtain ⟨l, ls, hl⟩ := exists_lexemes_eq_cons value.object
    have hscans := (hvalue _ (endsWord_entries entries hrest)).append hentries
    rw [entryTexts, String.join_cons, entryObjects, Object.entryLexemes]
    simp only [Utf8.encode_append, Utf8.encode_blank, List.append_assoc]
    rw [hl, List.cons_append] at hscans ⊢
    exact .of_append_gap (.white rfl) (.cons (scan_append_of_spells hkey rfl)
      (.of_append_gap (.white rfl) hscans))

theorem prints_array {items : List Value} (h : ∀ item ∈ items, Prints item) :
    Prints (.array items) := by
  intro rest _
  have hstart : Utf8.encode "[" = [Byte.of '['] := Utf8.encode_literal ['['] rfl
  have hend : Utf8.encode "]" = [Byte.of ']'] := Utf8.encode_literal [']'] rfl
  rw [text, Utf8.encode_append, Utf8.encode_append, hstart, hend, List.append_assoc,
    List.append_assoc, object, Object.lexemes]
  exact .cons rfl ((prints_items h rfl).append (.cons rfl .nil))

theorem scans_dictionary {entries : List (Bytes × Value)}
    (htext : ∀ entry ∈ entries, IsUtf8 entry.1) (h : ∀ entry ∈ entries, Prints entry.2)
    (rest : Bytes) :
    Scans (Utf8.encode ("<<" ++ String.join (entryTexts entries) ++ " >>") ++ rest)
      (Object.dictionary (entryObjects entries)).lexemes rest := by
  have hstart : Utf8.encode "<<" = [Byte.of '<', Byte.of '<'] := Utf8.encode_literal ['<', '<'] rfl
  have hend : Utf8.encode " >>" = [0x20] ++ [Byte.of '>', Byte.of '>'] :=
    Utf8.encode_literal [' ', '>', '>'] rfl
  rw [Utf8.encode_append, Utf8.encode_append, hstart, hend]
  simp only [List.append_assoc]
  rw [Object.lexemes]
  exact .cons rfl ((prints_entries htext h rfl).append
    (.of_append_gap (.white rfl) (.cons rfl .nil)))

/-- **The text of a value scans as the lexemes of its object**, if something follows that ends
a word. -/
theorem prints_of_readable {depth : Nat} {v : Value} (h : Readable depth v) : Prints v := by
  induction h with
  | null => exact prints_of_spells rfl (.keyword (isWord_literal 'n' ['u', 'l', 'l'] rfl rfl))
  | boolean value =>
    refine prints_of_spells rfl (.keyword ?_)
    cases value with
    | false => exact isWord_literal 'f' ['a', 'l', 's', 'e'] rfl rfl
    | true => exact isWord_literal 't' ['r', 'u', 'e'] rfl rfl
  | integer h => exact prints_of_spells rfl (.integer h)
  | name h => exact prints_of_spells rfl (spells_nameText h)
  | string bytes => exact prints_of_spells rfl (spells_stringText bytes)
  | reference h => exact prints_reference h
  | array _ ih => exact prints_array ih
  -- a dictionary shows its end, so nothing is asked of what follows it
  | dictionary _ htext _ ih => exact fun rest _ => scans_dictionary htext ih rest
  | stream _ _ htext _ ih => exact fun rest _ => scans_dictionary htext ih rest

/-! ## Reading back -/

/-- Lexemes are read up to where there are none left. -/
theorem lexemesOnto_of_scans_of_done {bytes rest : Bytes} {ls : List Lexeme}
    (h : Scans bytes ls rest) (hdone : scan rest = .done) (read : List Lexeme) :
    Token.lexemesOnto read bytes = read.reverse ++ ls := by
  have hend (l : Lexeme) (after : Bytes) : scan rest ≠ .lexeme l after :=
    fun heq => by cases hdone.symm.trans heq
  rw [Token.lexemesOnto_eq_append, Token.lexemes_of_scans h, Token.lexemes_of_end hend,
    List.append_nil]

theorem lexemesOnto_of_scans {bytes : Bytes} {ls : List Lexeme} (h : Scans bytes ls [])
    (read : List Lexeme) : Token.lexemesOnto read bytes = read.reverse ++ ls :=
  lexemesOnto_of_scans_of_done h rfl read

/-- No object begins like the header of an object, so nothing is taken from its front when it is
parsed. -/
theorem withoutHeader_lexemes (o : Object) : Token.withoutHeader o.lexemes = o.lexemes := by
  cases o <;> rfl

end Document.Value

open Document in
/-- **The text of a value reads as its object**: the same elements in the same order, the same
keys in the same order, names decoded, and every reference as that reference. Containers may
nest 128 deep. -/
theorem Object.parse?_text {v : Value} (h : v.Readable 128) :
    Object.parse? (Utf8.encode v.text) = some v.object := by
  have hscans := Value.prints_of_readable h [] rfl
  rw [List.append_nil] at hscans
  have hlexemes : Token.lexemes (Utf8.encode v.text) = v.object.lexemes :=
    Value.lexemesOnto_of_scans hscans []
  rw [Object.parse?, hlexemes, Value.withoutHeader_lexemes, OpenObject.run_lexemes h.fits]

open Document in
/-- Two integers in front of a reference stay integers. -/
theorem Object.parse?_text_kids :
    let kids : Value :=
      .dictionary [(Utf8.encode "A B",
        .array [.integer 1, .integer (-2), .reference ⟨3, 0⟩, .string [0xAB]])]
    kids.Readable 128 ∧
      Object.parse? (Utf8.encode "<< /A#20B [1 -2 3 0 R <AB>] >>") =
        some (.dictionary [("A B",
          .array [.integer 1, .integer (-2), .reference ⟨3, 0⟩, .string [0xAB]])]) := by
  intro kids
  have hkids : kids.Readable 128 := by
    refine .dictionary (by decide) (List.forall_mem_singleton.mpr ⟨_, rfl⟩)
      (List.forall_mem_singleton.mpr (.array ?_))
    simp only [List.mem_cons, List.not_mem_nil, or_false, forall_eq_or_imp, forall_eq]
    exact ⟨.integer (by decide), .integer (by decide), .reference ⟨by decide, by decide⟩,
      .string _⟩
  have htext : kids.text = "<< /A#20B [1 -2 3 0 R <AB>] >>" := by decide +kernel
  have hobject : kids.object = .dictionary [("A B",
      .array [.integer 1, .integer (-2), .reference ⟨3, 0⟩, .string [0xAB]])] := by
    have hname : Utf8.decode (Utf8.encode "A B") = "A B" := Utf8.decode_encode _
    simp only [kids, Value.object, Value.objects, Value.entryObjects, hname]
  exact ⟨hkids, htext ▸ hobject ▸ parse?_text hkids⟩

end PdfDisplay
