import PdfDisplay.Font.Resolution
import PdfDisplay.Proofs.Font.WidthTables
import PdfDisplay.Proofs.Store.Reports

/-!
# Fonts without warnings are complete

Resolving a font gives one whatever is broken, so its warnings must tell what is missing.
`Answers.Describes` says what there is to know of the character map, the widths and the program
of a font: each is absent or was read as a whole, and if there was no warning, then one that is
absent was not declared. It holds of the font of every dictionary, whatever the store answers
(`FontResolver.reports_font`). There is a lemma for each function of `FontResolver`, in the order
in which they are defined there.

The width of the codes without one is known with warnings too: `Answers.KeepsDefault` says what it
is, also where a part of the font that is not asked for it cannot be read. `Answers.CodesOf` says
where a composite font has its code length and its direction from.
-/

namespace PdfDisplay

variable {α : Type}

/-! ## What is read -/

theorem Object.reference?_eq_none {value : Object}
    (h : ∀ target, value = .reference target → False) : value.reference? = none := by
  cases value with
  | reference target => exact (h target rfl).elim
  | _ => rfl

theorem Object.dictionary?_eq_none {value : Object}
    (h : ∀ entries, value = .dictionary entries → False) : value.dictionary? = none := by
  cases value with
  | dictionary entries => exact (h entries rfl).elim
  | _ => rfl

/-- Whether the value under a key leads to something. -/
def Dictionary.Finds (d : Dictionary) (key : String) (leads : Object → α → Prop) (a : α) : Prop :=
  ∃ value, d.get? key = some value ∧ leads value a

/-- What is known of what the value under a key leads to. -/
def Dictionary.Follows (d : Dictionary) (key : String) (leads : Object → α → Prop)
    (clean : Prop) (a? : Option α) : Prop :=
  Kept clean (d.contains key) (d.Finds key leads) a?

/-- What the value under a key comes to, and nothing where there is no value. -/
def Dictionary.Settles (d : Dictionary) (key : String) (comesTo : Object → Option α → Prop)
    (a? : Option α) : Prop :=
  (d.get? key).elim (a? = none) (comesTo · a?)

/-- Whether a descriptor refers to a program under a key, and under none of the keys that go
before it. -/
def Dictionary.LinksProgram (d : Dictionary) (key : String) (target : ObjectRef) : Prop :=
  ∃ before after, ["FontFile2", "FontFile", "FontFile3"] = before ++ key :: after ∧
    d.reference? key = some target ∧ ∀ other ∈ before, d.reference? other = none

/-- The factor of the widths of a font of Type 3. -/
def Dictionary.glyphScale (d : Dictionary) : Float :=
  (((d.array? "FontMatrix").bind (·.head?)).bind Object.number?).elim 1.0 (· * 1000.0)

namespace Answers

variable (answers : Answers)

/-- Whether a map is all that the data of a stream declare. -/
def ReadsMap (target : ObjectRef) (map : CharMap) : Prop :=
  ∃ data, answers.decoded target (.ok data) ∧ CharMap.parse data = .ok map

/-- What is known of the character map of a font. -/
structure CharMapOf (clean : Prop) (d : Dictionary) (map? : Option CharMap) : Prop where
  /-- A map that is kept was read. -/
  read : ∀ map, map? = some map →
    ∃ target, d.get? "ToUnicode" = some (.reference target) ∧ answers.ReadsMap target map
  /-- Without a warning a map that is referred to was read, and is kept if it has entries. -/
  kept : clean → ∀ target, d.get? "ToUnicode" = some (.reference target) →
    ∃ map, answers.ReadsMap target map ∧ map? = if map.isEmpty then none else some map

/-- Whether a table has the widths of the whole array that a simple font declares. -/
def SimpleTable (clean : Prop) (d : Dictionary) (missing? : Option Float) (table : WidthTable) :
    Prop :=
  ∃ items first?, d.Finds "Widths" answers.Leads (.array items) ∧
    d.Follows "FirstChar" answers.Leads clean first? ∧
    WidthTable.ofSimple (FontResolver.firstCode first?) items missing? = .ok table

/-- Whether a table has the widths of the whole array that a composite font's descendant
declares. -/
def CompositeTable (d : Dictionary) (default? : Option Float) (table : WidthTable) : Prop :=
  ∃ items, d.Finds "W" answers.Leads (.array items) ∧
    WidthTable.ofComposite items default? = .ok table

/-- What is known of the program that a descriptor refers to. -/
def ProgramOf (clean : Prop) (descriptor? : Option Dictionary) (program? : Option FontProgram) :
    Prop :=
  Kept clean (∃ d key target, descriptor? = some d ∧ d.LinksProgram key target)
    (fun program => ∃ d key target, descriptor? = some d ∧ d.LinksProgram key target ∧
      answers.decoded target (.ok program.bytes))
    program?

/-- Whether a dictionary is that of a composite font's descendant. -/
def Descends (d descendant : Dictionary) : Prop :=
  ∃ first rest, d.Finds "DescendantFonts" answers.Leads (.array (first :: rest)) ∧
    answers.LeadsToDictionary first descendant

/-- Whether a font of some kind declares a width for the codes without one: the width is the
descendant's, the standard one in the scale of the font, or the descriptor's. A width that is not
declared, or that cannot be read, is the standard one. -/
def DefaultWidth (d : Dictionary) (width : Float) : FontKind → Prop
  | .composite => ∃ descendant default?, answers.Descends d descendant ∧
      descendant.Settles "DW" answers.ComesTo default? ∧
      width = (default?.bind Object.number?).getD WidthTable.standard
  | .type3 => width = WidthTable.standard * d.glyphScale
  | _ => ∃ descriptor?, d.Settles "FontDescriptor" answers.ComesToDictionary descriptor? ∧
      width = (descriptor?.bind (·.number? "MissingWidth")).getD WidthTable.standard

/-- Whether the table of a font of some kind, if it has one, has the default width of the font,
which is the one that is declared. -/
def KeepsDefault (d : Dictionary) (kind : FontKind) (font : Font) : Prop :=
  ∀ table, font.widths? = some table →
    table.default = font.defaultWidth ∧ answers.DefaultWidth d font.defaultWidth kind

/-- What is known of the code length of a composite font with an encoding and a character map. -/
structure CodeLengthOf (clean : Prop) (d : Dictionary) (encoding? : Option Object)
    (charMap? : Option CharMap) (length : Nat) : Prop where
  /-- The length of an embedded encoding counts, and two where none can be read from its data. The
  data are there unless there is a warning. -/
  embedded : clean → ∀ target entries, d.reference? "Encoding" = some target →
    encoding? = some (.dictionary entries) → ∃ data, answers.decoded target (.ok data) ∧
      length = ((CharMap.parse data).toOption.bind (·.codeLength?)).getD 2
  /-- Any other object that is referred to has no length. -/
  other : (d.reference? "Encoding").isSome →
    (∀ entries, encoding? ≠ some (.dictionary entries)) → length = 2
  /-- Without a reference the length of the character map counts. -/
  own : d.reference? "Encoding" = none → length = (charMap?.bind (·.codeLength?)).getD 2

/-- What is known of the codes of a composite font and of the direction in which it is written. -/
def CodesOf (clean : Prop) (d : Dictionary) (font : Font) : Prop :=
  ∃ encoding?, d.Follows "Encoding" answers.Leads clean encoding? ∧
    font.writingMode = FontResolver.directionOf encoding? ∧
    answers.CodeLengthOf clean d encoding? font.charMap? font.codeLength

/-! ## What is kept -/

/-- What is known of the widths and the program of a font of Type 3. -/
structure Type3Parts (clean : Prop) (d : Dictionary) (font : Font) : Prop where
  /-- Its widths are scaled. -/
  widths : Kept clean (d.contains "Widths")
    (fun table => ∃ base, answers.SimpleTable clean d none base ∧
      table = base.scaled d.glyphScale)
    font.widths?
  /-- It has no program. -/
  program : font.program? = none

/-- What is known of the widths and the program of any other simple font with a descriptor. -/
structure SimpleParts (clean : Prop) (d : Dictionary) (descriptor? : Option Dictionary)
    (font : Font) : Prop where
  /-- The descriptor is that of the font. -/
  descriptor : d.Follows "FontDescriptor" answers.LeadsToDictionary clean descriptor?
  /-- The descriptor gives the width of the codes without one. -/
  widths : Kept clean (d.contains "Widths")
    (answers.SimpleTable clean d (descriptor?.bind (·.number? "MissingWidth"))) font.widths?
  /-- The program is the descriptor's. -/
  program : answers.ProgramOf clean descriptor? font.program?

/-- What is known of the widths and the program of a composite font with a descendant, its
descriptor and the width of the codes without one. -/
structure CompositeParts (clean : Prop) (d descendant : Dictionary) (default? : Option Object)
    (descriptor? : Option Dictionary) (font : Font) : Prop where
  /-- The descendant is that of the font. -/
  descends : answers.Descends d descendant
  /-- The descendant declares the width of the codes without one. -/
  default : descendant.Follows "DW" answers.Leads clean default?
  /-- The descendant declares the widths. -/
  widths : Kept clean (descendant.contains "W")
    (answers.CompositeTable descendant (default?.bind Object.number?)) font.widths?
  /-- The descriptor is that of the descendant. -/
  descriptor : descendant.Follows "FontDescriptor" answers.LeadsToDictionary clean descriptor?
  /-- The program is the descriptor's. -/
  program : answers.ProgramOf clean descriptor? font.program?

/-- What is known of the widths and the program of a font of some kind. A composite font whose
descendant cannot be read has none, and there is a warning. -/
def Parts (clean : Prop) (d : Dictionary) (font : Font) : FontKind → Prop
  | .composite =>
    (¬clean ∧ font.widths? = none ∧ font.program? = none) ∨
      ∃ descendant default? descriptor?,
        answers.CompositeParts clean d descendant default? descriptor? font
  | .type3 => answers.Type3Parts clean d font
  | _ => ∃ descriptor?, answers.SimpleParts clean d descriptor? font

section

variable {answers : Answers} {clean clean' : Prop} {d descendant : Dictionary}
  {missing? : Option Float} {descriptor? : Option Dictionary} {default? : Option Object}
  {table : WidthTable} {font : Font}

/-- What is known of a part when the reading was clean is known when more than that was clean; there
is a lemma of this kind for each part. -/
theorem CharMapOf.weaken {map? : Option CharMap} (h : answers.CharMapOf clean d map?)
    (hclean : clean' → clean) : answers.CharMapOf clean' d map? where
  read := h.read
  kept hclean' := h.kept (hclean hclean')

theorem CodeLengthOf.weaken {encoding? : Option Object} {charMap? : Option CharMap} {length : Nat}
    (h : answers.CodeLengthOf clean d encoding? charMap? length) (hclean : clean' → clean) :
    answers.CodeLengthOf clean' d encoding? charMap? length where
  embedded hclean' := h.embedded (hclean hclean')
  other := h.other
  own := h.own

theorem SimpleTable.weaken (h : answers.SimpleTable clean d missing? table)
    (hclean : clean' → clean) : answers.SimpleTable clean' d missing? table := by
  obtain ⟨items, first?, hitems, hfirst, htable⟩ := h
  exact ⟨items, first?, hitems, hfirst.weaken hclean, htable⟩

/-- **Widths of a simple font.** The array under `Widths` holds numbers only, and the item at index
`i` is the width of the `i`th code behind the one under `FirstChar`. No other code has a width of
its own. -/
theorem SimpleTable.exists_widths (h : answers.SimpleTable clean d missing? table) :
    ∃ items first? widths, d.Finds "Widths" answers.Leads (.array items) ∧
      d.Follows "FirstChar" answers.Leads clean first? ∧ WidthTable.AreNumbers items widths ∧
      ∀ code, table.explicit? code =
        if FontResolver.firstCode first? ≤ code then widths[code - FontResolver.firstCode first?]?
        else none := by
  obtain ⟨items, first?, hitems, hfirst, htable⟩ := h
  obtain ⟨widths, hwidths, hcodes⟩ := WidthTable.explicit?_of_ofSimple htable
  exact ⟨items, first?, widths, hitems, hfirst, hwidths, hcodes⟩

theorem Type3Parts.weaken (h : answers.Type3Parts clean d font) (hclean : clean' → clean) :
    answers.Type3Parts clean' d font where
  widths := h.widths.mono hclean id fun _ ⟨base, hbase, hscaled⟩ =>
    ⟨base, hbase.weaken hclean, hscaled⟩
  program := h.program

theorem SimpleParts.weaken (h : answers.SimpleParts clean d descriptor? font)
    (hclean : clean' → clean) : answers.SimpleParts clean' d descriptor? font where
  descriptor := h.descriptor.weaken hclean
  widths := h.widths.mono hclean id fun _ htable => htable.weaken hclean
  program := h.program.weaken hclean

theorem CompositeParts.weaken
    (h : answers.CompositeParts clean d descendant default? descriptor? font)
    (hclean : clean' → clean) :
    answers.CompositeParts clean' d descendant default? descriptor? font where
  descends := h.descends
  default := h.default.weaken hclean
  widths := h.widths.weaken hclean
  descriptor := h.descriptor.weaken hclean
  program := h.program.weaken hclean

theorem Parts.weaken {kind : FontKind} (h : answers.Parts clean d font kind)
    (hclean : clean' → clean) : answers.Parts clean' d font kind := by
  rw [Parts.eq_def] at h ⊢
  split at h
  case h_1 =>
    obtain ⟨hwarned, habsent⟩ | ⟨descendant, default?, descriptor?, hparts⟩ := h
    · exact .inl ⟨hwarned ∘ hclean, habsent⟩
    · exact .inr ⟨descendant, default?, descriptor?, hparts.weaken hclean⟩
  case h_2 => exact Type3Parts.weaken h hclean
  case h_3 =>
    obtain ⟨descriptor?, hparts⟩ := h
    exact ⟨descriptor?, hparts.weaken hclean⟩

end

/-- What is known of the font of a dictionary, where `clean` says that there was no warning. -/
structure Describes (clean : Prop) (tag : String) (d : Dictionary) (font : Font) : Prop where
  /-- The font has the tag that it is resolved for. -/
  tag : font.tag = tag
  /-- The font is of the kind that is declared. -/
  kind : font.kind = .ofName ((d.name? "Subtype").getD "")
  /-- What is known of its character map. -/
  charMap : answers.CharMapOf clean d font.charMap?
  /-- What is known of its widths and its program. -/
  parts : answers.Parts clean d font font.kind

end Answers

namespace FontResolver

/-- A font program is linked exactly under the first of its three keys that leads to a reference. -/
theorem programLink?_eq_some_iff {d : Dictionary} {key : String} {target : ObjectRef} :
    programLink? d = some (key, target) ↔ d.LinksProgram key target := by
  simp only [programLink?, List.findSome?_eq_some_iff, Option.map_eq_some_iff, Prod.mk.injEq,
    Option.map_eq_none_iff, Dictionary.LinksProgram]
  constructor
  · rintro ⟨before, _, after, hkeys, ⟨_, htarget, rfl, rfl⟩, hbefore⟩
    exact ⟨before, after, hkeys, htarget, hbefore⟩
  · rintro ⟨before, after, hkeys, htarget, hbefore⟩
    exact ⟨before, key, after, hkeys, ⟨target, htarget, rfl, rfl⟩, hbefore⟩

/-! ## Links -/

variable {m : Type → Type} [Monad m] [LawfulMonad m] (r : FontResolver m) {answers : Answers}

/-- Work that ends with a warning about the font, after which nothing is known to have been read
clean. -/
theorem reports_warn {p : Prop → α → Prop} (code : WarningCode) (description : String)
    (target? : Option ObjectRef) {a : α} (h : p False a)
    (hcode : code ≠ .truncatedContent := by decide) :
    Reports r.tag p (do r.warn code description target?; return a) :=
  .warned ⟨rfl, hcode⟩ h

/-- **A fetch reports**: it gives nothing only where the store answers with an error, and then there
is a warning with the tag of the font. -/
theorem reports_fetch (key : String) (target : ObjectRef) {answer : m (Except StoreError α)}
    {given : Except StoreError α → Prop} (h : Yields given answer) :
    Reports r.tag
      (fun clean a? => (a? = none → ∃ e, given (.error e)) ∧
        Kept clean True (fun a => given (.ok a)) a?)
      (r.fetch key target answer) := by
  refine .bind (p := fun _ => given) (.lift h) fun clean result hresult => ?_
  split
  case h_1 a => exact .pure ⟨nofun, .some hresult⟩
  case h_2 e =>
    refine r.reports_warn _ _ _ ⟨fun _ => ⟨e, hresult⟩, .none ?_⟩
      e.warningCode_ne_truncatedContent
    exact fun hclean => hclean.2.elim

/-- A stream that is read is one that the store gives decoded, and one that is not is warned of. -/
theorem reports_stream (h : r.store.Gives answers) (key : String) (target : ObjectRef) :
    Reports r.tag (fun clean => Kept clean True fun data => answers.decoded target (.ok data))
      (r.stream key target) :=
  (r.reports_fetch key target (h.decoded target)).mono fun _ _ => And.right

/-- The dictionary behind a reference is what its text reads as, and there is a warning where the
text is missing or is none. -/
theorem reports_dictionaryAt (h : r.store.Gives answers) (key : String) (target : ObjectRef) :
    Reports r.tag
      (fun clean d? => answers.TextReads Dictionary.parse? target d? ∧
        Kept clean True (answers.DictionaryAt target) d?)
      (r.dictionaryAt key target) := by
  refine (r.reports_fetch key target (h.text target)).bind fun clean text? hanswer => ?_
  obtain ⟨hfailed, hkept⟩ := hanswer
  split
  case h_1 =>
    obtain ⟨e, htext⟩ := hfailed rfl
    exact .pure ⟨.error htext, .none fun hclean => hkept.not_declared hclean.1⟩
  case h_2 text =>
    have htext := hkept.read text rfl
    split
    case h_1 d hd => exact .pure ⟨.text htext hd, .some ⟨text, htext, hd⟩⟩
    case h_2 hnone =>
      exact r.reports_warn _ _ _ ⟨.text htext hnone, .none fun hclean => hclean.2.elim⟩

/-- **A value is followed to the object it comes to**: one that is no reference stands for itself,
and one that is leads to what the store gives for it, or is warned of. -/
theorem reports_object (h : r.store.Gives answers) (key : String) (value : Object) :
    Reports r.tag
      (fun clean value? => answers.ComesTo value value? ∧
        Kept clean True (answers.Leads value) value?)
      (r.object key value) := by
  rw [object.eq_def]
  split
  -- the store may have no text for it, and the text may be that of no object
  case h_1 target =>
    refine (r.reports_fetch key target (h.text target)).bind fun clean text? hanswer => ?_
    obtain ⟨hfailed, hkept⟩ := hanswer
    split
    case h_1 =>
      obtain ⟨e, htext⟩ := hfailed rfl
      exact .pure ⟨.reference (.error htext), .none fun hclean => hkept.not_declared hclean.1⟩
    case h_2 text =>
      have htext := hkept.read text rfl
      split
      case h_1 value hvalue =>
        exact .pure ⟨.reference (.text htext hvalue), .some (.reference htext hvalue)⟩
      case h_2 hnone =>
        exact r.reports_warn _ _ _
          ⟨.reference (.text htext hnone), .none fun hclean => hclean.2.elim⟩
  case h_2 _ hvalue =>
    have hdirect := Object.reference?_eq_none hvalue
    exact .pure ⟨.direct hdirect, .some (.direct hdirect)⟩

/-- The same for a value that has to be a dictionary, where any other object is warned of too. -/
theorem reports_dictionary (h : r.store.Gives answers) (key : String) (value : Object) :
    Reports r.tag
      (fun clean d? => answers.ComesToDictionary value d? ∧
        Kept clean True (answers.LeadsToDictionary value) d?)
      (r.dictionary key value) := by
  rw [dictionary.eq_def]
  split
  case h_1 entries => exact .pure ⟨.direct entries, .some (.direct entries)⟩
  case h_2 target =>
    exact (r.reports_dictionaryAt h key target).mono fun clean d? ⟨hreads, hkept⟩ =>
      ⟨.reference hreads, hkept.mono id id fun _ => .reference⟩
  case h_3 hdictionary hreference =>
    have hdictionary := Object.dictionary?_eq_none hdictionary
    have hreference := Object.reference?_eq_none hreference
    exact r.reports_warn _ _ _ ⟨.other hdictionary hreference, .none fun hclean => hclean.elim⟩

/-- What is known of work on the value under a key, from what is known of it for each value. -/
theorem reports_settle {comesTo : Object → Option α → Prop} {leads : Object → α → Prop}
    (d : Dictionary) (key : String) {work : Object → Diagnosing m (Option α)}
    (hwork : ∀ value, Reports r.tag
      (fun clean a? => comesTo value a? ∧ Kept clean True (leads value) a?) (work value)) :
    Reports r.tag (fun clean a? => d.Settles key comesTo a? ∧ d.Follows key leads clean a?)
      (match d.get? key with
        | some value => work value
        | none => return none) := by
  split
  case h_1 value hvalue =>
    refine (hwork value).mono fun clean a? ⟨hcomes, hkept⟩ => ⟨?_, ?_⟩
    · rw [Dictionary.Settles, hvalue]
      exact hcomes
    · exact hkept.mono id (fun _ => trivial) fun a ha => ⟨value, hvalue, ha⟩
  case h_2 hnone =>
    refine .pure ⟨?_, .none fun _ hdeclared => ?_⟩
    · rw [Dictionary.Settles, hnone]
      rfl
    · rw [Dictionary.contains, hnone] at hdeclared
      cases hdeclared

/-- The value of an entry is followed if the entry is there; an entry that is absent gives nothing
and is not reported. -/
theorem reports_entry_settles (h : r.store.Gives answers) (d : Dictionary) (key : String) :
    Reports r.tag
      (fun clean value? => d.Settles key answers.ComesTo value? ∧
        d.Follows key answers.Leads clean value?)
      (r.entry d key) :=
  r.reports_settle d key (r.reports_object h key)

theorem reports_entry (h : r.store.Gives answers) (d : Dictionary) (key : String) :
    Reports r.tag (d.Follows key answers.Leads) (r.entry d key) :=
  (r.reports_entry_settles h d key).mono fun _ _ => And.right

/-! ## Parts -/

/-- **The map to text is read or warned of**, as far as there is a reference to it: without one
there is no map and no warning. -/
theorem reports_charMap (h : r.store.Gives answers) (d : Dictionary) :
    Reports r.tag (fun clean => answers.CharMapOf clean d) (r.charMap (d.get? "ToUnicode")) := by
  rw [charMap.eq_def]
  split
  case h_1 target hlink =>
    refine (r.reports_stream h _ target).bind fun clean data? hdata => ?_
    split
    case h_1 => exact .pure ⟨nofun, fun hclean => (hdata.not_declared hclean.1 trivial).elim⟩
    case h_2 data =>
      have hdata := hdata.read data rfl
      split
      case h_1 map hmap =>
        have hread : answers.ReadsMap target map := ⟨data, hdata, hmap⟩
        refine .pure ⟨fun map' hmap' => ⟨target, hlink, ?_⟩, fun _ target' hlink' => ⟨map, ?_, rfl⟩⟩
        -- an empty map is dropped, so a map that is kept is the one that was read
        · split at hmap'
          case isTrue => cases hmap'
          case isFalse =>
            cases hmap'
            exact hread
        · obtain rfl : target = target' := by simpa [hlink] using hlink'
          exact hread
      case h_2 => exact r.reports_warn _ _ _ ⟨nofun, fun hclean => hclean.2.elim⟩
  case h_2 hlink => exact .pure ⟨nofun, fun _ target htarget => (hlink target htarget).elim⟩

/-- The widths of a simple font make a table of the whole array, or none, and then there is a
warning if the font has an entry for them. -/
theorem reports_simpleWidths (h : r.store.Gives answers) (d : Dictionary)
    (missing? : Option Float) :
    Reports r.tag
      (fun clean => Kept clean (d.contains "Widths") (answers.SimpleTable clean d missing?))
      (r.simpleWidths d missing?) := by
  refine (r.reports_entry h d _).bind fun clean value? hvalue => ?_
  split
  case h_1 => exact .pure (.none fun hclean => hvalue.not_declared hclean.1)
  case h_2 items =>
    refine (r.reports_entry h d _).bind fun clean' first? hfirst => ?_
    dsimp only
    split
    case h_1 table htable =>
      refine .pure (.some ⟨items, first?, hvalue.read _ rfl, ?_, htable⟩)
      exact hfirst.weaken (·.2.1)
    case h_2 => exact r.reports_warn _ _ _ (.none fun hclean => hclean.2.2.elim)
  case h_3 => exact r.reports_warn _ _ _ (.none fun hclean => hclean.2.elim)

/-- The same for the widths of a composite font, which are written in two forms. -/
theorem reports_compositeWidths (h : r.store.Gives answers) (d : Dictionary)
    (default? : Option Float) :
    Reports r.tag (fun clean => Kept clean (d.contains "W") (answers.CompositeTable d default?))
      (r.compositeWidths d default?) := by
  refine (r.reports_entry h d _).bind fun clean value? hvalue => ?_
  split
  case h_1 => exact .pure (.none fun hclean => hvalue.not_declared hclean.1)
  case h_2 items =>
    split
    case h_1 table htable => exact .pure (.some ⟨items, hvalue.read _ rfl, htable⟩)
    case h_2 => exact r.reports_warn _ _ _ (.none fun hclean => hclean.2.elim)
  case h_3 => exact r.reports_warn _ _ _ (.none fun hclean => hclean.2.elim)

/-- The descriptor is followed like any entry, and has to be a dictionary. -/
theorem reports_descriptor (h : r.store.Gives answers) (d : Dictionary) :
    Reports r.tag
      (fun clean descriptor? => d.Settles "FontDescriptor" answers.ComesToDictionary descriptor? ∧
        d.Follows "FontDescriptor" answers.LeadsToDictionary clean descriptor?)
      (r.descriptor d) :=
  r.reports_settle d _ (r.reports_dictionary h _)

/-- Finding the format of a program warns about the font only. -/
theorem reports_programFormat (h : r.store.Gives answers) (key : String) (target : ObjectRef) :
    Reports r.tag (fun _ _ => True) (r.programFormat key target) := by
  rw [programFormat.eq_def]
  split
  case h_1 => exact .pure trivial
  case h_2 => exact .pure trivial
  case h_3 => exact (r.reports_dictionaryAt h _ target).bind fun _ _ _ => .pure trivial

/-- The program of a font is the stream behind the first link of its descriptor, if the store gives
that. -/
theorem reports_program (h : r.store.Gives answers) (d : Dictionary) :
    Reports r.tag (fun clean => answers.ProgramOf clean (some d)) (r.program d) := by
  rw [program.eq_def]
  split
  -- without a link there is nothing to be read, and nothing is missing
  case h_1 hlink =>
    refine .pure (.none ?_)
    rintro - ⟨_, key, target, ⟨⟩, hlink'⟩
    rw [← programLink?_eq_some_iff, hlink] at hlink'
    cases hlink'
  case h_2 key target hlink =>
    refine (r.reports_programFormat h key target).bind fun _ format _ => ?_
    refine (r.reports_stream h key target).bind fun _ data? hdata => .pure ?_
    cases data? with
    | none => exact .none fun hclean _ => hdata.not_declared hclean.2.1 trivial
    | some data =>
      exact .some ⟨d, key, target, rfl, programLink?_eq_some_iff.mp hlink, hdata.read data rfl⟩

/-- The program of a descriptor that may be absent. -/
theorem reports_program? (h : r.store.Gives answers) (descriptor? : Option Dictionary) :
    Reports r.tag (fun clean => answers.ProgramOf clean descriptor?)
      (descriptor?.elim (pure none) r.program) := by
  cases descriptor? with
  | none =>
    refine .pure (.none ?_)
    rintro - ⟨_, _, _, ⟨⟩, _⟩
  | some d => exact r.reports_program h d

/-! ## Kinds of fonts -/

/-- Whether a font has the tag, the kind and the character map of another one. -/
structure Completes (font completed : Font) : Prop where
  /-- The tags are the same. -/
  tag : completed.tag = font.tag
  /-- The kinds are the same. -/
  kind : completed.kind = font.kind
  /-- The character maps are the same. -/
  charMap : completed.charMap? = font.charMap?

/-- A font of Type 3 is completed by its widths, scaled by its matrix; it has neither descriptor nor
program. -/
theorem reports_type3 (h : r.store.Gives answers) (d : Dictionary) (encoding? : Option Object)
    (font : Font) (hprogram : font.program? = none) :
    Reports r.tag
      (fun clean completed => Completes font completed ∧
        answers.Parts clean d completed .type3 ∧ answers.KeepsDefault d .type3 completed)
      (r.type3 d encoding? font) := by
  refine (r.reports_simpleWidths h d none).bind fun clean widths? hwidths => .pure ?_
  cases widths? with
  | none =>
    refine ⟨⟨rfl, rfl, rfl⟩, ⟨.none fun hclean => hwidths.not_declared hclean.1, hprogram⟩, ?_⟩
    rintro _ ⟨⟩
  | some base =>
    have hbase := hwidths.read base rfl
    refine ⟨⟨rfl, rfl, rfl⟩, ⟨.some ⟨base, hbase.weaken And.left, rfl⟩, hprogram⟩, ?_⟩
    rintro _ ⟨⟩
    -- scaling the table scales its default width as well
    obtain ⟨items, first?, -, -, htable⟩ := hbase
    refine ⟨?_, rfl⟩
    change base.default * _ = _
    rw [WidthTable.default_of_ofSimple htable]
    rfl

/-- Any other simple font is completed by its descriptor, its widths and its program, each of them
read or warned of. -/
theorem reports_simple (h : r.store.Gives answers) (d : Dictionary) (encoding? : Option Object)
    (font : Font) (hdefault : font.defaultWidth = WidthTable.standard) {kind : FontKind}
    (hcomposite : kind ≠ .composite) (htype3 : kind ≠ .type3) :
    Reports r.tag
      (fun clean completed => Completes font completed ∧
        answers.Parts clean d completed kind ∧ answers.KeepsDefault d kind completed)
      (r.simple d encoding? font) := by
  refine (r.reports_descriptor h d).bind fun clean descriptor? ⟨hsettles, hdescriptor⟩ => ?_
  refine (r.reports_simpleWidths h d _).bind fun clean' widths? hwidths => ?_
  refine (r.reports_program? h descriptor?).bind fun clean'' program? hprogram => .pure ?_
  refine ⟨⟨rfl, rfl, rfl⟩, ?_, ?_⟩
  -- of the three kinds the two others are excluded
  · rw [Answers.Parts.eq_def]
    split
    case h_1 => exact (hcomposite rfl).elim
    case h_2 => exact (htype3 rfl).elim
    case h_3 =>
      exact ⟨descriptor?,
        { descriptor := hdescriptor.weaken (·.1)
          widths := hwidths.mono (·.2.1) id fun _ htable => htable.weaken (·.2.1)
          program := hprogram.weaken (·.2.2.1) }⟩
  · rintro table rfl
    obtain ⟨items, first?, -, -, htable⟩ := hwidths.read table rfl
    dsimp only
    rw [hdefault, Answers.DefaultWidth.eq_def]
    refine ⟨WidthTable.default_of_ofSimple htable, ?_⟩
    split
    case h_1 => exact (hcomposite rfl).elim
    case h_2 => exact (htype3 rfl).elim
    case h_3 => exact ⟨descriptor?, hsettles, rfl⟩

/-- Finding the length of an embedded encoding: one that is not read is two bytes or there is a
warning. -/
theorem reports_encodingCodeLength (h : r.store.Gives answers) (d : Dictionary)
    (encoding? : Option Object) :
    Reports r.tag
      (fun clean embedded? =>
        (clean → ∀ target entries, d.reference? "Encoding" = some target →
          encoding? = some (.dictionary entries) → ∃ data, answers.decoded target (.ok data) ∧
            embedded? = (CharMap.parse data).toOption.bind (·.codeLength?)) ∧
        ((∀ entries, encoding? ≠ some (.dictionary entries)) → embedded? = none))
      (r.encodingCodeLength d encoding?) := by
  rw [encodingCodeLength.eq_def]
  split
  case h_1 entries target hlink =>
    refine (r.reports_stream h _ target).bind fun clean data? hdata => ?_
    split
    case h_1 data =>
      have hdata := hdata.read data rfl
      refine .pure ⟨fun _ target' _ hlink' _ => ⟨data, ?_, rfl⟩, fun hne => absurd rfl (hne _)⟩
      obtain rfl : target = target' := by simpa [hlink] using hlink'
      exact hdata
    case h_2 =>
      refine .pure ⟨fun hclean => ?_, fun _ => rfl⟩
      exact (hdata.not_declared hclean.1 trivial).elim
  -- an encoding that is no dictionary behind a reference is not asked for
  case h_2 hother =>
    refine .pure ⟨fun _ target entries hlink hentries => ?_, fun _ => rfl⟩
    exact (hother entries target hentries hlink).elim

/-- The code length is that of an embedded encoding, two for any other encoding behind a reference,
and that of the map to text where there is no reference. -/
theorem reports_codeLength (h : r.store.Gives answers) (d : Dictionary)
    (encoding? : Option Object) (charMap? : Option CharMap) :
    Reports r.tag (fun clean => answers.CodeLengthOf clean d encoding? charMap?)
      (r.codeLength d encoding? charMap?) := by
  refine (r.reports_encodingCodeLength h d encoding?).bind
    fun clean embedded? ⟨hembedded, hother⟩ => ?_
  split
  case isTrue hlink =>
    refine .pure ⟨fun hclean target entries htarget hentries => ?_, fun _ hne => ?_,
      fun hnone => ?_⟩
    · obtain ⟨data, hdata, rfl⟩ := hembedded hclean.1 target entries htarget hentries
      exact ⟨data, hdata, rfl⟩
    · rw [hother hne]
      rfl
    · rw [hnone] at hlink
      cases hlink
  case isFalse hlink =>
    refine .pure ⟨fun _ target _ htarget => ?_, fun hsome => absurd hsome hlink, fun _ => rfl⟩
    rw [htarget] at hlink
    exact absurd rfl hlink

/-- A descendant that is read is the dictionary to which the first element of its array leads. -/
theorem reports_descendant (h : r.store.Gives answers) (d : Dictionary) :
    Reports r.tag (fun _ descendant? =>
        ∀ descendant, descendant? = some descendant → answers.Descends d descendant)
      (r.descendant d) := by
  refine (r.reports_entry h d _).bind fun clean value? hvalue => ?_
  split
  case h_1 first rest =>
    refine (r.reports_dictionary h _ first).mono fun clean' d? ⟨_, hd⟩ => ?_
    exact fun descendant hdescendant =>
      ⟨first, rest, hvalue.read _ rfl, hd.read descendant hdescendant⟩
  case h_2 => exact .pure nofun

/-- A composite font is completed by what its descendant declares, and there is a warning where that
cannot be read. -/
theorem reports_composite (h : r.store.Gives answers) (d : Dictionary)
    (encoding? : Option Object) (font : Font) (hwidths : font.widths? = none)
    (hprogram : font.program? = none) :
    Reports r.tag
      (fun clean completed => Completes font completed ∧
        answers.Parts clean d completed .composite ∧ answers.KeepsDefault d .composite completed ∧
        completed.writingMode = directionOf encoding? ∧
        answers.CodeLengthOf clean d encoding? font.charMap? completed.codeLength)
      (r.composite d encoding? font) := by
  refine (r.reports_codeLength h d encoding? font.charMap?).bind fun _ length hlength => ?_
  refine (r.reports_descendant h d).bind fun _ descendant? hdescendant => ?_
  split
  -- without a descendant nothing is kept, and there is a warning
  case h_1 =>
    refine r.reports_warn _ _ _
      ⟨⟨rfl, rfl, rfl⟩, .inl ⟨?_, hwidths, hprogram⟩, ?_, rfl, hlength.weaken And.left⟩
    · exact fun hclean => hclean.2.2
    · intro table htable
      cases hwidths.symm.trans htable
  case h_2 descendant =>
    have hdescends := hdescendant descendant rfl
    refine (r.reports_entry_settles h descendant _).bind
      fun _ default? ⟨hsettles, hdefault⟩ => ?_
    refine (r.reports_compositeWidths h descendant _).bind fun _ widths? hwidths => ?_
    refine (r.reports_descriptor h descendant).bind fun _ descriptor? ⟨_, hdescriptor⟩ => ?_
    refine (r.reports_program? h descriptor?).bind fun _ program? hprogram => .pure ?_
    refine ⟨⟨rfl, rfl, rfl⟩, .inr ⟨descendant, default?, descriptor?, ?_⟩, ?_, rfl,
      hlength.weaken And.left⟩
    · exact
        -- each part is clean if the whole is: the projections pick its step of the sequence
        { descends := hdescends
          default := hdefault.weaken (·.2.2.1)
          widths := hwidths.weaken (·.2.2.2.1)
          descriptor := hdescriptor.weaken (·.2.2.2.2.1)
          program := hprogram.weaken (·.2.2.2.2.2.1) }
    · rintro table rfl
      obtain ⟨items, -, htable⟩ := hwidths.read table rfl
      exact ⟨WidthTable.default_of_ofComposite htable, descendant, default?, hdescends, hsettles,
        rfl⟩

/-- What completing a font adds to what is known of it already. -/
theorem Completes.describes {clean : Prop} {d : Dictionary} {font completed : Font}
    {kind : FontKind} (h : Completes font completed) (hfont : font.kind = kind)
    (hdeclared : .ofName ((d.name? "Subtype").getD "") = kind)
    (hmap : answers.CharMapOf clean d font.charMap?)
    (hparts : answers.Parts clean d completed kind) :
    answers.Describes clean font.tag d completed where
  tag := h.tag
  kind := by rw [h.kind, hfont, hdeclared]
  charMap := by rwa [h.charMap]
  parts := by rwa [h.kind, hfont]

/-- All that is known of the font of a dictionary. -/
theorem reports_font_all (h : r.store.Gives answers) (d : Dictionary) :
    Reports r.tag
      (fun clean font => answers.Describes clean r.tag d font ∧
        answers.KeepsDefault d (.ofName ((d.name? "Subtype").getD "")) font ∧
        (FontKind.ofName ((d.name? "Subtype").getD "") = .composite →
          answers.CodesOf clean d font))
      (r.font d) := by
  refine (r.reports_entry h d _).bind fun _ encoding? hencoding => ?_
  refine (r.reports_charMap h d).bind fun _ charMap? hmap => ?_
  dsimp only
  split
  case h_1 hkind =>
    rw [hkind]
    refine (r.reports_composite h d encoding? _ rfl rfl).mono
      fun _ completed ⟨hcompletes, hparts, hdefault, hdirection, hlength⟩ => ?_
    refine ⟨hcompletes.describes rfl hkind (hmap.weaken (·.2.1)) (hparts.weaken (·.2.2)), hdefault,
      fun _ => ⟨encoding?, hencoding.weaken (·.1), hdirection, ?_⟩⟩
    rw [hcompletes.charMap]
    exact hlength.weaken (·.2.2)
  case h_2 hkind =>
    rw [hkind]
    refine (r.reports_type3 h d encoding? _ rfl).mono
      fun _ _ ⟨hcompletes, hparts, hdefault⟩ => ?_
    exact ⟨hcompletes.describes rfl hkind (hmap.weaken (·.2.1)) (hparts.weaken (·.2.2)), hdefault,
      nofun⟩
  -- all other kinds, those that are not known included, are simple fonts
  case h_3 hcomposite htype3 =>
    refine (r.reports_simple h d encoding? _ rfl hcomposite htype3).mono
      fun _ _ ⟨hcompletes, hparts, hdefault⟩ => ?_
    exact ⟨hcompletes.describes rfl rfl (hmap.weaken (·.2.1)) (hparts.weaken (·.2.2)), hdefault,
      fun hkind => absurd hkind hcomposite⟩

/-- **A font dictionary is read as what it describes**, and for whatever is missing from the font
there is a warning with its tag. -/
theorem reports_font (h : r.store.Gives answers) (d : Dictionary) :
    Reports r.tag (fun clean => answers.Describes clean r.tag d) (r.font d) :=
  (r.reports_font_all h d).mono fun _ _ => And.left

end FontResolver

namespace Font

end Font

end PdfDisplay
