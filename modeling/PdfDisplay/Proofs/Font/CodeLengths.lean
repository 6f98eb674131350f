import PdfDisplay.Proofs.CharMap.CodeSpaces
import PdfDisplay.Proofs.Font.Completeness
import PdfDisplay.Proofs.Object.Reading

/-!
# Codes of composite fonts

How many bytes the codes of a composite font have, and in which direction it is written, is declared
by its encoding; the character map of the font stands in where the encoding is not referred to.
`Font.yields_resolve_codes` says what becomes of each shape of encoding in a font without warnings.
An embedded encoding whose data cannot be decoded is reported, but one whose data are no character
map is not: its codes have two bytes.
-/

namespace PdfDisplay

namespace Answers

variable (answers : Answers)

/-- What a composite font takes from its encoding and its character map where there is no
warning. -/
structure TakesCodes (d : Dictionary) (encoding? : Option Object) (font : Font) : Prop where
  /-- The encoding is absent, or it is read. -/
  encoding : d.Follows "Encoding" answers.Leads True encoding?
  /-- The direction is vertical if the encoding says so. -/
  vertical : font.writingMode = .vertical ↔
    (∃ name, encoding? = some (.name name) ∧ "-V".toList <:+ name.toList) ∨
      ∃ entries, encoding? = some (.dictionary entries) ∧
        (Dictionary.mk entries).integer? "WMode" = some 1
  /-- The data of an embedded encoding are decoded. They declare the length, which is two if they
  declare none or are no character map. -/
  embedded : ∀ target entries, d.get? "Encoding" = some (.reference target) →
    encoding? = some (.dictionary entries) → ∃ data, answers.decoded target (.ok data) ∧
      (∀ map, CharMap.parse data = .ok map →
        ∃ length?, CharMap.DeclaresLength data length? ∧ font.codeLength = length?.getD 2) ∧
      ∀ e, CharMap.parse data = .error e → font.codeLength = 2
  /-- Any other object that is referred to declares nothing. -/
  other : ∀ target, d.get? "Encoding" = some (.reference target) →
    (∀ entries, encoding? ≠ some (.dictionary entries)) → font.codeLength = 2
  /-- Without a reference the length is the one that the data of the character map declare, if the
  font has a character map. -/
  own : (∀ target, d.get? "Encoding" ≠ some (.reference target)) →
    (font.charMap? = none → font.codeLength = 2) ∧
    ∀ map, font.charMap? = some map → ∃ target data length?,
      d.get? "ToUnicode" = some (.reference target) ∧ answers.decoded target (.ok data) ∧
        CharMap.parse data = .ok map ∧ CharMap.DeclaresLength data length? ∧
        font.codeLength = length?.getD 2

end Answers

namespace Dictionary

variable {d : Dictionary} {key : String}

theorem reference?_eq_some_iff {target : ObjectRef} :
    d.reference? key = some target ↔ d.get? key = some (.reference target) := by
  rw [reference?, Option.bind_eq_some_iff]
  constructor
  · rintro ⟨value, hvalue, htarget⟩
    cases value with
    | reference other =>
      cases htarget
      exact hvalue
    | _ => cases htarget
  · intro h
    exact ⟨_, h, rfl⟩

theorem reference?_eq_none_iff :
    d.reference? key = none ↔ ∀ target, d.get? key ≠ some (.reference target) := by
  rw [Option.eq_none_iff_forall_ne_some]
  exact forall_congr' fun target => not_congr reference?_eq_some_iff

end Dictionary

namespace FontResolver

theorem directionOf_eq_vertical_iff (encoding? : Option Object) :
    directionOf encoding? = .vertical ↔
      (∃ name, encoding? = some (.name name) ∧ "-V".toList <:+ name.toList) ∨
        ∃ entries, encoding? = some (.dictionary entries) ∧
          (Dictionary.mk entries).integer? "WMode" = some 1 := by
  fun_cases directionOf encoding? with
  | case1 | case2 | case3 | case4 | case5 => simp_all

end FontResolver

namespace Answers

variable {answers : Answers} {d : Dictionary} {font : Font}

/-- What is known of the code length and of the character map comes to what their data declare. -/
theorem CodesOf.takesCodes (h : answers.CodesOf True d font)
    (hmap : answers.CharMapOf True d font.charMap?) :
    ∃ encoding?, answers.TakesCodes d encoding? font := by
  obtain ⟨encoding?, hencoding, hdirection, hlength⟩ := h
  -- in the order of the cases: an embedded encoding, another object behind a reference, none
  refine ⟨encoding?, hencoding, ?_, fun target entries htarget hentries => ?_,
    fun target htarget hother => ?_, fun hnone => ⟨fun habsent => ?_, fun map hpresent => ?_⟩⟩
  · rw [hdirection]
    exact FontResolver.directionOf_eq_vertical_iff encoding?
  · have hlink := Dictionary.reference?_eq_some_iff.mpr htarget
    obtain ⟨data, hdata, hdeclared⟩ := hlength.embedded trivial target entries hlink hentries
    refine ⟨data, hdata, fun map hread => ?_, fun e hread => ?_⟩
    · rw [hread] at hdeclared
      exact ⟨map.codeLength?, CharMap.declaresLength_of_parse hread, hdeclared⟩
    · rw [hread] at hdeclared
      exact hdeclared
  · refine hlength.other ?_ hother
    rw [Dictionary.reference?_eq_some_iff.mpr htarget]
    rfl
  · rw [hlength.own (Dictionary.reference?_eq_none_iff.mpr hnone), habsent]
    rfl
  · obtain ⟨target, hlink, data, hdata, hread⟩ := hmap.read map hpresent
    refine ⟨target, data, map.codeLength?, hlink, hdata, hread,
      CharMap.declaresLength_of_parse hread, ?_⟩
    rw [hlength.own (Dictionary.reference?_eq_none_iff.mpr hnone), hpresent]
    rfl

end Answers

namespace Font

/-- **Where a composite font without warnings has its codes from.** Its encoding, if there is one,
is read, and the data of an embedded one are decoded. If these are a character map, then the code
length is the greatest that they declare. -/
theorem yields_resolve_codes {m : Type → Type} [Monad m] [LawfulMonad m] {store : ObjectStore m}
    {answers : Answers} (h : store.Gives answers) (tag : String) (d : Dictionary)
    (htype : d.name? "Subtype" = some "Type0") :
    Yields (fun result => result.warnings = [] →
        ∃ encoding?, answers.TakesCodes d encoding? result.value)
      (resolve store tag d) := by
  refine (Reports.collect (FontResolver.reports_font_all ⟨store, tag⟩ h d)).mono ?_
  intro result ⟨_, hdescribes, _, hcodes⟩ hclean
  rw [eq_true hclean, htype] at hcodes
  rw [eq_true hclean] at hdescribes
  exact (hcodes rfl).takesCodes hdescribes.charMap

/-- An embedded encoding with codes of one byte, which is written downwards. -/
theorem resolve_codes_embedded :
    let data := Utf8.encode "begincodespacerange<00><FF>endcodespacerange"
    let store : ObjectStore Id :=
      ⟨fun _ => .ok "<</WMode 1>>", fun _ => .ok data, fun _ => .ok data⟩
    let d : Dictionary := ⟨[("Subtype", .name "Type0"), ("Encoding", .reference ⟨1, 0⟩),
      ("DescendantFonts", .array [.dictionary []])]⟩
    let result := resolve store "F1" d
    d.name? "Subtype" = some "Type0" ∧ result.warnings = [] ∧
      CharMap.DeclaresLength data (some 1) ∧ result.value.codeLength = 1 ∧
      ∃ encoding?, store.answers.TakesCodes d encoding? result.value := by
  intro data store d result
  have hclean : result.warnings = [] := by decide +kernel
  have htakes := possible_pure _ (yields_resolve_codes store.gives_answers "F1" d rfl) hclean
  have hscans : Lexeme.Scans data [.keyword "begincodespacerange", .hexString [0x00],
      .hexString [0xFF], .keyword "endcodespacerange"] [] := by decide +kernel
  have hsplits := @CharMap.Splits.body .codeSpaces [.hexString [0x00], .hexString [0xFF]] [] []
    (by decide) .nil
  exact ⟨rfl, hclean, ⟨_, _, _, hscans, rfl, hsplits, rfl⟩, by decide +kernel, htakes⟩

/-- An embedded encoding that breaks off behind its code spaces: there is no warning, and its codes
have two bytes and not one. -/
theorem not_resolve_codes_embedded :
    ¬ ∀ (store : ObjectStore Id) (tag : String) (d : Dictionary) (target : ObjectRef)
        (entries : List (String × Object)), d.name? "Subtype" = some "Type0" →
        d.get? "Encoding" = some (.reference target) →
        store.answers.Leads (.reference target) (.dictionary entries) →
        (resolve store tag d).warnings = [] →
        ∃ data map, store.decoded target = .ok data ∧ CharMap.parse data = .ok map ∧
          (resolve store tag d).value.codeLength = map.codeLength?.getD 2 := by
  intro h
  let data := Utf8.encode "begincodespacerange<00><FF>endcodespacerange beginbfchar<01>"
  let store : ObjectStore Id := ⟨fun _ => .ok "<<>>", fun _ => .ok data, fun _ => .ok data⟩
  let d : Dictionary := ⟨[("Subtype", .name "Type0"), ("Encoding", .reference ⟨1, 0⟩),
    ("DescendantFonts", .array [.dictionary []])]⟩
  have hleads : store.answers.Leads (.reference ⟨1, 0⟩) (.dictionary []) :=
    .reference rfl (Object.parse?_of_lexemes
      (by decide +kernel : Token.lexemes (Utf8.encode "<<>>") = [.dictionaryStart, .dictionaryEnd])
      rfl)
  obtain ⟨data', map, hdata, hread, -⟩ :=
    h store "F1" d ⟨1, 0⟩ [] rfl rfl hleads (by decide +kernel)
  cases hdata
  -- the section behind the code spaces has no end, so that there is no map
  have hbroken : (CharMap.parse data).toOption.isSome = false := by decide +kernel
  rw [hread] at hbroken
  cases hbroken

/-- The length that a character map with entries declares is that of the font, where the encoding is
not referred to. -/
theorem codeLength_of_charMap {store : ObjectStore Id} {tag : String} {d : Dictionary}
    {target : ObjectRef} {data : Bytes} {map : CharMap} (htype : d.name? "Subtype" = some "Type0")
    (hencoding : d.reference? "Encoding" = none)
    (hlink : d.get? "ToUnicode" = some (.reference target))
    (hdata : store.decoded target = .ok data) (hread : CharMap.parse data = .ok map)
    (hentries : map.isEmpty = false) (hclean : (resolve store tag d).warnings = []) :
    (resolve store tag d).value.codeLength = map.codeLength?.getD 2 := by
  obtain ⟨-, hdescribes, -, hcodes⟩ := possible_pure _
    (Reports.collect (FontResolver.reports_font_all ⟨store, tag⟩ store.gives_answers d))
  change (resolve store tag d).warnings = [] at hclean
  rw [htype] at hcodes
  obtain ⟨encoding?, -, -, hlength⟩ := hcodes rfl
  obtain ⟨map', ⟨data', hdata', hread'⟩, hmap⟩ := hdescribes.charMap.kept hclean target hlink
  obtain rfl : data = data' := Except.ok.inj (hdata.symm.trans hdata'.symm)
  obtain rfl : map = map' := Except.ok.inj (hread.symm.trans hread')
  rw [hentries] at hmap
  have hown := hlength.own hencoding
  rw [hmap] at hown
  exact hown

end Font

end PdfDisplay
