import PdfDisplay.Proofs.CharMap.Meaning

/-!
# Texts of character maps

A character map that was read gives no code an empty text, whatever its stream holds: strings and
lists of strings, single bytes and surrogates without a partner (`CharMap.lookup?_ne_empty`). A
shown string that is not empty therefore never decodes to nothing.
-/

namespace PdfDisplay

theorem Utf16.units_ne_nil {high low : UInt8} {rest : Bytes} :
    Utf16.units (high :: low :: rest) ≠ [] := by
  rw [units]
  exact List.cons_ne_nil _ _

namespace Mapping

/-- The text that a mapping was written with. -/
def written : Mapping → List Char
  | char _ text => text
  | range _ _ text => text

theorem advance_ne_nil {offset : Nat} {text : List Char} (h : text ≠ []) :
    advance offset text ≠ [] := by
  fun_cases advance offset text with
  | case1 => exact absurd rfl h
  | case2 | case3 => exact List.cons_ne_nil _ _

theorem ne_nil_of_text? {mapping : Mapping} {code : Nat} {text : List Char}
    (hwritten : mapping.written ≠ []) (h : mapping.text? code = some text) : text ≠ [] := by
  cases mapping with
  | char c written =>
    rw [text?] at h
    split at h
    case isTrue => cases h; exact hwritten
    case isFalse => cases h
  | range first last written =>
    rw [text?] at h
    split at h
    case isTrue => cases h; exact advance_ne_nil hwritten
    case isFalse => cases h

end Mapping

namespace CharMap

theorem writtenText_ne_nil {bytes : Bytes} (h : IsText bytes) : writtenText bytes ≠ [] := by
  refine Utf16.decode_ne_nil ?_
  match bytes with
  | [] => exact absurd h (by decide)
  | [b] => exact List.cons_ne_nil _ _
  | _ :: _ :: _ => exact Utf16.units_ne_nil

theorem ne_nil_of_textOf {bytes : Bytes} {text : List Char} (h : textOf bytes = .ok text) :
    text ≠ [] := by
  obtain ⟨htext, rfl⟩ := textOf_eq_ok_iff.mp h
  exact writtenText_ne_nil htext

/-- Whether all mappings were written with a text. -/
def HaveTexts (mappings : List Mapping) : Prop := ∀ mapping ∈ mappings, mapping.written ≠ []

theorem HaveTexts.cons {mapping : Mapping} {mappings : List Mapping}
    (h : mapping.written ≠ []) (hrest : HaveTexts mappings) :
    HaveTexts (mapping :: mappings) :=
  List.forall_mem_cons.mpr ⟨h, hrest⟩

theorem written_ne_nil_of_charEntry {source target : Lexeme} {mapping : Mapping}
    (h : charEntry source target = .ok (some mapping)) : mapping.written ≠ [] := by
  obtain ⟨entry, hentry, hmapping⟩ := charEntry_eq_ok_iff.mp h
  cases hentry with
  | hexChar _ htarget | literalChar _ htarget =>
    cases hmapping
    exact writtenText_ne_nil htarget
  | glyph => cases hmapping

theorem haveTexts_charEntries {read mappings : List Mapping} {body : List Lexeme}
    (h : charEntries read body = .ok mappings) (hread : HaveTexts read) : HaveTexts mappings := by
  match body with
  | [] | [_] => cases h; exact hread
  | source :: target :: rest =>
    rw [charEntries] at h
    obtain ⟨mapping?, hpair, h⟩ := exists_ok_of_bind h
    split at h
    case h_2 => exact haveTexts_charEntries h hread
    case h_1 mapping =>
      exact haveTexts_charEntries h (.cons (written_ne_nil_of_charEntry hpair) hread)

mutual

theorem haveTexts_rangeEntries {read mappings : List Mapping} {body : List Lexeme}
    (h : rangeEntries read body = .ok mappings) (hread : HaveTexts read) : HaveTexts mappings := by
  match body with
  | [] => rw [rangeEntries] at h; cases h; exact hread
  | [_] => rw [rangeEntries] at h; cases h
  | low :: high :: tail =>
    -- a list of texts is read by the other function, which hands back to this one behind it
    obtain ⟨target, rest, rfl, rfl | ⟨target, rfl⟩⟩ := exists_target_of_rangeEntries h
    · rw [rangeEntries] at h
      split at h
      case h_1 => cases h
      case h_2 => exact haveTexts_rangeTexts h hread
    · rw [rangeEntries] at h
      split at h
      case h_1 => cases h
      case h_2 =>
        split at h
        case h_1 => cases h
        case h_2 text htext => exact haveTexts_rangeEntries h (.cons (ne_nil_of_textOf htext) hread)

theorem haveTexts_rangeTexts {read mappings : List Mapping} {code last : Nat} {body : List Lexeme}
    (h : rangeTexts read code last body = .ok mappings) (hread : HaveTexts read) :
    HaveTexts mappings := by
  match body with
  | [] => simp only [rangeTexts, reduceCtorEq] at h
  | l :: rest =>
    cases l with
    | arrayEnd =>
      rw [rangeTexts] at h
      exact haveTexts_rangeEntries h hread
    | hexString bytes =>
      rw [rangeTexts] at h
      split at h
      case isFalse => exact haveTexts_rangeTexts h hread
      case isTrue =>
        split at h
        case h_1 => cases h
        case h_2 text htext => exact haveTexts_rangeTexts h (.cons (ne_nil_of_textOf htext) hread)
    | _ => simp only [rangeTexts, reduceCtorEq] at h

end

theorem haveTexts_addSection {kind : SectionKind} {body : List Lexeme}
    {contents contents' : Contents} (h : addSection contents kind.endWord body = .ok contents')
    (hread : HaveTexts contents.mappings) : HaveTexts contents'.mappings := by
  cases kind with
  | codeSpaces =>
    rw [addSection_codeSpaces] at h
    obtain ⟨length, -, h⟩ := exists_ok_of_bind h
    cases h
    exact hread
  | chars =>
    rw [addSection_chars] at h
    obtain ⟨mappings, hsection, h⟩ := exists_ok_of_bind h
    cases h
    rw [charSection] at hsection
    split at hsection
    case isTrue => cases hsection
    case isFalse => exact haveTexts_charEntries hsection hread
  | ranges =>
    rw [addSection_ranges] at h
    obtain ⟨mappings, hsection, h⟩ := exists_ok_of_bind h
    cases h
    exact haveTexts_rangeEntries hsection hread

theorem HaveTexts.of_addsUp {parts : List (SectionKind × List Lexeme)}
    {contents contents' : Contents} (h : AddsUp parts contents contents')
    (hread : HaveTexts contents.mappings) : HaveTexts contents'.mappings := by
  induction h with
  | nil => exact hread
  | cons hadd _ ih => exact ih (haveTexts_addSection hadd hread)

/-- **No code has an empty text** in a map that was read. -/
theorem lookup?_ne_empty {data : Bytes} {map : CharMap} (h : parse data = .ok map) {code : Nat}
    {text : String} (hlookup : map.lookup? code = some text) : text ≠ "" := by
  obtain ⟨contents, hread, hmap⟩ := exists_ok_of_bind h
  obtain ⟨_, _, _, _, _, _, hadds⟩ := exists_addsUp_of_readSections hread
  have htexts : HaveTexts contents.mappings := .of_addsUp hadds nofun
  cases hmap
  rw [lookup?_ofMappings, List.reverse_reverse] at hlookup
  obtain ⟨chars, hfound, rfl⟩ := Option.map_eq_some_iff.mp hlookup
  obtain ⟨mapping, hmapping, htext⟩ := List.exists_of_findSome?_eq_some hfound
  have hne := Mapping.ne_nil_of_text? (htexts mapping hmapping) htext
  exact fun hempty => hne (String.ofList_eq_empty_iff.mp hempty)

end CharMap

end PdfDisplay
