import Mathlib.Data.Nat.Digits.Lemmas
import PdfDisplay.Proofs.CharMap.Meaning

/-!
# Ranges with a list of texts

A range of codes may have a list of texts, one for each code. The texts are given to the codes from
the first one on (`CharMap.listEntries`), and a code has the text at its place in the list
(`CharMap.listedTarget?`); further texts are passed over. Codes do not count past the greatest one,
so that the greatest code is the exception: texts that are left over all go to it, and the last of
them counts.

`CharMap.parse_listForm` says what a list among any other entries of a stream does: later entries go
before it and earlier ones behind it. That a list with more texts than codes should leave the texts
too many out at the greatest code as well is false (`CharMap.not_parse_listForm`).
-/

namespace PdfDisplay.CharMap

/-! ## Lists -/

/-- Whether bytes are the bounds of a range: two codes in order, and not too far apart. -/
structure IsRange (low high : Bytes) : Prop where
  /-- The first one is a code. -/
  isCode_low : IsCode low
  /-- The last one is a code. -/
  isCode_high : IsCode high
  /-- They are in order. -/
  order : codeNumber low ≤ codeNumber high
  /-- They are not too far apart. -/
  span : codeNumber high - codeNumber low ≤ 0xFFFF

/-- The lexemes of a range with a list of texts. -/
def listForm (low high : Bytes) (targets : List Bytes) : List Lexeme :=
  .hexString low :: .hexString high :: .arrayStart :: (targets.map .hexString ++ [.arrayEnd])

/-- The single codes that a list makes, from a code on up to the last one. -/
def listEntries (code last : Nat) : List Bytes → List Entry
  | [] => []
  | target :: targets =>
    let rest := listEntries (min (code + 1) Mapping.maxCode) last targets
    if code ≤ last then .char code (writtenText target) :: rest else rest

/-- The text, as it is written, that a list gives a code: the one at the place of the code in the
list. Of those that are left at the greatest code it is the last one. -/
def listedTarget? (first last : Nat) (targets : List Bytes) (code : Nat) : Option Bytes :=
  if first ≤ code ∧ code ≤ last then
    if code < Mapping.maxCode then targets[code - first]?
    else (targets.drop (code - first)).getLast?
  else none

theorem codeNumber_le_maxCode {bytes : Bytes} (h : IsCode bytes) :
    codeNumber bytes ≤ Mapping.maxCode := by
  have hdigits : ∀ digit ∈ bytes.reverse.map UInt8.toNat, digit < 256 := by
    intro digit hdigit
    obtain ⟨b, -, rfl⟩ := List.mem_map.mp hdigit
    exact b.toNat_lt
  have hless : codeNumber bytes < 256 ^ bytes.length := by
    have := Nat.ofDigits_lt_base_pow_length (by decide) hdigits
    rwa [List.length_map, List.length_reverse] at this
  have hpow : 256 ^ bytes.length ≤ 256 ^ 4 := Nat.pow_le_pow_right (by decide) h.2
  rw [Mapping.maxCode]
  omega

/-- Where no text is too many, or the greatest code is not in the range, a code has the text at its
place in the list. -/
theorem listedTarget?_of_room {first last : Nat} {targets : List Bytes}
    (hlast : last ≤ Mapping.maxCode)
    (hroom : last < Mapping.maxCode ∨ targets.length ≤ last - first + 1) (code : Nat) :
    listedTarget? first last targets code =
      if first ≤ code ∧ code ≤ last then targets[code - first]? else none := by
  rw [listedTarget?]
  split
  case isFalse => rfl
  case isTrue hcode =>
    split
    case isTrue => rfl
    case isFalse hgreatest =>
      -- only at the greatest code do further texts go on to the same code, and there is no room for
      -- more than one
      have hlength : (targets.drop (code - first)).length ≤ 1 := by
        rw [List.length_drop]
        omega
      rw [List.getLast?_eq_getElem?, List.getElem?_drop]
      congr 1
      omega

/-- The texts of a list are given one after another: the first one goes to the first code, and the
others to the codes behind it, before which they go where they come to the same code. -/
theorem listedTarget?_cons {first last : Nat} (target : Bytes) (targets : List Bytes)
    (hfirst : first ≤ Mapping.maxCode) (hlast : last ≤ Mapping.maxCode) (code : Nat) :
    listedTarget? first last (target :: targets) code =
      (listedTarget? (min (first + 1) Mapping.maxCode) last targets code).or
        (if code = first ∧ code ≤ last then some target else none) := by
  rw [listedTarget?, listedTarget?]
  by_cases hcode : first ≤ code ∧ code ≤ last
  · rw [if_pos hcode]
    obtain rfl | hless := Nat.eq_or_lt_of_le hcode.1
    · have hthere : first = first ∧ first ≤ last := ⟨rfl, hcode.2⟩
      rw [if_pos hthere, Nat.sub_self]
      split
      case isTrue hsmall =>
        rw [if_neg (by omega)]
        rfl
      case isFalse hgreatest =>
        -- at the greatest code the other texts go to the same code
        have hnext : min (first + 1) Mapping.maxCode = first := by omega
        rw [hnext, if_pos hcode, Nat.sub_self, List.drop_zero, List.drop_zero, List.getLast?_cons]
        cases targets.getLast? <;> rfl
    · have hnext : min (first + 1) Mapping.maxCode = first + 1 := by omega
      have hbehind : first + 1 ≤ code ∧ code ≤ last := ⟨hless, hcode.2⟩
      have helsewhere : ¬ (code = first ∧ code ≤ last) := by omega
      have hplace : code - first = code - (first + 1) + 1 := by omega
      rw [if_neg helsewhere, Option.or_none, hnext, if_pos hbehind, hplace,
        List.getElem?_cons_succ, List.drop_succ_cons]
  · rw [if_neg hcode, if_neg (by omega), if_neg (by omega)]
    rfl

/-- The single codes that a list makes give every code the text that the list gives it. -/
theorem findSome?_listEntries {first last : Nat} (targets : List Bytes)
    (hfirst : first ≤ Mapping.maxCode) (hlast : last ≤ Mapping.maxCode) (code : Nat) :
    (listEntries first last targets).reverse.findSome? (·.text? code) =
      (listedTarget? first last targets code).map writtenText := by
  -- the first code goes up with the texts, but not past the greatest one
  induction targets generalizing first with
  | nil =>
    rw [listedTarget?]
    split <;> simp [listEntries]
  | cons target targets ih =>
    have hrest := ih (Nat.min_le_right (first + 1) Mapping.maxCode)
    rw [listedTarget?_cons target targets hfirst hlast, listEntries]
    split
    case isTrue h =>
      rw [List.reverse_cons, List.findSome?_append, hrest, List.findSome?_singleton, Entry.text?]
      by_cases hcode : code = first
      · rw [if_pos hcode, if_pos ⟨hcode, hcode ▸ h⟩]
        cases listedTarget? _ last targets code <;> rfl
      · rw [if_neg hcode, if_neg fun hboth => hcode hboth.1, Option.or_none, Option.or_none]
    case isFalse h =>
      rw [hrest, if_neg (by omega), Option.or_none]

/-! ## Sections with lists -/

/-- The entries that the lexemes of a section of ranges hold, where ranges may have lists. -/
inductive HoldsRanges : List Lexeme → List Entry → Prop where
  /-- No range. -/
  | nil : HoldsRanges [] []
  /-- A range with one text. -/
  | text {entry : Entry} {ls rest : List Lexeme} {entries : List Entry}
    (h : SectionKind.IsEntry .ranges ls entry) (hrest : HoldsRanges rest entries) :
    HoldsRanges (ls ++ rest) (entry :: entries)
  /-- A range with a list of texts. -/
  | list {low high : Bytes} {targets : List Bytes} {rest : List Lexeme} {entries : List Entry}
    (hrange : IsRange low high) (htargets : ∀ target ∈ targets, IsText target)
    (hrest : HoldsRanges rest entries) :
    HoldsRanges (listForm low high targets ++ rest)
      (listEntries (codeNumber low) (codeNumber high) targets ++ entries)

/-- The entries that sections hold, where ranges may have lists. -/
inductive HoldsLists : List (SectionKind × List Lexeme) → List Entry → Prop where
  /-- No section. -/
  | nil : HoldsLists [] []
  /-- A section of any kind. -/
  | body {kind : SectionKind} {body : List Lexeme} {parts : List (SectionKind × List Lexeme)}
    {first entries : List Entry} (h : kind.IsBody body first) (hrest : HoldsLists parts entries) :
    HoldsLists ((kind, body) :: parts) (first ++ entries)
  /-- A section of ranges with lists. -/
  | ranges {body : List Lexeme} {parts : List (SectionKind × List Lexeme)}
    {first entries : List Entry} (h : HoldsRanges body first) (hrest : HoldsLists parts entries) :
    HoldsLists ((.ranges, body) :: parts) (first ++ entries)

theorem HoldsRanges.append {first second : List Lexeme} {entries entries' : List Entry}
    (h : HoldsRanges first entries) (h' : HoldsRanges second entries') :
    HoldsRanges (first ++ second) (entries ++ entries') := by
  induction h with
  | nil => exact h'
  | text hentry _ ih =>
    rw [List.append_assoc]
    exact .text hentry ih
  | list hrange htargets _ ih =>
    rw [List.append_assoc, List.append_assoc]
    exact .list hrange htargets ih

theorem HoldsLists.append {first second : List (SectionKind × List Lexeme)}
    {entries entries' : List Entry} (h : HoldsLists first entries)
    (h' : HoldsLists second entries') : HoldsLists (first ++ second) (entries ++ entries') := by
  induction h with
  | nil => exact h'
  | body hbody _ ih =>
    rw [List.append_assoc]
    exact .body hbody ih
  | ranges hranges _ ih =>
    rw [List.append_assoc]
    exact .ranges hranges ih

/-! ## Reading lists -/

theorem codeLength?_listEntries (code last : Nat) (targets : List Bytes) :
    (listEntries code last targets).filterMap Entry.codeLength? = [] := by
  induction targets generalizing code with
  | nil => rfl
  | cons target targets ih =>
    rw [listEntries]
    split
    case isTrue =>
      rw [List.filterMap_cons_none rfl]
      exact ih _
    case isFalse => exact ih _

/-- The texts of a list are read up to its closing bracket. -/
theorem rangeTexts_of_targets {targets : List Bytes} (h : ∀ target ∈ targets, IsText target)
    (read : List Mapping) (code last : Nat) (rest : List Lexeme) :
    rangeTexts read code last (targets.map .hexString ++ .arrayEnd :: rest) =
      rangeEntries (((listEntries code last targets).filterMap Entry.mapping?).reverse ++ read)
        rest := by
  -- by induction over the texts; those beyond the last code are read and dropped
  induction targets generalizing read code with
  | nil => simp only [List.map_nil, List.nil_append, rangeTexts]; rfl
  | cons target targets ih =>
    obtain ⟨htarget, htargets⟩ := List.forall_mem_cons.mp h
    rw [List.map_cons, List.cons_append, rangeTexts, listEntries]
    split
    case isTrue =>
      have hmapping : (Entry.char code (writtenText target)).mapping? =
          some (.char code (writtenText target)) := rfl
      rw [textOf_eq_ok_iff.mpr ⟨htarget, rfl⟩, List.filterMap_cons_some hmapping,
        List.reverse_cons, List.append_assoc]
      exact ih htargets _ _
    case isFalse => exact ih htargets _ _

/-- **A range with a list of texts is read as single codes**, one for each text, counting on from
the first code. -/
theorem rangeEntries_of_listForm {low high : Bytes} {targets : List Bytes}
    (hrange : IsRange low high) (htargets : ∀ target ∈ targets, IsText target)
    (read : List Mapping) (rest : List Lexeme) :
    rangeEntries read (listForm low high targets ++ rest) =
      rangeEntries (((listEntries (codeNumber low) (codeNumber high) targets).filterMap
        Entry.mapping?).reverse ++ read) rest := by
  have hbounds := rangeBounds_eq_ok_iff.mpr ⟨low, high, rfl, rfl, hrange.isCode_low,
    hrange.isCode_high, rfl, rfl, hrange.order, hrange.span⟩
  have hshape : listForm low high targets ++ rest = .hexString low :: .hexString high ::
      .arrayStart :: (targets.map .hexString ++ .arrayEnd :: rest) := by
    simp [listForm]
  rw [hshape, rangeEntries, hbounds]
  exact rangeTexts_of_targets htargets read _ _ rest

theorem rangeEntries_of_holdsRanges {body : List Lexeme} {entries : List Entry}
    (h : HoldsRanges body entries) (read : List Mapping) :
    rangeEntries read body = .ok ((entries.filterMap Entry.mapping?).reverse ++ read) ∧
      entries.filterMap Entry.codeLength? = [] := by
  induction h generalizing read with
  | nil => exact ⟨by rw [rangeEntries]; rfl, rfl⟩
  | text hentry _ ih =>
    obtain ⟨mapping, hmapping, hlength, hentries⟩ := rangeEntries_of_isEntry hentry read _
    obtain ⟨hread, hlengths⟩ := ih (mapping :: read)
    rw [hentries, hread, List.filterMap_cons_some hmapping, List.reverse_cons, List.append_assoc,
      List.filterMap_cons_none hlength]
    exact ⟨rfl, hlengths⟩
  -- a list of texts is read as the single codes that it stands for
  | list hrange htargets _ ih =>
    obtain ⟨hread, hlengths⟩ := ih _
    rw [rangeEntries_of_listForm hrange htargets, hread, List.filterMap_append,
      List.filterMap_append, List.reverse_append, List.append_assoc, codeLength?_listEntries,
      hlengths]
    exact ⟨rfl, rfl⟩

theorem addSection_of_holdsRanges {body : List Lexeme} {entries : List Entry}
    (h : HoldsRanges body entries) (contents : Contents) :
    addSection contents SectionKind.ranges.endWord body = .ok (contents.add entries) := by
  obtain ⟨hread, hlengths⟩ := rangeEntries_of_holdsRanges h contents.mappings
  rw [addSection_ranges, hread, Contents.add, hlengths]
  rfl

/-- Parts with lists add up to the entries that they hold, part by part. -/
theorem HoldsLists.addsUp {parts : List (SectionKind × List Lexeme)} {entries : List Entry}
    (h : HoldsLists parts entries) (contents : Contents) :
    AddsUp parts contents (contents.add entries) := by
  induction h generalizing contents with
  | nil => exact .nil
  | body hbody _ ih =>
    rw [Contents.add_append]
    exact .cons (addSection_of_isBody hbody contents) (ih _)
  | ranges hranges _ ih =>
    rw [Contents.add_append]
    exact .cons (addSection_of_holdsRanges hranges contents) (ih _)

open Lexeme (Scans scan)

/-- **A stream whose ranges may have lists is read**, and a code has the text that the last entry
which covers it gives it. -/
theorem parse_of_holdsLists {text last : Bytes} {ls : List Lexeme}
    {parts : List (SectionKind × List Lexeme)} {entries : List Entry} (hscans : Scans text ls last)
    (hdone : scan last = .done) (hsplits : Splits ls parts) (hholds : HoldsLists parts entries) :
    ∃ map, parse text = .ok map ∧ ∀ code,
      map.lookup? code = (entries.reverse.findSome? (·.text? code)).map String.ofList := by
  have hread := readSections_of_addsUp hsplits (hholds.addsUp ⟨none, []⟩) hscans hdone
  refine ⟨_, parse_of_readSections hread, fun code => ?_⟩
  rw [lookup?_ofMappings, Contents.add, List.append_nil, List.reverse_reverse,
    ← List.filterMap_reverse, findSome?_filterMap_mapping?]

/-- **What a list of texts does.** In a stream that is made of entries, a list in a section of
ranges gives the codes of its range the texts at their places, over what the entries in front of it
give them, and changes no other code; entries behind it go over it in turn. Unless there are more
texts than codes up to the greatest code, further texts have no effect. -/
theorem parse_listForm {text last : Bytes} {ls head tail : List Lexeme}
    {before after : List (SectionKind × List Lexeme)} {low high : Bytes} {targets : List Bytes}
    {first second third fourth : List Entry} (hscans : Scans text ls last)
    (hdone : scan last = .done)
    (hsplits : Splits ls
      (before ++ (.ranges, head ++ (listForm low high targets ++ tail)) :: after))
    (hbefore : HoldsLists before first) (hhead : HoldsRanges head second)
    (hrange : IsRange low high) (htargets : ∀ target ∈ targets, IsText target)
    (htail : HoldsRanges tail third) (hafter : HoldsLists after fourth) :
    ∃ map, parse text = .ok map ∧
      (∀ code, map.lookup? code =
        (((third ++ fourth).reverse.findSome? (·.text? code)).or
          (((listedTarget? (codeNumber low) (codeNumber high) targets code).map writtenText).or
            ((first ++ second).reverse.findSome? (·.text? code)))).map String.ofList) ∧
      (codeNumber high < Mapping.maxCode ∨
          targets.length ≤ codeNumber high - codeNumber low + 1 →
        ∀ code, listedTarget? (codeNumber low) (codeNumber high) targets code =
          if codeNumber low ≤ code ∧ code ≤ codeNumber high then targets[code - codeNumber low]?
          else none) := by
  have hlow := codeNumber_le_maxCode hrange.isCode_low
  have hhigh := codeNumber_le_maxCode hrange.isCode_high
  have hranges : HoldsRanges (head ++ (listForm low high targets ++ tail)) _ :=
    hhead.append (.list hrange htargets htail)
  have hholds := hbefore.append (.ranges hranges hafter)
  obtain ⟨map, hmap, hlookup⟩ := parse_of_holdsLists hscans hdone hsplits hholds
  refine ⟨map, hmap, fun code => ?_, fun hroom => listedTarget?_of_room hhigh hroom⟩
  rw [hlookup code, ← findSome?_listEntries targets hlow hhigh, ← List.findSome?_append,
    ← List.findSome?_append]
  simp only [List.reverse_append, List.append_assoc]

/-- A list with fewer texts than codes, which takes the place of a single code. -/
theorem parse_listForm_overlay :
    let text := Utf8.encode
      "beginbfchar<FFFFFFFD><41>endbfchar beginbfrange<FFFFFFFD><FFFFFFFF>[<42><43>]endbfrange"
    let low : Bytes := [0xFF, 0xFF, 0xFF, 0xFD]
    let high : Bytes := [0xFF, 0xFF, 0xFF, 0xFF]
    let targets : List Bytes := [[0x42], [0x43]]
    IsRange low high ∧ (∀ target ∈ targets, IsText target) ∧
      targets.length ≤ codeNumber high - codeNumber low + 1 ∧
      ∃ map, parse text = .ok map ∧ map.lookup? 0xFFFFFFFC = none ∧
        map.lookup? 0xFFFFFFFD = some "B" ∧ map.lookup? 0xFFFFFFFE = some "C" ∧
        map.lookup? 0xFFFFFFFF = none := by
  intro text low high targets
  have hrange : IsRange low high := ⟨by decide, by decide, by decide, by decide⟩
  have htargets : ∀ target ∈ targets, IsText target := by decide
  let ls : List Lexeme := [.keyword "beginbfchar", .hexString low, .hexString [0x41],
    .keyword "endbfchar", .keyword "beginbfrange", .hexString low, .hexString high, .arrayStart,
    .hexString [0x42], .hexString [0x43], .arrayEnd, .keyword "endbfrange"]
  have hscans : Scans text ls [] := by decide +kernel
  have hsplits : Splits ls
      ([(.chars, [.hexString low, .hexString [0x41]])] ++
        (.ranges, [] ++ (listForm low high targets ++ [])) :: []) :=
    @Splits.body .chars [_, _] _ _ (by decide)
      (@Splits.body .ranges [_, _, _, _, _, _] _ _ (by decide) .nil)
  have hbefore : HoldsLists [(.chars, [.hexString low, .hexString [0x41]])]
      [.char (codeNumber low) (writtenText [0x41])] :=
    .body ⟨.cons (.hexChar (by decide) (by decide)) .nil, nofun⟩ .nil
  obtain ⟨map, hmap, hlookup, -⟩ :=
    parse_listForm hscans rfl hsplits hbefore .nil hrange htargets .nil .nil
  refine ⟨hrange, htargets, by decide, map, hmap, ?_, ?_, ?_, ?_⟩
  all_goals
    rw [hlookup]
    decide +kernel

/-- Two texts for the greatest code alone: the second one counts. -/
theorem not_parse_listForm :
    ¬ ∀ (text low high : Bytes) (targets : List Bytes), IsRange low high →
        (∀ target ∈ targets, IsText target) →
        Scans text (.keyword "beginbfrange" ::
          (listForm low high targets ++ [.keyword "endbfrange"])) [] →
        ∃ map, parse text = .ok map ∧ ∀ code, map.lookup? code =
          ((if codeNumber low ≤ code ∧ code ≤ codeNumber high then targets[code - codeNumber low]?
            else none).map writtenText).map String.ofList := by
  intro h
  let text := Utf8.encode "beginbfrange<FFFFFFFF><FFFFFFFF>[<41><42>]endbfrange"
  let low : Bytes := [0xFF, 0xFF, 0xFF, 0xFF]
  have hrange : IsRange low low := ⟨by decide, by decide, by decide, by decide⟩
  have htargets : ∀ target ∈ ([[0x41], [0x42]] : List Bytes), IsText target := by decide
  have hscans : Scans text (.keyword "beginbfrange" ::
      (listForm low low [[0x41], [0x42]] ++ [.keyword "endbfrange"])) [] := by
    decide +kernel
  obtain ⟨map, hmap, hfirst⟩ := h text low low _ hrange htargets hscans
  -- what the map really is: the second text goes to the greatest code too, and replaces the first
  obtain ⟨map', hmap', hlast⟩ := parse_of_holdsLists hscans rfl
    (@Splits.body .ranges _ _ _ (by decide) .nil) (.ranges (.list hrange htargets .nil) .nil)
  obtain rfl : map = map' := Except.ok.inj (hmap.symm.trans hmap')
  have heq := (hfirst 0xFFFFFFFF).symm.trans (hlast 0xFFFFFFFF)
  revert heq
  decide +kernel

end PdfDisplay.CharMap
