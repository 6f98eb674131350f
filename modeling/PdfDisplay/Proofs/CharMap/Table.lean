import PdfDisplay.CharMap
import PdfDisplay.Entries

/-!
# Tables of mappings

A character map is tabulated code by code, and a mapping that comes later takes the place of
those in front of it. `CharMap.lookup?_ofMappings` says what a look-up then finds: the text that
the last of the mappings which give the code one gives it.
-/

namespace PdfDisplay

namespace Mapping

/-- The codes of a mapping are those that it gives a text. -/
theorem isSome_text?_iff (mapping : Mapping) (code : Nat) :
    (mapping.text? code).isSome ↔ code ∈ mapping.codes := by
  cases mapping with
  | char c text =>
    rw [text?, codes, List.mem_singleton]
    split
    case isTrue h => simp [h]
    case isFalse h => simp [Ne.symm h]
  | range first last text =>
    rw [text?, codes, List.mem_range'_1]
    split
    case isTrue h =>
      obtain ⟨hfirst, hlast⟩ := h
      simp only [Option.isSome_some, true_iff]
      omega
    case isFalse h =>
      simp only [Option.isSome_none, Bool.false_eq_true, false_iff]
      omega

end Mapping

namespace CharMap

/-- Entering a mapping under some codes changes the table at these codes only. -/
theorem getElem?_foldl_insert (mapping : Mapping) (codes : List Nat)
    (table : Std.HashMap Nat Mapping) (code : Nat) :
    (codes.foldl (fun table code => table.insert code mapping) table)[code]? =
      if code ∈ codes then some mapping else table[code]? := by
  induction codes generalizing table with
  | nil => rfl
  | cons first codes ih =>
    rw [List.foldl_cons, ih, Std.HashMap.getElem?_insert]
    by_cases hcodes : code ∈ codes
    · rw [if_pos hcodes, if_pos (List.mem_cons_of_mem _ hcodes)]
    · by_cases hfirst : first = code
      · simp [hcodes, hfirst]
      · simp [hcodes, hfirst, Ne.symm hfirst]

theorem getElem?_tabulate (table : Std.HashMap Nat Mapping) (mapping : Mapping) (code : Nat) :
    (tabulate table mapping)[code]? =
      if (mapping.text? code).isSome then some mapping else table[code]? := by
  rw [tabulate, getElem?_foldl_insert]
  simp only [Mapping.isSome_text?_iff]

/-- The text that a table gives a code. -/
def textIn? (table : Std.HashMap Nat Mapping) (code : Nat) : Option (List Char) :=
  table[code]?.bind (·.text? code)

theorem textIn?_tabulate (table : Std.HashMap Nat Mapping) (mapping : Mapping) (code : Nat) :
    textIn? (tabulate table mapping) code = (mapping.text? code).or (textIn? table code) := by
  rw [textIn?, getElem?_tabulate]
  cases h : mapping.text? code with
  | none => rfl
  | some text => exact h

/-- The last mapping that gives a code a text decides. -/
theorem textIn?_foldl_tabulate (mappings : List Mapping) (table : Std.HashMap Nat Mapping)
    (code : Nat) :
    textIn? (mappings.foldl tabulate table) code =
      (mappings.reverse.findSome? (·.text? code)).or (textIn? table code) :=
  Entries.lookup_foldl (textIn? · code)
    (fun table mapping => textIn?_tabulate table mapping code) mappings table

/-- **A look-up finds the last text**: that of the last mapping that gives the code one. -/
theorem lookup?_ofMappings (codeLength? : Option Nat) (mappings : List Mapping) (code : Nat) :
    (ofMappings codeLength? mappings).lookup? code =
      (mappings.reverse.findSome? (·.text? code)).map String.ofList := by
  have hempty : textIn? ∅ code = none := by
    rw [textIn?, Std.HashMap.getElem?_empty]
    rfl
  have htable := textIn?_foldl_tabulate mappings ∅ code
  rw [hempty, Option.or_none] at htable
  rw [← htable]
  rfl

end CharMap

end PdfDisplay
