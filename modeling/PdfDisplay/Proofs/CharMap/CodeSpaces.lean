import PdfDisplay.Proofs.CharMap.Meaning

/-!
# Declared code lengths

The code length of a character map that is read is that of the longest bound in its sections of
code spaces, whatever its other sections hold (`CharMap.declaresLength_of_parse`).
-/

namespace PdfDisplay.CharMap

open Lexeme (Scans scan)

/-- The lengths of the bounds that the lexemes of a section write. -/
def boundLengths (body : List Lexeme) : List Nat :=
  body.filterMap fun l => (hexBytes? l).map List.length

/-- The lengths of all bounds in sections of code spaces. -/
def declaredLengths (parts : List (SectionKind × List Lexeme)) : List Nat :=
  parts.flatMap fun (kind, body) => if kind = .codeSpaces then boundLengths body else []

/-- Whether the data of a stream come to an end, and the longest bound of a code space in them has
the given length, if there is one. -/
def DeclaresLength (data : Bytes) (length? : Option Nat) : Prop :=
  ∃ ls last parts, Scans data ls last ∧ scan last = .done ∧ Splits ls parts ∧
    length? = (declaredLengths parts).max?

/-! ## Reading the length -/

theorem eq_foldl_max_of_codeSpaces {longest length : Nat} {body : List Lexeme}
    (h : codeSpaces longest body = .ok length) (heven : body.length % 2 = 0) :
    length = (boundLengths body).foldl max longest ∧
      (body ≠ [] → boundLengths body ≠ []) := by
  fun_induction codeSpaces longest body with
  | case1 | case3 => cases h
  | case2 longest low high rest lowBytes highBytes hhigh hlow hbounds ih =>
    simp only [List.length_cons] at heven
    -- both bounds count, and as they have the same length one of them would do
    obtain ⟨rfl, -⟩ := ih h (by omega)
    have hsame : highBytes.length = lowBytes.length := by omega
    simp [boundLengths, hlow, hhigh, hsame]
  -- what is neither a pair nor empty is a single lexeme, which the even length excludes
  | case4 body longest hpair =>
    cases body with
    | nil =>
      cases h
      exact ⟨rfl, fun hne => absurd rfl hne⟩
    | cons low rest =>
      cases rest with
      | nil => simp at heven
      | cons high rest => exact absurd rfl (hpair low high rest)

/-- A section adds the lengths that it declares, and only a section of code spaces does. -/
theorem codeLength?_of_addSection {kind : SectionKind} {body : List Lexeme}
    {contents contents' : Contents} (h : addSection contents kind.endWord body = .ok contents') :
    contents'.codeLength? =
      (if kind = .codeSpaces then boundLengths body else []).foldl longer
        contents.codeLength? := by
  cases kind with
  | codeSpaces =>
    rw [addSection_codeSpaces] at h
    obtain ⟨length, hread, h⟩ := exists_ok_of_bind h
    cases h
    rw [codeSpaceSection] at hread
    split at hread
    case isTrue => cases hread
    case isFalse hshape =>
      rw [not_or, List.isEmpty_iff, not_not] at hshape
      obtain ⟨rfl, hne⟩ := eq_foldl_max_of_codeSpaces hread hshape.2
      exact longer_foldl_max _ (hne hshape.1)
  -- the other two kinds of sections leave the length alone
  | chars =>
    rw [addSection_chars] at h
    obtain ⟨mappings, -, h⟩ := exists_ok_of_bind h
    cases h
    rfl
  | ranges =>
    rw [addSection_ranges] at h
    obtain ⟨mappings, -, h⟩ := exists_ok_of_bind h
    cases h
    rfl

/-- The code length of the contents is the greatest of those that the code spaces declare. -/
theorem AddsUp.codeLength? {parts : List (SectionKind × List Lexeme)}
    {contents contents' : Contents} (h : AddsUp parts contents contents') :
    contents'.codeLength? = (declaredLengths parts).foldl longer contents.codeLength? := by
  induction h with
  | nil => rfl
  | cons hadd _ ih =>
    rw [ih, codeLength?_of_addSection hadd, declaredLengths, declaredLengths, List.flatMap_cons,
      List.foldl_append]

/-- **The code length of a map is the greatest that its code spaces declare.** -/
theorem declaresLength_of_parse {data : Bytes} {map : CharMap} (h : parse data = .ok map) :
    DeclaresLength data map.codeLength? := by
  obtain ⟨contents, hread, h⟩ := exists_ok_of_bind h
  cases h
  obtain ⟨ls, last, parts, hscans, hdone, hsplits, hadds⟩ := exists_addsUp_of_readSections hread
  refine ⟨ls, last, parts, hscans, hdone, hsplits, ?_⟩
  rw [← foldl_longer_none]
  exact hadds.codeLength?

/-! ## Bounds of the length -/

/-- Code spaces that are read have bounds of one to four bytes. -/
theorem boundLengths_of_codeSpaces {longest length : Nat} {body : List Lexeme}
    (h : codeSpaces longest body = .ok length) (heven : body.length % 2 = 0) :
    ∀ n ∈ boundLengths body, 1 ≤ n ∧ n ≤ 4 := by
  fun_induction codeSpaces longest body with
  | case1 | case3 => cases h
  | case2 longest low high rest lowBytes highBytes hhigh hlow hbounds ih =>
    simp only [List.length_cons] at heven
    have hsame : highBytes.length = lowBytes.length := by omega
    rw [boundLengths, List.filterMap_cons_some (by rw [hlow]; rfl),
      List.filterMap_cons_some (by rw [hhigh]; rfl), List.forall_mem_cons, List.forall_mem_cons]
    -- the reader has refused any bound that is not of one to four bytes
    exact ⟨by omega, by omega, ih h (by omega)⟩
  | case4 body longest hpair =>
    cases body with
    | nil => exact List.forall_mem_nil _
    | cons low rest =>
      cases rest with
      | nil => simp at heven
      | cons high rest => exact absurd rfl (hpair low high rest)

theorem declaredLengths_of_addSection {kind : SectionKind} {body : List Lexeme}
    {contents contents' : Contents} (h : addSection contents kind.endWord body = .ok contents') :
    ∀ n ∈ if kind = .codeSpaces then boundLengths body else [], 1 ≤ n ∧ n ≤ 4 := by
  cases kind with
  | codeSpaces =>
    rw [addSection_codeSpaces] at h
    obtain ⟨length, hread, -⟩ := exists_ok_of_bind h
    rw [codeSpaceSection] at hread
    split at hread
    case isTrue => cases hread
    case isFalse hshape =>
      rw [not_or, not_not] at hshape
      exact boundLengths_of_codeSpaces hread hshape.2
  | chars | ranges => exact List.forall_mem_nil _

/-- Each of these lengths lies between one and four, as the bounds of a code space are codes. -/
theorem AddsUp.declaredLengths_bounds {parts : List (SectionKind × List Lexeme)}
    {contents contents' : Contents} (h : AddsUp parts contents contents') :
    ∀ n ∈ declaredLengths parts, 1 ≤ n ∧ n ≤ 4 := by
  induction h with
  | nil => exact List.forall_mem_nil _
  | cons hadd _ ih =>
    rw [declaredLengths, List.flatMap_cons]
    exact List.forall_mem_append.mpr ⟨declaredLengths_of_addSection hadd, ih⟩

/-- **The codes of a map that is read have one to four bytes**, if their length is declared. -/
theorem codeLength?_bounds {data : Bytes} {map : CharMap} (h : parse data = .ok map) {n : Nat}
    (hn : map.codeLength? = some n) : 1 ≤ n ∧ n ≤ 4 := by
  obtain ⟨contents, hread, h⟩ := exists_ok_of_bind h
  cases h
  obtain ⟨ls, last, parts, -, -, -, hadds⟩ := exists_addsUp_of_readSections hread
  have hlength := hadds.codeLength?
  rw [foldl_longer_none] at hlength
  exact hadds.declaredLengths_bounds n (List.max?_mem (hlength.symm.trans hn))

end PdfDisplay.CharMap
