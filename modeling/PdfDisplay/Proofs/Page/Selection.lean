import Mathlib.Data.Nat.Digits.Defs
import Mathlib.Data.List.Forall2
import Mathlib.Data.List.Sort
import Mathlib.Data.List.TakeWhile
import PdfDisplay.PageSelection
import PdfDisplay.Proofs.Lists

/-!
# Which pages a selection names

A selection is cut at its commas; what is left of a piece without the blanks around it is a part,
unless it is empty (`PageSelection.HasPart`). A part names a page by its number, or the pages
between two numbers around a hyphen (`PageSelection.Names`). `PageSelection.parse_selects` says
that a selection is accepted exactly if it has a part and each of its parts names pages that the
document has, and that each page so named is then in the result once.
-/

namespace PdfDisplay

/-! ## Trimmed texts -/

/-- Whether a text is another one without the blanks at both its ends. -/
structure IsTrimmed (text core : List Char) : Prop where
  /-- What is left out is blank. -/
  blank : ∃ before after, text = before ++ (core ++ after) ∧
    (∀ c ∈ before, isBlank c = true) ∧ ∀ c ∈ after, isBlank c = true
  /-- It does not begin with a blank. -/
  first : ∀ c ∈ core.head?, isBlank c = false
  /-- It does not end with a blank. -/
  last : ∀ c ∈ core.getLast?, isBlank c = false

/-- Nothing is dropped from a text whose first character is no blank. -/
theorem dropWhile_of_head? {text : List Char} (h : ∀ c ∈ text.head?, isBlank c = false) :
    text.dropWhile isBlank = text := by
  cases text with
  | nil => rfl
  | cons c text => exact List.dropWhile_cons_of_neg (Bool.eq_false_iff.mp (h c rfl))

/-- **Trimming gives the core**: dropping blanks from the front and, reversed, from the back leaves
what begins and ends with no blank. -/
theorem IsTrimmed.trimBlanks_eq {text core : List Char} (h : IsTrimmed text core) :
    trimBlanks text = core := by
  obtain ⟨before, after, rfl, hbefore, hafter⟩ := h.blank
  rw [trimBlanks, List.dropWhile_append_of_pos hbefore]
  cases hcore : core with
  | nil =>
    have hnil : after.dropWhile isBlank = [] := List.dropWhile_eq_nil_iff.mpr hafter
    rw [List.nil_append, hnil]
    rfl
  | cons c rest =>
    have hfront : (c :: rest ++ after).dropWhile isBlank = c :: rest ++ after :=
      dropWhile_of_head? fun d hd => h.first d (hcore ▸ hd)
    have hback : (c :: rest).reverse.dropWhile isBlank = (c :: rest).reverse := by
      refine dropWhile_of_head? fun d hd => h.last d ?_
      rwa [List.head?_reverse, ← hcore] at hd
    rw [hfront, List.reverse_append,
      List.dropWhile_append_of_pos fun d hd => hafter d (List.mem_reverse.mp hd), hback,
      List.reverse_reverse]

theorem head?_dropWhile_isBlank (text : List Char) :
    ∀ c ∈ (text.dropWhile isBlank).head?, isBlank c = false := by
  intro c hc
  have hnot := List.head?_dropWhile_not isBlank text
  rw [Option.mem_def.mp hc] at hnot
  exact hnot

/-- What trimming leaves is a core of the text: the blanks around it are what was dropped. -/
theorem isTrimmed_trimBlanks (text : List Char) : IsTrimmed text (trimBlanks text) := by
  have hrest : text.dropWhile isBlank =
      trimBlanks text ++ ((text.dropWhile isBlank).reverse.takeWhile isBlank).reverse := by
    rw [trimBlanks, ← List.reverse_append, List.takeWhile_append_dropWhile, List.reverse_reverse]
  have htext : text = text.takeWhile isBlank ++ (trimBlanks text ++
      ((text.dropWhile isBlank).reverse.takeWhile isBlank).reverse) := by
    rw [← hrest, List.takeWhile_append_dropWhile]
  refine ⟨⟨_, _, htext, fun c hc => List.mem_takeWhile_imp hc,
    fun c hc => List.mem_takeWhile_imp (List.mem_reverse.mp hc)⟩, fun c hc => ?_, fun c hc => ?_⟩
  · refine head?_dropWhile_isBlank text c ?_
    rw [hrest, List.head?_append, Option.mem_def.mp hc]
    rfl
  · rw [trimBlanks, List.getLast?_reverse] at hc
    exact head?_dropWhile_isBlank _ c hc

/-- So a core is nothing but the result of trimming, and a text has exactly one. -/
theorem isTrimmed_iff {text core : List Char} : IsTrimmed text core ↔ trimBlanks text = core :=
  ⟨IsTrimmed.trimBlanks_eq, fun h => h ▸ isTrimmed_trimBlanks text⟩

/-- A core has no blanks around it, so trimming it again changes nothing. -/
theorem IsTrimmed.trimmed {text core : List Char} (h : IsTrimmed text core) :
    trimBlanks core = core :=
  IsTrimmed.trimBlanks_eq ⟨⟨[], [], by simp, List.forall_mem_nil _, List.forall_mem_nil _⟩, h.first,
    h.last⟩

/-! ## Numbers -/

namespace Word

/-- Whether a character is the decimal digit with a value. -/
def IsDigit (c : Char) (value : Nat) : Prop := "0123456789".toList[value]? = some c

/-- Whether a text is a number: decimal digits, the highest first, and perhaps a plus sign in front
of them. -/
def Writes (text : List Char) (number : Nat) : Prop :=
  ∃ digits values, (text = digits ∨ text = '+' :: digits) ∧ digits ≠ [] ∧
    List.Forall₂ IsDigit digits values ∧ number = Nat.ofDigits 10 values.reverse

/-- A character is a digit of a value exactly if it is one of the ten, and the value is its distance
from zero. -/
theorem isDigit_iff {c : Char} {value : Nat} :
    IsDigit c value ↔ c.isDigit = true ∧ c.toNat - 48 = value := by
  constructor
  · intro h
    have hall : ∀ entry ∈ "0123456789".toList.zipIdx,
        entry.1.isDigit = true ∧ entry.1.toNat - 48 = entry.2 := by
      decide +kernel
    exact hall (c, value) (List.mk_mem_zipIdx_iff_getElem?.mpr h)
  · rintro ⟨hdigit, rfl⟩
    have hall : ∀ n < 58, (Char.ofNat n).isDigit = true → IsDigit (Char.ofNat n) (n - 48) := by
      unfold IsDigit
      decide +kernel
    have hlt : c.toNat < 58 := by
      simp only [Char.isDigit, ge_iff_le, Bool.and_eq_true, decide_eq_true_eq,
        UInt32.le_iff_toNat_le] at hdigit
      exact Nat.lt_succ_of_le hdigit.2
    have hc := hall c.toNat hlt
    rw [Char.ofNat_toNat] at hc
    exact hc hdigit

/-- **Digits spell their values one by one**, so that a list of digits has one list of values only.
-/
theorem forall₂_isDigit_iff {digits : List Char} {values : List Nat} :
    List.Forall₂ IsDigit digits values ↔
      digits.all Char.isDigit = true ∧ Digits.ofChars digits = values := by
  induction digits generalizing values with
  | nil => simp [Digits.ofChars, eq_comm]
  | cons c digits ih =>
    rw [List.forall₂_cons_left_iff]
    simp only [isDigit_iff, ih, Digits.ofChars, List.map_cons, List.all_cons, Bool.and_eq_true]
    constructor
    · rintro ⟨value, others, ⟨hc, rfl⟩, ⟨hall, rfl⟩, rfl⟩
      exact ⟨⟨hc, hall⟩, rfl⟩
    · rintro ⟨⟨hc, hall⟩, rfl⟩
      exact ⟨_, _, ⟨hc, rfl⟩, ⟨hall, rfl⟩, rfl⟩

/-- The value of digits, read from the front, is that of the reversed digits in base ten. -/
theorem value_eq_ofDigits (digits : List Nat) :
    Digits.value digits = Nat.ofDigits 10 digits.reverse := by
  rw [Digits.value, Digits.join_eq_ofLowest, Digits.ofLowest, Nat.ofDigits_eq_foldr]
  rfl

/-- At most one plus sign is taken from the front of a number, and nothing else. -/
theorem unsigned_cases (text : List Char) :
    text = unsigned text ∨ text = '+' :: unsigned text := by
  rw [unsigned.eq_def]
  split
  case h_1 => exact .inr rfl
  case h_2 => exact .inl rfl

theorem unsigned_of_digits {digits : List Char} (h : digits.all Char.isDigit = true) :
    unsigned digits = digits := by
  rw [unsigned.eq_def]
  split
  case h_1 => cases h
  case h_2 => rfl

/-- **A number is parsed exactly if the text writes it and 64 bits hold it.** -/
theorem parse?_eq_some_iff {text : List Char} {number : Nat} :
    parse? text = some number ↔ Writes text number ∧ number < 0x10000000000000000 := by
  have hunsigned {digits : List Char} (hdigits : digits.all Char.isDigit = true)
      (h : text = digits ∨ text = '+' :: digits) : unsigned text = digits := by
    obtain rfl | rfl := h
    · exact unsigned_of_digits hdigits
    · rfl
  simp only [parse?, Option.ite_none_right_eq_some, Option.some.injEq]
  constructor
  · rintro ⟨⟨hne, hall, hlt⟩, rfl⟩
    exact ⟨⟨unsigned text, _, unsigned_cases text, hne, forall₂_isDigit_iff.mpr ⟨hall, rfl⟩,
      value_eq_ofDigits _⟩, hlt⟩
  · rintro ⟨⟨digits, values, htext, hne, hdigits, rfl⟩, hlt⟩
    obtain ⟨hall, rfl⟩ := forall₂_isDigit_iff.mp hdigits
    rw [hunsigned hall htext, value_eq_ofDigits]
    exact ⟨⟨hne, hall, hlt⟩, rfl⟩

end Word

/-! ## Selections -/

namespace PageSelection

/-- Whether a selection has a part: what stands between two commas, without the blanks around it,
unless nothing is left. -/
def HasPart (input : String) (part : List Char) : Prop :=
  part ≠ [] ∧ ∃ pieces, [','].intercalate pieces = input.toList ∧ (∀ piece ∈ pieces, ',' ∉ piece) ∧
    ∃ piece ∈ pieces, IsTrimmed piece part

/-- Whether a part names the pages from `first` to `last`: it is a number, or it has one on each
side of its first hyphen, without the blanks there. -/
inductive Names : List Char → Nat → Nat → Prop where
  /-- A page. -/
  | page {part : List Char} {number : Nat} (h : Word.Writes part number) : Names part number number
  /-- A range of pages. -/
  | range {before after lower upper : List Char} {first last : Nat} (hyphen : '-' ∉ before)
    (hbefore : IsTrimmed before lower) (hafter : IsTrimmed after upper)
    (hfirst : Word.Writes lower first) (hlast : Word.Writes upper last) :
    Names (before ++ '-' :: after) first last

/-- Whether a part names the pages from `first` to `last`, in ascending order, of a document with
`count` pages. -/
def NamesPages (count : Nat) (part : List Char) (first last : Nat) : Prop :=
  Names part first last ∧ 1 ≤ first ∧ first ≤ last ∧ last ≤ count

/-- **The parts of an input are its pieces between commas**, trimmed, and those that are empty are
left out. -/
theorem mem_parts_iff {input : String} {part : List Char} :
    part ∈ parts input ↔ HasPart input part := by
  simp only [parts, List.mem_filter, List.mem_map, Bool.not_eq_true', List.isEmpty_eq_false_iff,
    HasPart, isTrimmed_iff]
  rw [and_comm, and_congr_right_iff]
  intro hne
  constructor
  · rintro ⟨piece, hpiece, htrim⟩
    exact ⟨_, List.intercalate_splitOn ',', fun piece => notMem_of_mem_splitOn, piece, hpiece,
      htrim⟩
  · rintro ⟨pieces, hinput, hfree, piece, hpiece, htrim⟩
    refine ⟨piece, ?_, htrim⟩
    rwa [← hinput, List.splitOn_intercalate ',' hfree (List.ne_nil_of_mem hpiece)]

theorem HasPart.trimmed {input : String} {part : List Char} (h : HasPart input part) :
    trimBlanks part = part := by
  obtain ⟨-, pieces, -, -, piece, -, htrim⟩ := h
  exact htrim.trimmed

variable {count : Nat} {part : List Char}

/-- **A page number is accepted exactly if it is written there and there is such a page.** -/
theorem pageNumber_eq_ok_iff (hcount : count < 0x10000000000000000) {text : List Char}
    {number : Nat} :
    pageNumber count text = .ok number ↔
      Word.Writes (trimBlanks text) number ∧ 1 ≤ number ∧ number ≤ count := by
  -- what is no number for its size is no page either
  have hword : Word.Writes (trimBlanks text) number ∧ 1 ≤ number ∧ number ≤ count ↔
      Word.parse? (trimBlanks text) = some number ∧ 1 ≤ number ∧ number ≤ count := by
    rw [Word.parse?_eq_some_iff, and_assoc]
    refine and_congr_right fun _ => (and_iff_right_of_imp fun h => ?_).symm
    exact Nat.lt_of_le_of_lt h.2 hcount
  rw [hword, pageNumber]
  split
  case h_1 hparse => simp [hparse]
  case h_2 hparse =>
    rw [hparse]
    refine iff_of_false nofun ?_
    rintro ⟨⟨⟩, hpos, -⟩
    cases hpos
  case h_3 page hpos hparse =>
    rw [hparse]
    split
    case isTrue hlt =>
      refine iff_of_false nofun ?_
      rintro ⟨⟨⟩, -, hle⟩
      omega
    case isFalse hle =>
      rw [Option.some.injEq, Except.ok.injEq]
      refine (and_iff_left_of_imp ?_).symm
      rintro rfl
      exact ⟨Nat.pos_of_ne_zero hpos, by omega⟩

/-- A written number holds no hyphen, so a part without one names one page and a part with one names
a range. -/
theorem hyphen_notMem_of_writes {text : List Char} {number : Nat} (h : Word.Writes text number) :
    '-' ∉ text := by
  obtain ⟨digits, values, htext, -, hdigits, -⟩ := h
  have hnotMem : '-' ∉ digits := fun hmem =>
    absurd (List.all_eq_true.mp (Word.forall₂_isDigit_iff.mp hdigits).1 _ hmem) (by decide)
  obtain rfl | rfl := htext
  · exact hnotMem
  · simpa using hnotMem

/-- A part is cut at its first hyphen, which is neither in front nor behind. -/
theorem dropWhile_hyphen {before : List Char} (h : '-' ∉ before) (after : List Char) :
    (before ++ '-' :: after).dropWhile (· != '-') = '-' :: after ∧
      (before ++ '-' :: after).takeWhile (· != '-') = before := by
  have hbefore : ∀ c ∈ before, (c != '-') = true := fun c hc =>
    bne_iff_ne.mpr (ne_of_mem_of_not_mem hc h)
  rw [List.dropWhile_append_of_pos hbefore, List.takeWhile_append_of_pos hbefore]
  simp

/-- A range that ends before it begins is an error, and any other is kept as it is. -/
theorem forwards_eq_ok_iff {e : PageSelectionError} {range range' : Range} :
    (do
      if range.last < range.first then throw e
      return range : Except PageSelectionError Range) = .ok range' ↔
      range = range' ∧ range.first ≤ range.last := by
  split
  case isTrue hbackwards => exact iff_of_false nofun fun h => absurd h.2 (by omega)
  case isFalse hforwards =>
    rw [and_iff_left (Nat.le_of_not_lt hforwards)]
    exact ⟨Except.ok.inj, congrArg Except.ok⟩

/-- A part without a hyphen names the range of a single page. -/
theorem names_iff_of_notMem (h : '-' ∉ part) {first last : Nat} :
    Names part first last ↔ Word.Writes part first ∧ first = last := by
  constructor
  · rintro (hpage | _)
    · exact ⟨hpage, rfl⟩
    · exact absurd (List.mem_append_right _ List.mem_cons_self) h
  · rintro ⟨hpage, rfl⟩
    exact .page hpage

/-- A part with a hyphen names the range between the numbers on its sides, blanks around the hyphen
being allowed. -/
theorem names_append_iff {before after : List Char} (h : '-' ∉ before) {first last : Nat} :
    Names (before ++ '-' :: after) first last ↔
      Word.Writes (trimBlanks before) first ∧ Word.Writes (trimBlanks after) last := by
  constructor
  · intro hnames
    generalize hpart : before ++ '-' :: after = part at hnames
    cases hnames with
    | page hpage =>
      refine absurd ?_ (hyphen_notMem_of_writes hpage)
      exact hpart ▸ List.mem_append_right _ List.mem_cons_self
    | @range before' after' lower upper _ _ hyphen hbefore hafter hfirst hlast =>
      -- the first hyphen is at one place only
      have hsame := dropWhile_hyphen h after
      rw [hpart, (dropWhile_hyphen hyphen after').1, (dropWhile_hyphen hyphen after').2] at hsame
      obtain ⟨hafter', rfl⟩ := hsame
      cases hafter'
      rw [hbefore.trimBlanks_eq, hafter.trimBlanks_eq]
      exact ⟨hfirst, hlast⟩
  · rintro ⟨hfirst, hlast⟩
    exact .range h (isTrimmed_trimBlanks before) (isTrimmed_trimBlanks after) hfirst hlast

/-- A part is read as the pages that it names, if the document has them. -/
theorem parsePart_eq_ok_iff (hcount : count < 0x10000000000000000)
    (htrimmed : trimBlanks part = part) {range : Range} :
    parsePart count part = .ok range ↔ NamesPages count part range.first range.last := by
  by_cases hhyphen : '-' ∈ part
  case neg =>
    have hdrop : part.dropWhile (· != '-') = [] :=
      List.dropWhile_eq_nil_iff.mpr fun c hc => bne_iff_ne.mpr (ne_of_mem_of_not_mem hc hhyphen)
    rw [parsePart, hdrop, NamesPages, names_iff_of_notMem hhyphen]
    simp only [bind_eq_ok_iff, pageNumber_eq_ok_iff hcount, htrimmed, forwards_eq_ok_iff]
    constructor
    · rintro ⟨page, ⟨hpage, hpos, hle⟩, _, ⟨⟩, rfl, hforwards⟩
      exact ⟨⟨hpage, rfl⟩, hpos, hforwards, hle⟩
    · rintro ⟨⟨hpage, hsame⟩, hpos, hforwards, hle⟩
      refine ⟨range.first, ⟨hpage, hpos, hforwards.trans hle⟩, _, rfl, ?_, Nat.le_refl _⟩
      exact congrArg (Range.mk range.first) hsame
  case pos =>
    obtain ⟨before, after, rfl, hbefore⟩ := List.eq_append_cons_of_mem hhyphen
    obtain ⟨hdrop, htake⟩ := dropWhile_hyphen hbefore after
    rw [parsePart, hdrop, NamesPages, names_append_iff hbefore]
    simp only [bind_eq_ok_iff, pageNumber_eq_ok_iff hcount, htake, forwards_eq_ok_iff]
    constructor
    · rintro ⟨first, ⟨hfirst, hpos, -⟩, last, ⟨hlast, -, hle⟩, _, ⟨⟩, rfl, hforwards⟩
      exact ⟨⟨hfirst, hlast⟩, hpos, hforwards, hle⟩
    · rintro ⟨⟨hfirst, hlast⟩, hpos, hforwards, hle⟩
      exact ⟨_, ⟨hfirst, hpos, hforwards.trans hle⟩, _, ⟨hlast, hpos.trans hforwards, hle⟩, range,
        rfl, rfl, hforwards⟩

/-- **A selection is accepted exactly if each of its parts is and there is at least one**, and its
indices are those of all ranges, sorted and each listed once. -/
theorem parse_eq_ok_iff {input : String} {indices : List Nat} :
    parse input count = .ok indices ↔
      ∃ ranges, (parts input).mapM (parsePart count) = .ok ranges ∧ parts input ≠ [] ∧
        indices = distinct ((ranges.flatMap Range.indices).mergeSort (· ≤ ·)) := by
  rw [parse, bind_eq_ok_iff]
  refine exists_congr fun ranges => and_congr_right fun hranges => ?_
  have hempty : parts input = [] ↔ ranges = [] := by
    rw [← List.length_eq_zero_iff, ← List.length_eq_zero_iff,
      (mapM_eq_ok_iff.mp hranges).length_eq]
  rw [ne_eq, hempty]
  cases ranges with
  | nil => exact iff_of_false nofun fun h => h.1 rfl
  | cons range ranges =>
    rw [and_iff_right (List.cons_ne_nil _ _)]
    exact ⟨fun h => (Except.ok.inj h).symm, fun h => congrArg Except.ok h.symm⟩

theorem mem_distinct {a : Nat} {numbers : List Nat} : a ∈ distinct numbers ↔ a ∈ numbers := by
  fun_induction distinct numbers with
  | case1 b rest ih => simp [ih]
  | case2 b c rest hne ih => simp [ih]
  | case3 => rfl

theorem pairwise_distinct {numbers : List Nat} (h : numbers.Pairwise (· ≤ ·)) :
    (distinct numbers).Pairwise (· < ·) := by
  fun_induction distinct numbers with
  | case1 b rest ih => exact ih h.tail
  | case2 a b rest hne ih =>
    obtain ⟨ha, hrest⟩ := List.pairwise_cons.mp h
    refine List.pairwise_cons.mpr ⟨fun c hc => ?_, ih hrest⟩
    have hab := ha b List.mem_cons_self
    have hbc : b ≤ c := by
      obtain rfl | hc := List.mem_cons.mp (mem_distinct.mp hc)
      · exact Nat.le_refl _
      · exact List.rel_of_pairwise_cons hrest hc
    omega
  | case3 numbers hshort =>
    match numbers, hshort with
    | [], _ => exact .nil
    | [_], _ => exact List.pairwise_singleton ..
    | a :: b :: rest, hshort => exact absurd rfl (hshort a b rest)

/-- A range of page numbers, which begin at one, has the indices below them, which begin at zero. -/
theorem mem_indices_iff {range : Range} (hpos : 1 ≤ range.first) {index : Nat} :
    index ∈ range.indices ↔ range.first ≤ index + 1 ∧ index + 1 ≤ range.last := by
  rw [Range.indices, List.mem_range'_1]
  omega

/-- **What a selection names.** It is accepted if it has a part and each part names pages of the
document, and gives then the indices of these pages, in ascending order and each once. -/
theorem parse_selects (input : String) {count : Nat} (hcount : count < 0x10000000000000000) :
    ((∃ indices, parse input count = .ok indices) ↔
      (∃ part, HasPart input part) ∧ ∀ part, HasPart input part →
        ∃ first last, NamesPages count part first last) ∧
    ∀ indices, parse input count = .ok indices →
      indices.Pairwise (· < ·) ∧ (∀ index ∈ indices, index < count) ∧
      ∀ index, index ∈ indices ↔ ∃ part first last, HasPart input part ∧
        NamesPages count part first last ∧ first ≤ index + 1 ∧ index + 1 ≤ last := by
  have hread {part : List Char} (hpart : part ∈ parts input) (range : Range) :
      parsePart count part = .ok range ↔ NamesPages count part range.first range.last :=
    parsePart_eq_ok_iff hcount (mem_parts_iff.mp hpart).trimmed
  simp only [← mem_parts_iff]
  constructor
  · have hall : (∃ ranges, (parts input).mapM (parsePart count) = .ok ranges) ↔
        ∀ part ∈ parts input, ∃ first last, NamesPages count part first last := by
      rw [exists_mapM_eq_ok_iff]
      refine forall₂_congr fun part hpart => ⟨?_, ?_⟩
      · rintro ⟨range, hrange⟩
        exact ⟨_, _, (hread hpart range).mp hrange⟩
      · rintro ⟨first, last, hnames⟩
        exact ⟨⟨first, last⟩, (hread hpart _).mpr hnames⟩
    have hsome : (∃ part, part ∈ parts input) ↔ parts input ≠ [] :=
      ⟨fun ⟨_, hpart⟩ => List.ne_nil_of_mem hpart, List.exists_mem_of_ne_nil _⟩
    rw [← hall, hsome]
    simp only [parse_eq_ok_iff]
    constructor
    · rintro ⟨_, ranges, hranges, hne, -⟩
      exact ⟨hne, ranges, hranges⟩
    · rintro ⟨hne, ranges, hranges⟩
      exact ⟨_, ranges, hranges, hne, rfl⟩
  · intro indices hparse
    obtain ⟨ranges, hranges, -, rfl⟩ := parse_eq_ok_iff.mp hparse
    have hmem (index : Nat) :
        index ∈ distinct ((ranges.flatMap Range.indices).mergeSort (· ≤ ·)) ↔
          ∃ part first last, part ∈ parts input ∧
            NamesPages count part first last ∧ first ≤ index + 1 ∧ index + 1 ≤ last := by
      rw [mem_distinct, List.mem_mergeSort, List.mem_flatMap]
      constructor
      · rintro ⟨range, hrange, hindex⟩
        obtain ⟨part, hpart, hpages⟩ := (mem_of_mapM_eq_ok hranges).mp hrange
        have hnames := (hread hpart range).mp hpages
        exact ⟨part, _, _, hpart, hnames, (mem_indices_iff hnames.2.1).mp hindex⟩
      · rintro ⟨part, first, last, hpart, hnames, hindex⟩
        have hrange := (mem_of_mapM_eq_ok hranges).mpr
          ⟨part, hpart, (hread hpart ⟨first, last⟩).mpr hnames⟩
        exact ⟨_, hrange, (mem_indices_iff hnames.2.1).mpr hindex⟩
    refine ⟨pairwise_distinct ?_, fun index hindex => ?_, hmem⟩
    · exact List.pairwise_mergeSort' (· ≤ ·) _
    · obtain ⟨part, first, last, -, ⟨-, -, -, hle⟩, -, hlast⟩ := (hmem index).mp hindex
      omega

/-- Ranges may overlap, in any order, and need not be numbers of one spelling. -/
theorem parse_selects_overlapping :
    parse " 4 - 5,, +2,1-04 " 5 = .ok [0, 1, 2, 3, 4] ∧
      ∀ index, index ∈ [0, 1, 2, 3, 4] ↔ ∃ part first last, HasPart " 4 - 5,, +2,1-04 " part ∧
        NamesPages 5 part first last ∧ first ≤ index + 1 ∧ index + 1 ≤ last := by
  have hranges : (parts " 4 - 5,, +2,1-04 ").mapM (parsePart 5) =
      .ok [⟨4, 5⟩, ⟨2, 2⟩, ⟨1, 4⟩] := by
    decide +kernel
  have hsorted : [3, 4, 1, 0, 1, 2, 3].mergeSort (· ≤ ·) = [0, 1, 1, 2, 3, 3, 4] := by
    simp [List.mergeSort, List.MergeSort.Internal.splitInTwo]
  have hparse : parse " 4 - 5,, +2,1-04 " 5 = .ok [0, 1, 2, 3, 4] :=
    parse_eq_ok_iff.mpr ⟨_, hranges, by decide +kernel, (congrArg distinct hsorted).symm⟩
  exact ⟨hparse, ((parse_selects _ (by decide)).2 _ hparse).2.2⟩

end PageSelection

end PdfDisplay
