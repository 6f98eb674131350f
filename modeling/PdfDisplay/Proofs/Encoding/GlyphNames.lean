import Mathlib.Data.Nat.Digits.Defs
import Mathlib.Data.String.Basic
import Mathlib.Tactic.Ring
import PdfDisplay.GlyphName

/-!
# The names of glyphs

Which names stand for which characters (`GlyphName.char?_eq_some_iff`): those that spell out a code
point in hexadecimal digits, those of one character, and the common ones. No name has two of these
forms, so the order in which they are tried makes no difference. One more form comes from the reader
of the digits behind `uni`, which admits a sign as the first of the four: `uni+041` is read as `A`.
-/

namespace PdfDisplay

/-! ## Hexadecimal digits -/

namespace Hex

/-- Whether a character is the digit with a value. -/
def IsDigit (c : Char) (value : Nat) : Prop :=
  "0123456789abcdef".toList[value]? = some c ∨ "0123456789ABCDEF".toList[value]? = some c

/-- Whether digits write a number, the highest digit first. -/
def Writes (digits : List Char) (number : Nat) : Prop :=
  ∃ values, List.Forall₂ IsDigit digits values ∧ number = Nat.ofDigits 16 values.reverse

theorem digit?_eq (c : Char) :
    digit? c =
      if 48 ≤ c.toNat ∧ c.toNat ≤ 57 then some (c.toNat - 48)
      else if 97 ≤ c.toNat ∧ c.toNat ≤ 102 then some (c.toNat - 87)
      else if 65 ≤ c.toNat ∧ c.toNat ≤ 70 then some (c.toNat - 55)
      else none := by
  simp only [digit?, Char.isDigit, ge_iff_le, Bool.and_eq_true, decide_eq_true_eq, Char.le_def,
    UInt32.le_iff_toNat_le]
  rfl

theorem IsDigit.of_digit? {c : Char} {value : Nat} (h : digit? c = some value) :
    IsDigit c value := by
  have hall : ∀ n < 103, ∀ value ∈ digit? (Char.ofNat n), IsDigit (Char.ofNat n) value := by
    unfold IsDigit
    decide +kernel
  -- the greatest digit is a small letter, so only so many characters have to be tried
  have hc : c.toNat < 103 := by
    rw [digit?_eq] at h
    split at h
    case isTrue hrange => omega
    split at h
    case isTrue hrange => omega
    split at h
    case isTrue hrange => omega
    case isFalse => cases h
  have hvalue := hall c.toNat hc value
  rw [Char.ofNat_toNat] at hvalue
  exact hvalue h

theorem digit?_of_isDigit {c : Char} {value : Nat} (h : IsDigit c value) :
    digit? c = some value ∧ c.utf8Size = 1 := by
  have hlower : ∀ entry ∈ "0123456789abcdef".toList.zipIdx,
      digit? entry.1 = some entry.2 ∧ entry.1.utf8Size = 1 := by
    decide +kernel
  have hupper : ∀ entry ∈ "0123456789ABCDEF".toList.zipIdx,
      digit? entry.1 = some entry.2 ∧ entry.1.utf8Size = 1 := by
    decide +kernel
  obtain h | h := h
  · exact hlower (c, value) (List.mk_mem_zipIdx_iff_getElem?.mpr h)
  · exact hupper (c, value) (List.mk_mem_zipIdx_iff_getElem?.mpr h)

theorem digit?_eq_some_iff {c : Char} {value : Nat} : digit? c = some value ↔ IsDigit c value :=
  ⟨.of_digit?, fun h => (digit?_of_isDigit h).1⟩

theorem Writes.exists_isDigit {digits : List Char} {number : Nat} (h : Writes digits number) :
    ∀ c ∈ digits, ∃ value, IsDigit c value := by
  obtain ⟨values, hvalues, -⟩ := h
  induction hvalues with
  | nil => exact List.forall_mem_nil _
  | cons hdigit _ ih => exact List.forall_mem_cons.mpr ⟨⟨_, hdigit⟩, ih⟩

/-- The reader of digits, behind the number `start`: it succeeds exactly on digits, and counts on
from that number. -/
theorem foldlM_eq_some_iff (digits : List Char) (start number : Nat) :
    digits.foldlM (fun value c => (digit? c).map (value * 16 + ·)) start = some number ↔
      ∃ values, List.Forall₂ IsDigit digits values ∧
        number = start * 16 ^ values.length + Nat.ofDigits 16 values.reverse := by
  induction digits generalizing start with
  | nil =>
    constructor
    · intro h
      exact ⟨[], .nil, by simpa using h.symm⟩
    · rintro ⟨_, hvalues, rfl⟩
      cases hvalues
      simp
  | cons c digits ih =>
    -- the first digit counts as many times sixteen as digits follow it
    have hfirst (value : Nat) (values : List Nat) :
        (start * 16 + value) * 16 ^ values.length + Nat.ofDigits 16 values.reverse =
          start * 16 ^ (value :: values).length + Nat.ofDigits 16 (value :: values).reverse := by
      rw [List.reverse_cons, Nat.ofDigits_append, Nat.ofDigits_singleton, List.length_reverse,
        List.length_cons, Nat.pow_succ]
      ring
    simp only [List.foldlM_cons, Option.bind_eq_bind, Option.bind_eq_some_iff,
      Option.map_eq_some_iff, digit?_eq_some_iff]
    constructor
    · rintro ⟨_, ⟨value, hdigit, rfl⟩, hdigits⟩
      obtain ⟨values, hvalues, rfl⟩ := (ih _).mp hdigits
      exact ⟨value :: values, .cons hdigit hvalues, hfirst value values⟩
    · rintro ⟨_, hvalues, rfl⟩
      cases hvalues with
      | @cons _ value _ values hdigit hvalues =>
        exact ⟨_, ⟨value, hdigit, rfl⟩, (ih _).mpr ⟨values, hvalues, (hfirst value values).symm⟩⟩

theorem value?_eq_some_iff {digits : List Char} {number : Nat} :
    value? digits = some number ↔ digits ≠ [] ∧ Writes digits number := by
  cases digits with
  | nil => simp [value?]
  | cons c digits =>
    rw [value?, foldlM_eq_some_iff]
    · simp [Writes]
    · nofun

end Hex

/-! ## The forms of names -/

namespace GlyphName

/-- Whether a name without its suffix stands for a character. -/
inductive Names : List Char → Char → Prop where
  /-- Four digits behind `uni`. -/
  | codePoint {digits : List Char} {c : Char} (hlength : digits.length = 4)
    (h : Hex.Writes digits c.toNat) : Names ('u' :: 'n' :: 'i' :: digits) c
  /-- Four to six digits behind `u`. -/
  | scalar {digits : List Char} {c : Char} (hleast : 4 ≤ digits.length) (hmost : digits.length ≤ 6)
    (h : Hex.Writes digits c.toNat) : Names ('u' :: digits) c
  /-- The character itself. -/
  | single (c : Char) : Names [c] c
  /-- A common name. -/
  | common {name : String} {c : Char} (h : (name, c) ∈ common) : Names name.toList c

theorem charOf?_eq_some_iff {code : Nat} {c : Char} : charOf? code = some c ↔ code = c.toNat := by
  rw [charOf?]
  split
  case isTrue hvalid =>
    have hcode : (Char.ofNat code).toNat = code := by
      rw [Char.ofNat, dif_pos hvalid]
      rfl
    rw [Option.some.injEq, ← Char.toNat_inj, hcode]
  case isFalse hvalid =>
    refine iff_of_false nofun ?_
    rintro rfl
    exact hvalid c.valid

theorem bind_charOf?_eq_some_iff {code? : Option Nat} {c : Char} :
    code?.bind charOf? = some c ↔ code? = some c.toNat := by
  simp [Option.bind_eq_some_iff, charOf?_eq_some_iff]

/-! ### Common names -/

/-- The common names are in order, so that none of them is there twice. -/
theorem sorted_common : (common.map (·.1)).Pairwise (· < ·) := by decide +kernel

theorem lookup_common_eq_some_iff {name : String} {c : Char} :
    common.lookup name = some c ↔ (name, c) ∈ common := by
  rw [List.lookup_eq_some_iff]
  constructor
  · rintro ⟨before, after, hcommon, -⟩
    rw [hcommon]
    exact List.mem_append_right _ List.mem_cons_self
  · intro hmem
    obtain ⟨before, after, hcommon⟩ := List.append_of_mem hmem
    refine ⟨before, after, hcommon, fun entry hentry => bne_iff_ne.mpr ?_⟩
    -- the names are sorted, so no entry in front has the same name
    have hsorted := sorted_common
    rw [hcommon, List.map_append, List.map_cons] at hsorted
    have hless := (List.pairwise_append.mp hsorted).2.2 _ (List.mem_map_of_mem hentry) _
      List.mem_cons_self
    exact (ne_of_lt hless).symm

/-- No common name is a single character, and those that begin like a code point go on
otherwise. -/
theorem forms_common : ∀ entry ∈ common, entry.1.toList.length ≠ 1 ∧
    (entry.1.toList.head? = some 'u' →
      entry.1.toList[1]? = some 'n' ∧ entry.1.toList[2]? = some 'd') := by
  decide +kernel

/-! ### Plain names and spelled ones -/

theorem plain?_eq_some_iff {stem : List Char} {c : Char} :
    plain? stem = some c ↔ stem = [c] ∨ (String.ofList stem, c) ∈ common := by
  rw [plain?.eq_def]
  split
  case h_1 d =>
    have hcommon : (String.ofList [d], c) ∉ common := by
      intro hmem
      refine (forms_common _ hmem).1 ?_
      rw [String.toList_ofList]
      rfl
    rw [or_iff_left hcommon, Option.some.injEq, List.cons.injEq, and_iff_left rfl]
  case h_2 hne =>
    rw [lookup_common_eq_some_iff, or_iff_right (hne c)]

/-- A letter that is no digit ends no number, which tells the names of characters from the spellings
of code points. -/
theorem not_writes_cons {c : Char} (h : Hex.digit? c = none) (digits : List Char) (number : Nat) :
    ¬ Hex.Writes (c :: digits) number := by
  intro hwrites
  obtain ⟨value, hdigit⟩ := hwrites.exists_isDigit c List.mem_cons_self
  rw [(Hex.digit?_of_isDigit hdigit).1] at h
  cases h

/-- No plain name spells out a code point, so the spellings of code points never shadow a listed
name. -/
theorem plain?_of_digits {digits : List Char} (hlength : 4 ≤ digits.length)
    (h : digits.all fun c => (Hex.digit? c).isSome) : plain? ('u' :: digits) = none := by
  match digits, hlength with
  | first :: digits, hlength =>
    refine Option.eq_none_iff_forall_ne_some.mpr fun c hplain => ?_
    obtain hsingle | hcommon := plain?_eq_some_iff.mp hplain
    · cases hsingle
    · have hforms := (forms_common _ hcommon).2
      simp only [String.toList_ofList] at hforms
      -- the second letter of a common name is no digit
      obtain rfl : first = 'n' := Option.some.inj (hforms rfl).1
      simp [Hex.digit?] at h

theorem spelled?_eq_some_iff {stem : List Char} {c : Char} :
    spelled? stem = some c ↔
      (∃ digits, stem = 'u' :: digits ∧ 4 ≤ digits.length ∧ digits.length ≤ 6 ∧
        Hex.Writes digits c.toNat) ∨ plain? stem = some c := by
  rw [spelled?.eq_def]
  split
  case h_2 hne =>
    refine (or_iff_right ?_).symm
    rintro ⟨digits, rfl, -⟩
    exact hne digits rfl
  case h_1 digits =>
    split
    case isTrue hdigits =>
      obtain ⟨hleast, hmost, hall⟩ := hdigits
      -- a stem that spells a code point is no listed name, so both sides agree on what it means
      have hplain : plain? ('u' :: digits) ≠ some c := by
        rw [plain?_of_digits hleast hall]
        nofun
      have hnil : digits ≠ [] := List.ne_nil_of_length_pos (by omega)
      rw [or_iff_left hplain, bind_charOf?_eq_some_iff, Hex.value?_eq_some_iff, and_iff_right hnil]
      constructor
      · exact fun h => ⟨digits, rfl, hleast, hmost, h⟩
      · rintro ⟨_, ⟨⟩, -, -, h⟩
        exact h
    case isFalse hdigits =>
      refine (or_iff_right ?_).symm
      rintro ⟨_, ⟨⟩, hleast, hmost, h⟩
      refine hdigits ⟨hleast, hmost, List.all_eq_true.mpr fun c hc => ?_⟩
      obtain ⟨value, hdigit⟩ := h.exists_isDigit c hc
      rw [(Hex.digit?_of_isDigit hdigit).1]
      rfl

/-! ### Four digits behind `uni` -/

/-- Characters of one byte are as many bytes as characters. -/
theorem byteLength_of_forall {text : List Char} (h : ∀ c ∈ text, c.utf8Size = 1) :
    byteLength text = text.length := by
  have hfoldl (start : Nat) :
      (text.map Char.utf8Size).foldl (· + ·) start = start + text.length := by
    induction text generalizing start with
    | nil => rfl
    | cons c text ih =>
      obtain ⟨hc, htext⟩ := List.forall_mem_cons.mp h
      rw [List.map_cons, List.foldl_cons, ih htext, hc, List.length_cons]
      omega
  exact (hfoldl 0).trans (Nat.zero_add _)

theorem utf8Size_of_writes {digits : List Char} {number : Nat} (h : Hex.Writes digits number) :
    ∀ c ∈ digits, c.utf8Size = 1 := by
  intro c hc
  obtain ⟨value, hdigit⟩ := h.exists_isDigit c hc
  exact (Hex.digit?_of_isDigit hdigit).2

/-- The reader of four bytes takes four digits, or three behind a sign. -/
theorem signedHexValue?_eq_some_iff {text : List Char} {number : Nat} :
    byteLength text = 4 ∧ signedHexValue? text = some number ↔
      text.length = 4 ∧ Hex.Writes text number ∨
        ∃ digits, text = '+' :: digits ∧ digits.length = 3 ∧ Hex.Writes digits number := by
  rw [signedHexValue?.eq_def]
  split
  -- with a sign, three digits are left of the four bytes
  case h_1 digits =>
    have hunsigned := not_writes_cons (c := '+') rfl digits number
    have hbytes (hwrites : Hex.Writes digits number) :
        byteLength ('+' :: digits) = digits.length + 1 :=
      byteLength_of_forall (List.forall_mem_cons.mpr ⟨rfl, utf8Size_of_writes hwrites⟩)
    rw [or_iff_right fun h => hunsigned h.2, Hex.value?_eq_some_iff]
    constructor
    · rintro ⟨hlength, -, hwrites⟩
      rw [hbytes hwrites] at hlength
      exact ⟨digits, rfl, Nat.succ.inj hlength, hwrites⟩
    · rintro ⟨_, ⟨⟩, hlength, hwrites⟩
      rw [hbytes hwrites, hlength]
      exact ⟨rfl, List.ne_nil_of_length_pos (by omega), hwrites⟩
  -- without one, four bytes of digits are four digits
  case h_2 hplus =>
    have hsigned : ¬ ∃ digits, text = '+' :: digits ∧ digits.length = 3 ∧
        Hex.Writes digits number := by
      rintro ⟨digits, rfl, -⟩
      exact hplus digits rfl
    rw [or_iff_left hsigned, Hex.value?_eq_some_iff]
    constructor
    · rintro ⟨hlength, -, hwrites⟩
      rw [byteLength_of_forall (utf8Size_of_writes hwrites)] at hlength
      exact ⟨hlength, hwrites⟩
    · rintro ⟨hlength, hwrites⟩
      rw [byteLength_of_forall (utf8Size_of_writes hwrites)]
      exact ⟨hlength, List.ne_nil_of_length_pos (by omega), hwrites⟩

/-- Nothing but four digits makes a name of what begins with `uni`. -/
theorem spelled?_uni (text : List Char) : spelled? ('u' :: 'n' :: 'i' :: text) = none := by
  refine Option.eq_none_iff_forall_ne_some.mpr fun c h => ?_
  obtain ⟨_, ⟨⟩, -, -, hwrites⟩ | hplain := spelled?_eq_some_iff.mp h
  · exact not_writes_cons rfl _ _ hwrites
  obtain hsingle | hcommon := plain?_eq_some_iff.mp hplain
  · cases hsingle
  · have hforms := (forms_common _ hcommon).2
    simp [String.toList_ofList] at hforms

/-! ### All names -/

theorem names_iff {stem : List Char} {c : Char} :
    Names stem c ↔
      (∃ digits, stem = 'u' :: 'n' :: 'i' :: digits ∧ digits.length = 4 ∧
        Hex.Writes digits c.toNat) ∨ spelled? stem = some c := by
  rw [spelled?_eq_some_iff, plain?_eq_some_iff]
  constructor
  · rintro (⟨hlength, h⟩ | ⟨hleast, hmost, h⟩ | _ | hcommon)
    · exact .inl ⟨_, rfl, hlength, h⟩
    · exact .inr (.inl ⟨_, rfl, hleast, hmost, h⟩)
    · exact .inr (.inr (.inl rfl))
    · exact .inr (.inr (.inr (by rwa [String.ofList_toList])))
  · rintro (⟨digits, rfl, hlength, h⟩ | ⟨digits, rfl, hleast, hmost, h⟩ | rfl | hcommon)
    · exact .codePoint hlength h
    · exact .scalar hleast hmost h
    · exact .single c
    · exact String.toList_ofList (l := stem) ▸ .common hcommon

/-- **Which names stand for which characters.** A name without its suffix stands for a character if
it spells out its code point, with four digits behind `uni` or four to six behind `u`, if it is the
character, or if it is the common name of the character. Behind `uni` three digits with a plus sign
in front of them count as four; no other name stands for anything. -/
theorem char?_eq_some_iff (name : String) (c : Char) :
    char? name = some c ↔
      Names (stem name) c ∨ ∃ digits, stem name = 'u' :: 'n' :: 'i' :: '+' :: digits ∧
        digits.length = 3 ∧ Hex.Writes digits c.toNat := by
  rw [char?, names_iff]
  split
  -- behind `uni` the four bytes may begin with a sign, which is where the reader differs from the
  -- names
  case h_1 text hstem =>
    rw [hstem, spelled?_uni]
    have hread : byteLength text = 4 ∧ signedHexValue? text = some c.toNat ↔ _ :=
      signedHexValue?_eq_some_iff
    constructor
    · intro h
      split at h
      case isTrue hlength =>
        obtain hdigits | hsigned := hread.mp ⟨hlength, bind_charOf?_eq_some_iff.mp h⟩
        · exact .inl (.inl ⟨text, rfl, hdigits⟩)
        · obtain ⟨digits, rfl, hdigits⟩ := hsigned
          exact .inr ⟨digits, rfl, hdigits⟩
      case isFalse => cases h
    · rintro ((⟨_, ⟨⟩, hdigits⟩ | h) | ⟨digits, ⟨⟩, hdigits⟩)
      · obtain ⟨hlength, hvalue⟩ := hread.mpr (.inl hdigits)
        rw [if_pos hlength, bind_charOf?_eq_some_iff, hvalue]
      · cases h
      · obtain ⟨hlength, hvalue⟩ := hread.mpr (.inr ⟨digits, rfl, hdigits⟩)
        rw [if_pos hlength, bind_charOf?_eq_some_iff, hvalue]
  case h_2 hne =>
    have hsigned : ¬ ∃ digits, stem name = 'u' :: 'n' :: 'i' :: '+' :: digits ∧
        digits.length = 3 ∧ Hex.Writes digits c.toNat := by
      rintro ⟨digits, hstem, -⟩
      exact hne _ hstem
    have hfour : ¬ ∃ digits, stem name = 'u' :: 'n' :: 'i' :: digits ∧ digits.length = 4 ∧
        Hex.Writes digits c.toNat := by
      rintro ⟨digits, hstem, -⟩
      exact hne _ hstem
    rw [or_iff_left hsigned, or_iff_right hfour]

/-- A plus sign is no digit, but `uni+041` is read. -/
theorem not_char?_eq_some_iff :
    ¬ ∀ (name : String) (c : Char), char? name = some c ↔ Names (stem name) c := by
  intro h
  have hread : char? "uni+041" = some 'A' := by decide +kernel
  have hstem : stem "uni+041" = ['u', 'n', 'i', '+', '0', '4', '1'] := by decide +kernel
  have hnames := (h _ _).mp hread
  rw [names_iff, hstem, spelled?_uni] at hnames
  obtain ⟨_, ⟨⟩, -, hwrites⟩ | hnone := hnames
  · exact not_writes_cons rfl _ _ hwrites
  · cases hnone

end GlyphName

end PdfDisplay
