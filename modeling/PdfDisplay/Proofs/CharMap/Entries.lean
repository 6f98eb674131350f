import Mathlib.Data.Nat.Digits.Defs
import PdfDisplay.Proofs.CharMap.Table

/-!
# Entries of character maps

What the lexemes of an entry look like, and what the entry means: code spaces, single codes with
their texts, and ranges of codes. `SectionKind.IsBody` says which entries a section holds, and the
readers of the three kinds of sections are shown to accept just these bodies and to take up what
their entries say (`addSection_of_isBody`, `exists_isBody_of_addSection`).

Ranges with a list of texts are not among these entries; what is said of ranges is about sections in
which no range has one (`WithoutLists`).
-/

namespace PdfDisplay.CharMap

/-! ## Codes and texts -/

/-- Whether bytes are a code: one to four of them. -/
def IsCode (bytes : Bytes) : Prop := 1 ≤ bytes.length ∧ bytes.length ≤ 4

instance (bytes : Bytes) : Decidable (IsCode bytes) := inferInstanceAs (Decidable (_ ∧ _))

/-- The number that the bytes of a code write, the most significant first. -/
def codeNumber (bytes : Bytes) : Nat := Nat.ofDigits 256 (bytes.reverse.map UInt8.toNat)

/-- Whether bytes are a text: a single byte, or a positive even number of them. -/
def IsText (bytes : Bytes) : Prop :=
  bytes.length = 1 ∨ 0 < bytes.length ∧ bytes.length % 2 = 0

instance (bytes : Bytes) : Decidable (IsText bytes) := inferInstanceAs (Decidable (_ ∨ _))

/-- The code units that the bytes of a text write: two bytes each, the more significant first, or
a single byte. -/
def textUnits : Bytes → List Nat
  | [b] => [b.toNat]
  | bytes => Utf16.units bytes

/-- The text that bytes write. -/
def writtenText (bytes : Bytes) : List Char := Utf16.decode (textUnits bytes)

/-- Reading the bytes of a code from the front gives their number in base 256. -/
theorem foldl_eq_codeNumber (bytes : Bytes) :
    bytes.foldl (fun value b => value * 256 + b.toNat) 0 = codeNumber bytes := by
  rw [codeNumber, Nat.ofDigits_eq_foldr, List.foldr_map, List.foldr_reverse]
  congr 1
  funext value b
  rw [Nat.mul_comm, Nat.add_comm]
  rfl

/-- A string is a code exactly if it has one to four bytes, and the code is their number. -/
theorem codeValue_eq_ok_iff {bytes : Bytes} {code : Nat} :
    codeValue bytes = .ok code ↔ IsCode bytes ∧ code = codeNumber bytes := by
  rw [codeValue, foldl_eq_codeNumber, IsCode]
  split
  case isTrue h => simp [h, eq_comm]
  case isFalse h => simp [h]

/-- **A string is a text exactly if it has one byte or pairs of bytes**, and the text is what these
write in UTF-16. -/
theorem textOf_eq_ok_iff {bytes : Bytes} {text : List Char} :
    textOf bytes = .ok text ↔ IsText bytes ∧ text = writtenText bytes := by
  match bytes with
  | [] => simp [textOf, IsText]
  | [b] => simp [textOf, IsText, writtenText, textUnits, eq_comm]
  | b :: c :: rest =>
    have hne : (b :: c :: rest).length ≠ 1 := by simp
    have hpos : 0 < (b :: c :: rest).length := by simp
    rw [IsText, or_iff_right hne, and_iff_right hpos, textOf.eq_def]
    dsimp only
    split
    case isTrue h =>
      exact ⟨fun he => ⟨h, (Except.ok.inj he).symm⟩, fun he => congrArg Except.ok he.2.symm⟩
    case isFalse h => exact ⟨nofun, fun he => absurd he.1 h⟩

/-! ## Entries -/

/-- An entry of a section. -/
inductive Entry where
  /-- A code space with the number of bytes of its codes. -/
  | codeSpace (length : Nat)
  /-- A single code with its text. -/
  | char (code : Nat) (text : List Char)
  /-- A single code with the name of a glyph. -/
  | glyph
  /-- The codes from `first` to `last`, with the text of the first one. -/
  | range (first last : Nat) (text : List Char)

namespace Entry

/-- The number of bytes that an entry declares for codes. -/
def codeLength? : Entry → Option Nat
  | codeSpace length => some length
  | _ => none

/-- The text that an entry gives a code. In a range the last character is advanced by the distance
from the first code, and becomes U+FFFD if there is no such character. -/
def text? (code : Nat) : Entry → Option (List Char)
  | char c text => if code = c then some text else none
  | range first last text =>
    if first ≤ code ∧ code ≤ last then
      some (text.dropLast ++ (text.getLast?.map (Mapping.advanceChar (code - first))).toList)
    else none
  | _ => none

/-- The mapping of an entry. -/
def mapping? : Entry → Option Mapping
  | char code text => some (.char code text)
  | range first last text => some (.range first last text)
  | _ => none

end Entry

/-- Only the last character of a text counts on along a range. -/
theorem advance_eq (offset : Nat) (text : List Char) :
    Mapping.advance offset text =
      text.dropLast ++ (text.getLast?.map (Mapping.advanceChar offset)).toList := by
  fun_induction Mapping.advance offset text with
  | case1 => rfl
  | case2 c => rfl
  | case3 c rest hne ih =>
    obtain ⟨d, rest, rfl⟩ := List.exists_cons_of_ne_nil hne
    rw [ih, List.dropLast_cons_of_ne_nil hne, List.getLast?_cons_cons, List.cons_append]

/-- The mapping of an entry gives the same texts as the entry. -/
theorem Entry.text?_eq_bind (entry : Entry) (code : Nat) :
    entry.text? code = entry.mapping?.bind (·.text? code) := by
  cases entry with
  | codeSpace | glyph => rfl
  | char c text => simp only [text?, mapping?, Option.bind_some, Mapping.text?, eq_comm]
  | range first last text =>
    simp only [text?, mapping?, Option.bind_some, Mapping.text?, advance_eq]

/-! ## Sections -/

/-- The kind of a section. -/
inductive SectionKind where
  /-- Code spaces. -/
  | codeSpaces
  /-- Single codes. -/
  | chars
  /-- Ranges of codes. -/
  | ranges
  deriving DecidableEq

namespace SectionKind

/-- The word that begins a section. -/
def beginWord : SectionKind → String
  | codeSpaces => "begincodespacerange"
  | chars => "beginbfchar"
  | ranges => "beginbfrange"

/-- The word that ends a section. -/
def endWord : SectionKind → String
  | codeSpaces => "endcodespacerange"
  | chars => "endbfchar"
  | ranges => "endbfrange"

/-- What the lexemes of an entry look like, and which entry they are. -/
inductive IsEntry : SectionKind → List Lexeme → Entry → Prop where
  /-- Two bounds of the same length. -/
  | codeSpace {low high : Bytes} (hlow : IsCode low) (hhigh : high.length = low.length) :
    IsEntry codeSpaces [.hexString low, .hexString high] (.codeSpace low.length)
  /-- A code and a string in angle brackets. -/
  | hexChar {source target : Bytes} (hsource : IsCode source) (htarget : IsText target) :
    IsEntry chars [.hexString source, .hexString target]
      (.char (codeNumber source) (writtenText target))
  /-- A code and a string in parentheses. -/
  | literalChar {source target : Bytes} (hsource : IsCode source) (htarget : IsText target) :
    IsEntry chars [.hexString source, .literalString target]
      (.char (codeNumber source) (writtenText target))
  /-- A code and a name. -/
  | glyph {source : Bytes} {name : String} (hsource : IsCode source) :
    IsEntry chars [.hexString source, .name name] .glyph
  /-- Two codes that are in order and not too far apart, and a string in angle brackets. -/
  | range {low high target : Bytes} (hlow : IsCode low) (hhigh : IsCode high)
    (horder : codeNumber low ≤ codeNumber high)
    (hspan : codeNumber high - codeNumber low ≤ 0xFFFF) (htarget : IsText target) :
    IsEntry ranges [.hexString low, .hexString high, .hexString target]
      (.range (codeNumber low) (codeNumber high) (writtenText target))

/-- The entries that the lexemes of a section hold. -/
inductive Entries (kind : SectionKind) : List Lexeme → List Entry → Prop where
  /-- No entry. -/
  | nil : Entries kind [] []
  /-- An entry in front of others. -/
  | cons {entry : Entry} {ls body : List Lexeme} {entries : List Entry} (h : IsEntry kind ls entry)
    (hrest : Entries kind body entries) : Entries kind (ls ++ body) (entry :: entries)

/-- Whether the lexemes between the words of a section hold some entries. A section of code spaces
holds at least one. -/
structure IsBody (kind : SectionKind) (body : List Lexeme) (entries : List Entry) : Prop where
  /-- The entries. -/
  holds : kind.Entries body entries
  /-- Code spaces are not missing. -/
  nonempty : kind = codeSpaces → entries ≠ []

end SectionKind

/-- Whether no range has a list of texts: the third lexeme of an entry does not open one. -/
def WithoutLists (body : List Lexeme) : Prop := ∀ n, body[3 * n + 2]? ≠ some .arrayStart

/-! ## Reading entries -/

theorem exists_ok_of_bind {ε α β : Type} {x : Except ε α} {f : α → Except ε β} {b : β}
    (h : x >>= f = .ok b) : ∃ a, x = .ok a ∧ f a = .ok b := by
  cases x with
  | error e => cases h
  | ok a => exact ⟨a, rfl, h⟩

/-- A lexeme gives bytes exactly if it is a hexadecimal string of them. -/
theorem hexBytes?_eq_some_iff {l : Lexeme} {bytes : Bytes} :
    hexBytes? l = some bytes ↔ l = .hexString bytes := by
  cases l <;> simp [hexBytes?]

/-- A pair of lexemes is read as a single code exactly if it is an entry. -/
theorem charEntry_eq_ok_iff {source target : Lexeme} {mapping? : Option Mapping} :
    charEntry source target = .ok mapping? ↔
      ∃ entry, SectionKind.IsEntry .chars [source, target] entry ∧
        mapping? = entry.mapping? := by
  constructor
  · intro h
    rw [charEntry] at h
    split at h
    case h_2 => cases h
    case h_1 bytes hsource =>
      obtain rfl := hexBytes?_eq_some_iff.mp hsource
      obtain ⟨code, hvalue, h⟩ := exists_ok_of_bind h
      obtain ⟨hcode, rfl⟩ := codeValue_eq_ok_iff.mp hvalue
      -- the kinds of targets that are accepted are the three kinds of entries
      split at h
      case h_1 target =>
        obtain ⟨text, hvalue, h⟩ := exists_ok_of_bind h
        obtain ⟨htext, rfl⟩ := textOf_eq_ok_iff.mp hvalue
        exact ⟨_, .hexChar hcode htext, (Except.ok.inj h).symm⟩
      case h_2 target =>
        obtain ⟨text, hvalue, h⟩ := exists_ok_of_bind h
        obtain ⟨htext, rfl⟩ := textOf_eq_ok_iff.mp hvalue
        exact ⟨_, .literalChar hcode htext, (Except.ok.inj h).symm⟩
      case h_3 => exact ⟨_, .glyph hcode, (Except.ok.inj h).symm⟩
      case h_4 => cases h
  · rintro ⟨entry, hentry, rfl⟩
    cases hentry with
    | hexChar hsource htarget =>
      simp only [charEntry, hexBytes?, codeValue_eq_ok_iff.mpr ⟨hsource, rfl⟩,
        textOf_eq_ok_iff.mpr ⟨htarget, rfl⟩]
      rfl
    | literalChar hsource htarget =>
      simp only [charEntry, hexBytes?, codeValue_eq_ok_iff.mpr ⟨hsource, rfl⟩,
        textOf_eq_ok_iff.mpr ⟨htarget, rfl⟩]
      rfl
    | glyph hsource =>
      simp only [charEntry, hexBytes?, codeValue_eq_ok_iff.mpr ⟨hsource, rfl⟩]
      rfl

/-- Bounds are accepted exactly if both are codes and in order. -/
theorem rangeBounds_eq_ok_iff {low high : Lexeme} {first last : Nat} :
    rangeBounds low high = .ok (first, last) ↔
      ∃ lowBytes highBytes, low = .hexString lowBytes ∧ high = .hexString highBytes ∧
        IsCode lowBytes ∧ IsCode highBytes ∧ first = codeNumber lowBytes ∧
        last = codeNumber highBytes ∧ first ≤ last ∧ last - first ≤ 0xFFFF := by
  constructor
  · intro h
    rw [rangeBounds] at h
    split at h
    case h_2 => cases h
    case h_1 lowBytes highBytes hlow hhigh =>
      obtain ⟨first', hfirst, h⟩ := exists_ok_of_bind h
      obtain ⟨last', hlast, h⟩ := exists_ok_of_bind h
      obtain ⟨hlowCode, rfl⟩ := codeValue_eq_ok_iff.mp hfirst
      obtain ⟨hhighCode, rfl⟩ := codeValue_eq_ok_iff.mp hlast
      split at h
      case isTrue => cases h
      case isFalse hspan =>
        cases h
        rw [maxSpan] at hspan
        exact ⟨lowBytes, highBytes, hexBytes?_eq_some_iff.mp hlow,
          hexBytes?_eq_some_iff.mp hhigh, hlowCode, hhighCode, rfl, rfl, by omega, by omega⟩
  · rintro ⟨lowBytes, highBytes, rfl, rfl, hlow, hhigh, rfl, rfl, horder, hspan⟩
    -- what the reader refuses: bounds out of order, or too many codes between them
    have hbounds : ¬ (codeNumber highBytes < codeNumber lowBytes ∨
        maxSpan < codeNumber highBytes - codeNumber lowBytes) := by
      rw [maxSpan]
      omega
    simp only [rangeBounds, hexBytes?, codeValue_eq_ok_iff.mpr ⟨hlow, rfl⟩,
      codeValue_eq_ok_iff.mpr ⟨hhigh, rfl⟩]
    exact if_neg hbounds

/-! ## Reading sections -/

open SectionKind (IsEntry Entries IsBody)

/-- The greatest declared code length, behind a further one. -/
def longer (longest? : Option Nat) (length : Nat) : Option Nat :=
  some (max (longest?.getD 0) length)

/-- What has been read of a map, behind further entries. -/
def Contents.add (contents : Contents) (entries : List Entry) : Contents where
  codeLength? := (entries.filterMap Entry.codeLength?).foldl longer contents.codeLength?
  mappings := (entries.filterMap Entry.mapping?).reverse ++ contents.mappings

theorem Contents.add_append (contents : Contents) (first second : List Entry) :
    contents.add (first ++ second) = (contents.add first).add second := by
  simp only [add, List.filterMap_append, List.foldl_append, List.reverse_append,
    List.append_assoc]

/-- Once there is a length, further code spaces make it the greatest of all. -/
theorem foldl_longer (length : Nat) (lengths : List Nat) :
    lengths.foldl longer (some length) = some (lengths.foldl max length) := by
  induction lengths generalizing length with
  | nil => rfl
  | cons first lengths ih => exact ih _

/-- Without a length before, the greatest is that of the code spaces, if there are any. -/
theorem foldl_longer_none (lengths : List Nat) : lengths.foldl longer none = lengths.max? := by
  cases lengths with
  | nil => rfl
  | cons first lengths =>
    rw [List.max?_cons', List.foldl_cons, longer, Option.getD_none, Nat.zero_max, foldl_longer]

/-- **Code spaces that are written are read**, and they make no mappings. -/
theorem codeSpaces_of_entries {body : List Lexeme} {entries : List Entry}
    (h : Entries .codeSpaces body entries) (longest : Nat) :
    codeSpaces longest body = .ok ((entries.filterMap Entry.codeLength?).foldl max longest) ∧
      entries.filterMap Entry.mapping? = [] ∧
      (entries.filterMap Entry.codeLength?).length = entries.length ∧
      body.length = 2 * entries.length := by
  -- by induction over the entries, the greatest length so far being the reader's accumulator
  induction h generalizing longest with
  | nil => exact ⟨rfl, rfl, rfl, rfl⟩
  | cons hentry _ ih =>
    cases hentry with
    | @codeSpace low high hlow hhigh =>
      obtain ⟨hread, hnone, hlengths, hcount⟩ := ih (max longest low.length)
      have hbounds : ¬ (low.length = 0 ∨ 4 < low.length ∨ low.length ≠ high.length) := by
        obtain ⟨hpos, hmax⟩ := hlow
        omega
      refine ⟨?_, hnone, congrArg (· + 1) hlengths, ?_⟩
      · rw [List.cons_append, List.cons_append, codeSpaces, hexBytes?, hexBytes?]
        dsimp only
        rw [if_neg hbounds]
        exact hread
      · simp only [List.length_append, List.length_cons, List.length_nil]
        omega

/-- Code spaces that are read were written, if their lexemes come in pairs; a lexeme that is left
over is passed over. -/
theorem exists_entries_of_codeSpaces {longest length : Nat} {body : List Lexeme}
    (h : codeSpaces longest body = .ok length) (heven : body.length % 2 = 0) :
    ∃ entries, Entries .codeSpaces body entries := by
  -- along the reader, of whose cases only two succeed: a pair of bounds, and the end
  fun_induction codeSpaces longest body with
  | case1 | case3 => cases h
  | case2 longest low high rest lowBytes highBytes hhigh hlow hbounds ih =>
    obtain rfl := hexBytes?_eq_some_iff.mp hlow
    obtain rfl := hexBytes?_eq_some_iff.mp hhigh
    simp only [List.length_cons] at heven
    obtain ⟨entries, hentries⟩ := ih h (by omega)
    exact ⟨_, .cons (.codeSpace ⟨by omega, by omega⟩ (by omega)) hentries⟩
  | case4 body longest hpair =>
    match body with
    | [] => exact ⟨[], .nil⟩
    | [l] => simp at heven
    | low :: high :: rest => exact absurd rfl (hpair low high rest)

/-- **Mappings of single codes that are written are read**, in their order and behind those read
before. -/
theorem charEntries_of_entries {body : List Lexeme} {entries : List Entry}
    (h : Entries .chars body entries) (read : List Mapping) :
    charEntries read body = .ok ((entries.filterMap Entry.mapping?).reverse ++ read) ∧
      entries.filterMap Entry.codeLength? = [] ∧ body.length = 2 * entries.length := by
  -- by induction over the entries, with the mappings read before as the accumulator
  induction h generalizing read with
  | nil => exact ⟨rfl, rfl, rfl⟩
  | @cons entry ls body entries hentry _ ih =>
    obtain ⟨source, target, rfl, hlength⟩ :
        ∃ source target, ls = [source, target] ∧ entry.codeLength? = none := by
      cases hentry <;> exact ⟨_, _, rfl, rfl⟩
    have hpair := charEntry_eq_ok_iff.mpr ⟨entry, hentry, rfl⟩
    have hbody : ∀ read', charEntries read' body =
        .ok ((entries.filterMap Entry.mapping?).reverse ++ read') := fun read' => (ih read').1
    obtain ⟨-, hlengths, hcount⟩ := ih read
    refine ⟨?_, ?_, ?_⟩
    · rw [List.cons_append, List.cons_append, List.nil_append, charEntries, hpair]
      -- a glyph name is an entry without a mapping
      cases hmapping : entry.mapping? with
      | none => rw [List.filterMap_cons_none hmapping]; exact hbody read
      | some mapping =>
        rw [List.filterMap_cons_some hmapping, List.reverse_cons, List.append_assoc]
        exact hbody _
    · rw [List.filterMap_cons_none hlength, hlengths]
    · simp only [List.length_append, List.length_cons, List.length_nil]
      omega

/-- Mappings of single codes that are read were written, if their lexemes come in pairs. -/
theorem exists_entries_of_charEntries {read mappings : List Mapping} {body : List Lexeme}
    (h : charEntries read body = .ok mappings) (heven : body.length % 2 = 0) :
    ∃ entries, Entries .chars body entries := by
  match body with
  | [] => exact ⟨[], .nil⟩
  | [l] => simp at heven
  | source :: target :: rest =>
    rw [charEntries] at h
    obtain ⟨mapping?, hpair, h⟩ := exists_ok_of_bind h
    obtain ⟨entry, hentry, rfl⟩ := charEntry_eq_ok_iff.mp hpair
    simp only [List.length_cons] at heven
    -- whichever mapping was kept, the rest was read by the same reader
    obtain ⟨read', hrest⟩ : ∃ read', charEntries read' rest = .ok mappings := by
      split at h
      case h_1 => exact ⟨_, h⟩
      case h_2 => exact ⟨_, h⟩
    obtain ⟨entries, hentries⟩ := exists_entries_of_charEntries hrest (by omega)
    exact ⟨_, .cons hentry hentries⟩

/-- A range in front of others is read as its mapping. -/
theorem rangeEntries_of_isEntry {ls : List Lexeme} {entry : Entry} (h : IsEntry .ranges ls entry)
    (read : List Mapping) (rest : List Lexeme) :
    ∃ mapping, entry.mapping? = some mapping ∧ entry.codeLength? = none ∧
      rangeEntries read (ls ++ rest) = rangeEntries (mapping :: read) rest := by
  cases h with
  | range hlow hhigh horder hspan htarget =>
    have hbounds := rangeBounds_eq_ok_iff.mpr
      ⟨_, _, rfl, rfl, hlow, hhigh, rfl, rfl, horder, hspan⟩
    refine ⟨_, rfl, rfl, ?_⟩
    simp only [List.cons_append, List.nil_append]
    rw [rangeEntries, hbounds]
    dsimp only
    rw [textOf_eq_ok_iff.mpr ⟨htarget, rfl⟩]

/-- **Mappings of ranges that are written are read**, in their order and behind those read before.
-/
theorem rangeEntries_of_entries {body : List Lexeme} {entries : List Entry}
    (h : Entries .ranges body entries) (read : List Mapping) :
    rangeEntries read body = .ok ((entries.filterMap Entry.mapping?).reverse ++ read) ∧
      entries.filterMap Entry.codeLength? = [] := by
  induction h generalizing read with
  | nil => exact ⟨by rw [rangeEntries]; rfl, rfl⟩
  | cons hentry _ ih =>
    obtain ⟨mapping, hmapping, hlength, hentries⟩ := rangeEntries_of_isEntry hentry read _
    obtain ⟨hread, hlengths⟩ := ih (mapping :: read)
    rw [hentries, hread, List.filterMap_cons_some hmapping, List.reverse_cons, List.append_assoc,
      List.filterMap_cons_none hlength]
    exact ⟨rfl, hlengths⟩

theorem WithoutLists.tail {first second third : Lexeme} {rest : List Lexeme}
    (h : WithoutLists (first :: second :: third :: rest)) : WithoutLists rest := by
  intro n
  have := h (n + 1)
  rwa [show 3 * (n + 1) + 2 = 3 * n + 2 + 1 + 1 + 1 by omega] at this

/-- Behind its bounds a range has a string or a list. -/
theorem exists_target_of_rangeEntries {read mappings : List Mapping} {low high : Lexeme}
    {tail : List Lexeme} (h : rangeEntries read (low :: high :: tail) = .ok mappings) :
    ∃ target rest, tail = target :: rest ∧
      (target = .arrayStart ∨ ∃ bytes, target = .hexString bytes) := by
  rw [rangeEntries.eq_def] at h
  split at h
  case h_1 heq => cases heq
  case h_2 heq =>
    cases heq
    exact ⟨_, _, rfl, .inr ⟨_, rfl⟩⟩
  case h_3 heq =>
    cases heq
    exact ⟨_, _, rfl, .inl rfl⟩
  case h_4 => split at h <;> cases h
  case h_5 heq => cases heq

/-- Mappings of ranges that are read were written, where no range has a list of texts. -/
theorem exists_entries_of_rangeEntries {read mappings : List Mapping} {body : List Lexeme}
    (h : rangeEntries read body = .ok mappings) (hlists : WithoutLists body) :
    ∃ entries, Entries .ranges body entries := by
  match body with
  | [] => exact ⟨[], .nil⟩
  | [l] => rw [rangeEntries] at h; cases h
  | low :: high :: tail =>
    -- the target is a string: the other form, a list, does not occur
    obtain ⟨target, rest, rfl, rfl | ⟨target, rfl⟩⟩ := exists_target_of_rangeEntries h
    · exact absurd rfl (hlists 0)
    rw [rangeEntries] at h
    split at h
    case h_1 => cases h
    case h_2 first last hbounds =>
      obtain ⟨lowBytes, highBytes, rfl, rfl, hlow, hhigh, rfl, rfl, horder, hspan⟩ :=
        rangeBounds_eq_ok_iff.mp hbounds
      split at h
      case h_1 => cases h
      case h_2 text htext =>
        obtain ⟨htarget, rfl⟩ := textOf_eq_ok_iff.mp htext
        obtain ⟨entries, hentries⟩ := exists_entries_of_rangeEntries h hlists.tail
        exact ⟨_, .cons (.range hlow hhigh horder hspan htarget) hentries⟩

/-- A section of code spaces changes the length of the codes only. -/
theorem addSection_codeSpaces (contents : Contents) (body : List Lexeme) :
    addSection contents SectionKind.codeSpaces.endWord body =
      codeSpaceSection body >>= fun length =>
        pure ⟨longer contents.codeLength? length, contents.mappings⟩ :=
  if_pos rfl

theorem addSection_chars (contents : Contents) (body : List Lexeme) :
    addSection contents SectionKind.chars.endWord body =
      charSection contents.mappings body >>= fun mappings =>
        pure ⟨contents.codeLength?, mappings⟩ := by
  rw [addSection, if_neg (by decide)]
  exact if_pos rfl

theorem addSection_ranges (contents : Contents) (body : List Lexeme) :
    addSection contents SectionKind.ranges.endWord body =
      rangeEntries contents.mappings body >>= fun mappings =>
        pure ⟨contents.codeLength?, mappings⟩ := by
  rw [addSection, if_neg (by decide), if_neg (by decide)]

/-- The greatest length of a section is compared with those in front of it. -/
theorem longer_foldl_max (longest? : Option Nat) {lengths : List Nat} (h : lengths ≠ []) :
    longer longest? (lengths.foldl max 0) = lengths.foldl longer longest? := by
  obtain ⟨first, lengths, rfl⟩ := List.exists_cons_of_ne_nil h
  rw [List.foldl_cons, List.foldl_cons, Nat.zero_max, longer, longer, foldl_longer,
    List.foldl_assoc]

/-- **A section with entries adds them**, whichever of the three kinds it is of, behind what the
contents hold already. -/
theorem addSection_of_isBody {kind : SectionKind} {body : List Lexeme} {entries : List Entry}
    (h : IsBody kind body entries) (contents : Contents) :
    addSection contents kind.endWord body = .ok (contents.add entries) := by
  cases kind with
  | codeSpaces =>
    obtain ⟨hread, hmappings, hcount, hlength⟩ := codeSpaces_of_entries h.holds 0
    have hpos := List.length_pos_iff.mpr (h.nonempty rfl)
    -- the reader refuses a section without entries, and lexemes that make up no pairs
    have hshape : ¬ (body.isEmpty ∨ body.length % 2 ≠ 0) := by
      rw [List.isEmpty_iff_length_eq_zero]
      omega
    have hlengths : entries.filterMap Entry.codeLength? ≠ [] :=
      List.length_pos_iff.mp (hcount ▸ hpos)
    rw [addSection_codeSpaces, codeSpaceSection, if_neg hshape, hread, Contents.add, hmappings,
      ← longer_foldl_max _ hlengths]
    rfl
  | chars =>
    obtain ⟨hread, hlengths, hlength⟩ := charEntries_of_entries h.holds contents.mappings
    have heven : ¬ body.length % 2 ≠ 0 := by omega
    rw [addSection_chars, charSection, if_neg heven, hread, Contents.add, hlengths]
    rfl
  | ranges =>
    obtain ⟨hread, hlengths⟩ := rangeEntries_of_entries h.holds contents.mappings
    rw [addSection_ranges, hread, Contents.add, hlengths]
    rfl

/-- **A section that is accepted has a body of its kind**, so accepting and writing are the same for
each of the three kinds. -/
theorem exists_isBody_of_addSection {kind : SectionKind} {body : List Lexeme}
    {contents contents' : Contents} (h : addSection contents kind.endWord body = .ok contents')
    (hlists : kind = .ranges → WithoutLists body) : ∃ entries, IsBody kind body entries := by
  cases kind with
  | codeSpaces =>
    rw [addSection_codeSpaces] at h
    obtain ⟨length, hread, -⟩ := exists_ok_of_bind h
    rw [codeSpaceSection] at hread
    split at hread
    case isTrue => cases hread
    case isFalse hshape =>
      rw [not_or, List.isEmpty_iff, not_not] at hshape
      obtain ⟨entries, hentries⟩ := exists_entries_of_codeSpaces hread hshape.2
      refine ⟨entries, hentries, fun _ => ?_⟩
      rintro rfl
      cases hentries
      exact hshape.1 rfl
  | chars =>
    rw [addSection_chars] at h
    obtain ⟨mappings, hread, -⟩ := exists_ok_of_bind h
    rw [charSection] at hread
    split at hread
    case isTrue => cases hread
    case isFalse heven =>
      obtain ⟨entries, hentries⟩ := exists_entries_of_charEntries hread (not_not.mp heven)
      exact ⟨entries, hentries, nofun⟩
  | ranges =>
    rw [addSection_ranges] at h
    obtain ⟨mappings, hread, -⟩ := exists_ok_of_bind h
    obtain ⟨entries, hentries⟩ := exists_entries_of_rangeEntries hread (hlists rfl)
    exact ⟨entries, hentries, nofun⟩

end PdfDisplay.CharMap
