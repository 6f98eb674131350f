import PdfDisplay.Syntax.Operand

/-!
# Inline images

An image inside page contents: entries between `BI` and `ID`, then data up to `EI`. Data
that no filter encodes have a length that the entries determine, and are taken by that
length if an `EI` follows, so that samples that happen to spell `EI` do not end the image.
Other data end at the first `EI` that stands alone.
-/

namespace PdfDisplay

/-- An image inside page contents. -/
structure InlineImage where
  /-- The entries between `BI` and `ID`, in the order written. -/
  entries : List (String × Operand)
  /-- The bytes between `ID` and `EI`. -/
  data : Bytes

namespace InlineImage

/-! ## Entries -/

/-- Reads the entries up to `ID`; `read` holds those read so far, latest first. -/
def readEntries (read : List (String × Operand)) (text : Bytes) :
    Except ContentError (List (String × Operand) × Bytes) :=
  match h : Lexeme.scan text with
  | .done => .error .imageWithoutData
  | .unterminated => .error .unterminatedString
  | .lexeme (.keyword "ID") rest => .ok (read.reverse, rest)
  | .lexeme (.name key) rest =>
    have := Lexeme.length_lt_of_scan h
    match h' : Lexeme.scan rest with
    | .done => .error .imageKeyWithoutValue
    | .unterminated => .error .unterminatedString
    | .lexeme (.keyword "ID") rest' => .ok (read.reverse, rest')
    | .lexeme l rest' =>
      have := Lexeme.length_lt_of_scan h'
      match h'' : Operand.read l rest' with
      | .error e => .error e
      | .ok (value, rest'') =>
        have := Operand.length_le_of_read h''
        readEntries ((key, value) :: read) rest''
  | .lexeme _ rest =>
    have := Lexeme.length_lt_of_scan h
    readEntries read rest
  termination_by text.length

theorem length_le_of_readEntries {read : List (String × Operand)} {text : Bytes}
    {entries : List (String × Operand)} {rest : Bytes}
    (h : readEntries read text = .ok (entries, rest)) : rest.length ≤ text.length := by
  fun_induction readEntries read text with
  | case1 | case2 | case4 | case5 | case7 => cases h
  | case3 read text rest' hscan =>
    simp only [Except.ok.injEq, Prod.mk.injEq] at h
    exact h.2 ▸ Nat.le_of_lt (Lexeme.length_lt_of_scan hscan)
  | case6 read text key rest' hscan _ rest'' hscan' =>
    simp only [Except.ok.injEq, Prod.mk.injEq] at h
    have h₁ := Lexeme.length_lt_of_scan hscan
    have h₂ := Lexeme.length_lt_of_scan hscan'
    exact h.2 ▸ by omega
  | case8 read text key rest' hscan _ l rest'' _ hscan' _ value last hread _ ih =>
    have h₁ := Lexeme.length_lt_of_scan hscan
    have h₂ := Lexeme.length_lt_of_scan hscan'
    have h₃ := Operand.length_le_of_read hread
    have h₄ := ih h
    omega
  | case9 read text l rest' _ _ hscan _ ih =>
    have h₁ := Lexeme.length_lt_of_scan hscan
    have h₂ := ih h
    omega

/-- The first entry with one of the keys. -/
def firstOf? (keys : List String) (entries : List (String × Operand)) : Option Operand :=
  (entries.find? fun (key, _) => keys.contains key).map (·.2)

/-- A positive whole number under one of the keys, its fraction dropped. -/
def size? (keys : List String) (entries : List (String × Operand)) : Option Nat := do
  let value ← (← firstOf? keys entries).number?
  if 1.0 ≤ value then some (toNat64 value) else none

/-- The product if 64 bits hold it. -/
def product64? (m n : Nat) : Option Nat :=
  if m * n < 0x10000000000000000 then some (m * n) else none

/-- How many samples make up a pixel of a color space. -/
def components? : Operand → Option Nat
  | .name space =>
    if ["G", "DeviceGray", "CalGray", "I", "Indexed"].contains space then some 1
    else if ["RGB", "DeviceRGB", "CalRGB"].contains space then some 3
    else if ["CMYK", "DeviceCMYK"].contains space then some 4
    else none
  | .array (.name family :: _) =>
    if family = "I" ∨ family = "Indexed" then some 1 else none
  | _ => none

/-- Whether the entries declare a filter; null and an empty list declare none. -/
def isFiltered (entries : List (String × Operand)) : Bool :=
  match firstOf? ["F", "Filter"] entries with
  | none | some .null | some (.array []) => false
  | some _ => true

/-- The length of data that no filter encodes, if the entries determine it: rows of whole
bytes. -/
def dataLength? (entries : List (String × Operand)) : Option Nat := do
  if isFiltered entries then none
  else
    let width ← size? ["W", "Width"] entries
    let height ← size? ["H", "Height"] entries
    let (components, bits) ←
      match firstOf? ["IM", "ImageMask"] entries with
      -- a stencil has one bit for each pixel, whatever else is declared
      | some (.boolean true) => some (1, 1)
      | _ => do
        let bits ← size? ["BPC", "BitsPerComponent"] entries
        let components ← components? (← firstOf? ["CS", "ColorSpace"] entries)
        some (components, bits)
    let rowBits ← product64? (← product64? width components) bits
    product64? ((rowBits + 7) / 8) height

/-! ## Data -/

/-- The text behind the one white space that separates `ID` from the data; a carriage
return takes a line feed with it. -/
def skipSeparator : Bytes → Bytes
  | 0x0D :: 0x0A :: rest => rest
  | b :: rest => if Byte.isWhite b then rest else b :: rest
  | [] => []

/-- Whether a word may end before this text. -/
def endsWord : Bytes → Bool
  | [] => true
  | b :: _ => !Byte.isRegular b

/-- The text behind an `EI` at the front. -/
def end? : Bytes → Option Bytes
  | e :: i :: rest =>
    if e = Byte.of 'E' ∧ i = Byte.of 'I' ∧ endsWord rest then some rest else none
  | _ => none

/-- Whether the byte read last, if any, separates the data from an `EI`. -/
def separated : Bytes → Bool
  | [] => true
  | b :: _ => Byte.isWhite b

/-- The data read, latest byte first, without the white space that separates them from
`EI`. -/
def withoutSeparator : Bytes → Bytes
  | [] => []
  | b :: read => if Byte.isWhite b then read else b :: read

/-- Looks for the first `EI` that stands alone; `read` holds the data passed over, latest
byte first. -/
def scanData (read : Bytes) : Bytes → Option (Bytes × Bytes)
  | [] => none
  | b :: rest =>
    match if separated read then end? (b :: rest) else none with
    | some rest' => some ((withoutSeparator read).reverse, rest')
    | none => scanData (b :: read) rest

/-- Takes `length` bytes of data if an `EI` follows them. -/
def takeData (length : Nat) (text : Bytes) : Option (Bytes × Bytes) :=
  if length ≤ text.length then
    (end? (Lexeme.skipWhite false (text.drop length))).map (text.take length, ·)
  else none

/-- The data at the front of the text, and what follows the image. -/
def readData (entries : List (String × Operand)) (text : Bytes) : Option (Bytes × Bytes) :=
  ((dataLength? entries).bind (takeData · text)).orElse fun _ => scanData [] text

/-- Reads what follows `BI`. -/
def read (text : Bytes) : Except ContentError (InlineImage × Bytes) :=
  match readEntries [] text with
  | .error e => .error e
  | .ok (entries, rest) =>
    match readData entries (skipSeparator rest) with
    | some (data, rest') => .ok (⟨entries, data⟩, rest')
    | none => .error .imageWithoutEnd

/-! ## Progress -/

theorem length_skipWhite_le (comment : Bool) (text : Bytes) :
    (Lexeme.skipWhite comment text).length ≤ text.length := by
  fun_induction Lexeme.skipWhite comment text <;> simp_all <;> omega

theorem length_skipSeparator_le (text : Bytes) :
    (skipSeparator text).length ≤ text.length := by
  unfold skipSeparator
  split
  · simp only [List.length_cons]; omega
  · split <;> simp
  · exact Nat.le_refl _

theorem length_lt_of_end? {text rest : Bytes} (h : end? text = some rest) :
    rest.length < text.length := by
  unfold end? at h
  split at h
  · split at h
    · obtain rfl := Option.some.inj h
      simp only [List.length_cons]; omega
    · cases h
  · cases h

theorem length_le_of_scanData {read text data rest : Bytes}
    (h : scanData read text = some (data, rest)) : rest.length ≤ text.length := by
  fun_induction scanData read text with
  | case1 => cases h
  | case2 read b text rest' heq =>
    simp only [Option.some.injEq, Prod.mk.injEq] at h
    split at heq
    · exact h.2 ▸ Nat.le_of_lt (length_lt_of_end? heq)
    · cases heq
  | case3 read b text _ ih =>
    rw [List.length_cons]
    exact Nat.le_succ_of_le (ih h)

theorem length_le_of_takeData {length : Nat} {text data rest : Bytes}
    (h : takeData length text = some (data, rest)) : rest.length ≤ text.length := by
  unfold takeData at h
  split at h
  · obtain ⟨rest', hend, heq⟩ := Option.map_eq_some_iff.1 h
    have h₁ := length_lt_of_end? hend
    have h₂ := length_skipWhite_le false (text.drop length)
    have h₃ : (text.drop length).length = text.length - length := List.length_drop
    simp only [Prod.mk.injEq] at heq
    exact heq.2 ▸ by omega
  · cases h

theorem length_le_of_readData {entries : List (String × Operand)} {text data rest : Bytes}
    (h : readData entries text = some (data, rest)) : rest.length ≤ text.length := by
  unfold readData at h
  rcases hd : (dataLength? entries).bind (takeData · text) with _ | taken
  · rw [hd] at h
    exact length_le_of_scanData h
  · rw [hd] at h
    obtain ⟨length, -, htake⟩ := Option.bind_eq_some_iff.1 hd
    obtain rfl : taken = (data, rest) := Option.some.inj h
    exact length_le_of_takeData htake

theorem length_le_of_read {text : Bytes} {image : InlineImage} {rest : Bytes}
    (h : read text = .ok (image, rest)) : rest.length ≤ text.length := by
  unfold read at h
  split at h
  · cases h
  · next entries rest' hentries =>
    have h₁ := length_le_of_readEntries hentries
    have h₂ := length_skipSeparator_le rest'
    split at h
    · next data rest'' hdata =>
      simp only [Except.ok.injEq, Prod.mk.injEq] at h
      obtain ⟨-, rfl⟩ := h
      have h₃ := length_le_of_readData hdata
      omega
    · cases h

end InlineImage

end PdfDisplay
