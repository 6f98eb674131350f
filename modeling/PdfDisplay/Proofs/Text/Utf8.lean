import PdfDisplay.Text.Utf8

/-!
# Reading back what is written as UTF-8

A text that is written as UTF-8 reads as itself: `decode_encode`. The reader takes one byte at
a time, so the statement behind it is about the bytes of a single character: from outside every
sequence they lead outside every sequence again, with that character read
(`foldl_next_utf8EncodeChar`).
-/

namespace PdfDisplay.Utf8

/-! ## Bytes of a text -/

theorem toList_loop (bytes : ByteArray) (i : Nat) (read : List UInt8) :
    ByteArray.toList.loop bytes i read = read.reverse ++ bytes.data.toList.drop i := by
  fun_induction ByteArray.toList.loop bytes i read with
  | case1 i read h ih =>
    have hi : i < bytes.data.toList.length := by simpa using h
    have hget : bytes.get! i = bytes.data.toList[i] := by simp [ByteArray.get!, h]
    rw [ih, List.drop_eq_getElem_cons hi, hget]
    simp
  | case2 i read h =>
    rw [List.drop_eq_nil_of_le (by simpa using Nat.le_of_not_lt h)]
    simp

theorem encode_eq_data (text : String) : encode text = text.toByteArray.data.toList := by
  rw [encode, String.toUTF8_eq_toByteArray, ByteArray.toList, toList_loop]
  rfl

/-- The bytes of a text are those of its characters. -/
theorem encode_ofList (chars : List Char) :
    encode (String.ofList chars) = chars.flatMap String.utf8EncodeChar := by
  rw [encode_eq_data, String.toByteArray_ofList, List.utf8Encode, List.data_toByteArray]

theorem encode_eq_flatMap (text : String) :
    encode text = text.toList.flatMap String.utf8EncodeChar := by
  rw [← encode_ofList, String.ofList_toList]

@[simp] theorem encode_append (first second : String) :
    encode (first ++ second) = encode first ++ encode second := by
  simp only [encode_eq_flatMap, String.toList_append, List.flatMap_append]

/-- An ASCII character is one byte. -/
theorem utf8EncodeChar_of_ascii {c : Char} (h : c.toNat < 0x80) :
    String.utf8EncodeChar c = [c.toUInt8] := by
  have hc : c.val.toNat ≤ 0x7F := Nat.le_of_lt_succ h
  rw [String.utf8EncodeChar, if_pos hc]
  rfl

/-- The bytes of an ASCII text are the codes of its characters. -/
theorem encode_ofList_of_ascii {chars : List Char} (h : ∀ c ∈ chars, c.toNat < 0x80) :
    encode (String.ofList chars) = chars.map Char.toUInt8 := by
  rw [encode_ofList]
  induction chars with
  | nil => rfl
  | cons c chars ih =>
    rw [List.flatMap_cons, utf8EncodeChar_of_ascii (h c List.mem_cons_self),
      ih fun d hd => h d (List.mem_cons_of_mem _ hd)]
    rfl

/-- The bytes of a written-out text. -/
theorem encode_literal (chars : List Char) (h : chars.all (·.toNat < 0x80) = true) :
    encode (String.ofList chars) = chars.map Char.toUInt8 := by
  refine encode_ofList_of_ascii fun c hc => ?_
  exact of_decide_eq_true (List.all_eq_true.mp h c hc)

theorem encode_empty : encode "" = [] := encode_literal [] rfl

theorem encode_blank : encode " " = [0x20] := encode_literal [' '] rfl

/-! ## Reading a character -/

theorem lead_of_ascii (read : List Char) {n : Nat} (h : n < 0x80) :
    Reader.next ⟨read, none⟩ (UInt8.ofNat n) = ⟨Char.ofNat n :: read, none⟩ := by
  have hb : (UInt8.ofNat n).toNat = n := by rw [UInt8.toNat_ofNat']; omega
  have hlt : UInt8.ofNat n < 0x80 := by
    rw [UInt8.lt_iff_toNat_lt, hb]
    exact h
  simp only [Reader.next, Reader.lead, if_pos hlt, hb]

/-- A byte that begins a sequence opens it, with the bytes that are still to come and the bits that
it has brought. -/
theorem lead_of_begin? (read : List Char) {b : UInt8} {s : Sequence} (hb : 0x80 ≤ b.toNat)
    (hs : begin? b = some s) : Reader.next ⟨read, none⟩ b = ⟨read, some s⟩ := by
  have hlt : ¬ b < 0x80 := by
    rw [UInt8.lt_iff_toNat_lt]
    exact Nat.not_lt.mpr hb
  simp only [Reader.next, Reader.lead, if_neg hlt, hs]

theorem begin?_two {n : Nat} (h₁ : 0xC2 ≤ n) (h₂ : n ≤ 0xDF) :
    begin? (UInt8.ofNat n) = some ⟨0, 0x80, 0xBF, n % 32⟩ := by
  have hb : (UInt8.ofNat n).toNat = n := by rw [UInt8.toNat_ofNat']; omega
  simp [begin?, UInt8.le_iff_toNat_le, hb, h₁, h₂]

theorem begin?_three {n : Nat} (h₁ : 0xE0 ≤ n) (h₂ : n ≤ 0xEF) :
    begin? (UInt8.ofNat n) =
      some ⟨1, if n = 0xE0 then 0xA0 else 0x80, if n = 0xED then 0x9F else 0xBF, n % 16⟩ := by
  have hb : (UInt8.ofNat n).toNat = n := by rw [UInt8.toNat_ofNat']; omega
  have h₃ : ¬ n ≤ 0xDF := by omega
  simp [begin?, UInt8.le_iff_toNat_le, ← UInt8.toNat_inj, hb, h₁, h₂, h₃]

theorem begin?_four {n : Nat} (h₁ : 0xF0 ≤ n) (h₂ : n ≤ 0xF4) :
    begin? (UInt8.ofNat n) =
      some ⟨2, if n = 0xF0 then 0x90 else 0x80, if n = 0xF4 then 0x8F else 0xBF, n % 8⟩ := by
  have hb : (UInt8.ofNat n).toNat = n := by rw [UInt8.toNat_ofNat']; omega
  have h₃ : ¬ n ≤ 0xDF := by omega
  have h₄ : ¬ n ≤ 0xEF := by omega
  simp [begin?, UInt8.le_iff_toNat_le, ← UInt8.toNat_inj, hb, h₁, h₂, h₃, h₄]

/-- Bytes behind the first carry six bits. -/
theorem toNat_ofNat_continuation {n : Nat} (h : n < 0x40) :
    (UInt8.ofNat (n + 0x80)).toNat = n + 0x80 := by
  rw [UInt8.toNat_ofNat']
  omega

theorem continues {low high : UInt8} {n : Nat} (h : n < 0x40) (hlow : low.toNat ≤ n + 0x80)
    (hhigh : n + 0x80 ≤ high.toNat) :
    (decide (low ≤ UInt8.ofNat (n + 0x80)) && decide (UInt8.ofNat (n + 0x80) ≤ high)) = true := by
  rw [Bool.and_eq_true, decide_eq_true_iff, decide_eq_true_iff, UInt8.le_iff_toNat_le,
    UInt8.le_iff_toNat_le, toNat_ofNat_continuation h]
  exact ⟨hlow, hhigh⟩

/-- The last byte of a sequence completes the character, whose number is that of all the bits
together. -/
theorem next_of_last (read : List Char) {low high : UInt8} {bits n : Nat} (h : n < 0x40)
    (hlow : low.toNat ≤ n + 0x80) (hhigh : n + 0x80 ≤ high.toNat) :
    Reader.next ⟨read, some ⟨0, low, high, bits⟩⟩ (UInt8.ofNat (n + 0x80)) =
      ⟨Char.ofNat (bits * 64 + n) :: read, none⟩ := by
  have hn : (n + 0x80) % 64 = n := by omega
  simp only [Reader.next, if_pos (continues h hlow hhigh), toNat_ofNat_continuation h, hn]

/-- A byte within a sequence adds its six bits, and one byte less is still to come. -/
theorem next_of_further (read : List Char) {further : Nat} {low high : UInt8} {bits n : Nat}
    (h : n < 0x40) (hlow : low.toNat ≤ n + 0x80) (hhigh : n + 0x80 ≤ high.toNat) :
    Reader.next ⟨read, some ⟨further + 1, low, high, bits⟩⟩ (UInt8.ofNat (n + 0x80)) =
      ⟨read, some ⟨further, 0x80, 0xBF, bits * 64 + n⟩⟩ := by
  have hn : (n + 0x80) % 64 = n := by omega
  simp only [Reader.next, if_pos (continues h hlow hhigh), toNat_ofNat_continuation h, hn]

/-- The bytes of a character, read from outside every sequence, give that character. The
cases are the four lengths. -/
theorem foldl_next_utf8EncodeChar (read : List Char) (c : Char) :
    (String.utf8EncodeChar c).foldl Reader.next ⟨read, none⟩ = ⟨c :: read, none⟩ := by
  have hvalid : c.val.toNat < 0xD800 ∨ 0xDFFF < c.val.toNat ∧ c.val.toNat < 0x110000 := c.valid
  have hofNat : Char.ofNat c.val.toNat = c := Char.ofNat_toNat c
  rw [String.utf8EncodeChar]
  generalize c.val.toNat = v at hvalid hofNat ⊢
  split
  · next h =>
    rw [List.foldl_cons, lead_of_ascii read (by omega), hofNat]
    rfl
  split
  · next h₁ h₂ =>
    have hlead : (UInt8.ofNat (v / 64 % 0x20 + 0xC0)).toNat = v / 64 % 0x20 + 0xC0 := by
      rw [UInt8.toNat_ofNat']; omega
    rw [List.foldl_cons, lead_of_begin? read (by omega) (begin?_two (by omega) (by omega)),
      List.foldl_cons, next_of_last read (Nat.mod_lt _ (by decide)) (by simp) (by simp; omega),
      show (v / 64 % 0x20 + 0xC0) % 32 * 64 + v % 0x40 = v by omega, hofNat]
    rfl
  split
  · next h₁ h₂ h₃ =>
    -- the range behind 0xE0 and 0xED is narrower: no short characters, no surrogates
    have hlead : (UInt8.ofNat (v / 4096 % 0x10 + 0xE0)).toNat = v / 4096 % 0x10 + 0xE0 := by
      rw [UInt8.toNat_ofNat']; omega
    rw [List.foldl_cons, lead_of_begin? read (by omega) (begin?_three (by omega) (by omega)),
      List.foldl_cons, next_of_further read (Nat.mod_lt _ (by decide))
        (by split <;> simp; omega) (by split <;> (simp; omega)),
      List.foldl_cons, next_of_last read (Nat.mod_lt _ (by decide)) (by simp) (by simp; omega),
      show ((v / 4096 % 0x10 + 0xE0) % 16 * 64 + v / 64 % 0x40) * 64 + v % 0x40 = v by omega,
      hofNat]
    rfl
  · next h₁ h₂ h₃ =>
    have hlead : (UInt8.ofNat (v / 262144 % 0x08 + 0xF0)).toNat = v / 262144 % 0x08 + 0xF0 := by
      rw [UInt8.toNat_ofNat']; omega
    rw [List.foldl_cons, lead_of_begin? read (by omega) (begin?_four (by omega) (by omega)),
      List.foldl_cons, next_of_further read (Nat.mod_lt _ (by decide))
        (by split <;> simp; omega) (by split <;> (simp; omega)),
      List.foldl_cons, next_of_further read (Nat.mod_lt _ (by decide)) (by simp) (by simp; omega),
      List.foldl_cons, next_of_last read (Nat.mod_lt _ (by decide)) (by simp) (by simp; omega),
      show (((v / 262144 % 0x08 + 0xF0) % 8 * 64 + v / 4096 % 0x40) * 64 + v / 64 % 0x40) * 64 +
        v % 0x40 = v by omega, hofNat]
    rfl

/-- **Reading what characters are encoded as reads the characters**, by induction over them, with no
sequence open in between. -/
theorem foldl_next_flatMap (read chars : List Char) :
    (chars.flatMap String.utf8EncodeChar).foldl Reader.next ⟨read, none⟩ =
      ⟨chars.reverse ++ read, none⟩ := by
  induction chars generalizing read with
  | nil => rfl
  | cons c chars ih =>
    rw [List.flatMap_cons, List.foldl_append, foldl_next_utf8EncodeChar, ih, List.reverse_cons,
      List.append_assoc]
    rfl

/-- **A text written as UTF-8 reads as itself**, one character at a time. -/
@[simp] theorem decode_encode (text : String) : decode (encode text) = text := by
  rw [encode_eq_flatMap, decode, Reader.start, foldl_next_flatMap, List.append_nil,
    Reader.finish, Option.isSome_none, if_neg Bool.false_ne_true, List.reverse_reverse,
    String.ofList_toList]

/-! ## Bytes behind a text -/

/-- Characters that have been read do not count for what is read behind them. -/
theorem next_behind (read : List Char) (r : Reader) (b : UInt8) :
    Reader.next ⟨r.read ++ read, r.open?⟩ b = ⟨(r.next b).read ++ read, (r.next b).open?⟩ := by
  have hlead (front : List Char) : Reader.lead (front ++ read) b =
      ⟨(Reader.lead front b).read ++ read, (Reader.lead front b).open?⟩ := by
    rw [Reader.lead, Reader.lead]
    split
    case isTrue => rfl
    case isFalse => split <;> rfl
  cases hopen : r.open? with
  | none =>
    simp only [Reader.next, hopen]
    exact hlead r.read
  | some s =>
    simp only [Reader.next, hopen]
    split
    case isTrue => split <;> rfl
    case isFalse => exact hlead (replacement :: r.read)

theorem foldl_next_behind (read : List Char) (r : Reader) (bytes : Bytes) :
    bytes.foldl Reader.next ⟨r.read ++ read, r.open?⟩ =
      ⟨(bytes.foldl Reader.next r).read ++ read, (bytes.foldl Reader.next r).open?⟩ := by
  induction bytes generalizing r with
  | nil => rfl
  | cons b bytes ih => rw [List.foldl_cons, next_behind, ih, List.foldl_cons]

/-- **Behind a text that is whole**, without a replacement character, bytes are read on their
own. -/
theorem decode_append {first : Bytes} (h : replacement ∉ (decode first).toList) (more : Bytes) :
    decode (first ++ more) = decode first ++ decode more := by
  have hfinish : (decode first).toList = (first.foldl Reader.next .start).finish.reverse :=
    String.toList_ofList
  rw [hfinish, List.mem_reverse] at h
  -- a sequence that is cut off would end the text with a replacement character
  have hopen : (first.foldl Reader.next .start).open? = none := by
    cases hsome : (first.foldl Reader.next .start).open? with
    | none => rfl
    | some s =>
      rw [Reader.finish, hsome] at h
      exact absurd List.mem_cons_self h
  have hfirst : first.foldl Reader.next .start =
      ⟨(first.foldl Reader.next .start).read, none⟩ := by
    rw [← hopen]
  generalize (first.foldl Reader.next .start).read = read at hfirst
  have hmore : more.foldl Reader.next ⟨read, none⟩ =
      ⟨(more.foldl Reader.next .start).read ++ read, (more.foldl Reader.next .start).open?⟩ :=
    foldl_next_behind read .start more
  rw [decode, List.foldl_append, hfirst, hmore, decode, decode, hfirst, ← String.ofList_append]
  congr 1
  simp only [Reader.finish]
  split <;> simp

/-- A byte is never read as nothing, so a text that is not empty decodes to one that is not. -/
theorem finish_next_ne_nil (r : Reader) (b : UInt8) : (r.next b).finish ≠ [] := by
  have hlead (read : List Char) : (Reader.lead read b).finish ≠ [] := by
    rw [Reader.lead]
    split
    case isTrue => exact List.cons_ne_nil _ _
    case isFalse => split <;> exact List.cons_ne_nil _ _
  rw [Reader.next]
  split
  case h_1 => exact hlead _
  case h_2 =>
    split
    case isTrue => split <;> exact List.cons_ne_nil _ _
    case isFalse => exact hlead _

/-- Bytes have a text, whatever they are: what is no sequence is read as a replacement character. -/
theorem decode_ne_empty {bytes : Bytes} (h : bytes ≠ []) : decode bytes ≠ "" := by
  obtain ⟨init, b, rfl⟩ := (List.eq_nil_or_concat bytes).resolve_left h
  intro hempty
  have hchars : (decode (init.concat b)).toList = [] := by rw [hempty]; rfl
  rw [decode, String.toList_ofList, List.reverse_eq_nil_iff, List.concat_eq_append,
    List.foldl_append] at hchars
  exact finish_next_ne_nil _ b hchars

end PdfDisplay.Utf8
