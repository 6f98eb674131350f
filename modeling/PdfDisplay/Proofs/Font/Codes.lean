import Mathlib.Data.List.Induction
import PdfDisplay.Proofs.CharMap.CodeSpaces
import PdfDisplay.Proofs.Font.Completeness

/-!
# Codes lose no bytes

The codes of a string are what its pieces write (`Font.codesFrom_eq`): all pieces have the code
length of the font, but for the last one, which may be shorter. A code written out in as many bytes
as its piece has gives the piece back, so that the codes of a string and its length determine it
(`Font.written_codes`).

Codes are collected in words of 32 bits. That no byte is shifted out rests on the code length, which
comes from code spaces with bounds of one to four bytes (`CharMap.codeLength?_bounds`), whatever
fails on the way to them (`FontResolver.reports_font_codeLength`).
-/

namespace PdfDisplay

namespace Font

/-! ## Pieces -/

/-- The pieces of some length into which bytes are cut; the last one may be shorter. -/
def pieces (length : Nat) (bytes : Bytes) : List Bytes :=
  if h : 0 < length ∧ bytes ≠ [] then
    have := List.length_pos_of_ne_nil h.2
    bytes.take length :: pieces length (bytes.drop length)
  else []
  termination_by bytes.length
  decreasing_by
    rw [List.length_drop]
    omega

variable {length : Nat}

@[simp] theorem pieces_nil : pieces length [] = [] := by
  rw [pieces, dif_neg fun h => h.2 rfl]

theorem pieces_of_ne_nil (hlength : 0 < length) {bytes : Bytes} (hne : bytes ≠ []) :
    pieces length bytes = bytes.take length :: pieces length (bytes.drop length) := by
  rw [pieces, dif_pos ⟨hlength, hne⟩]

/-- A piece in front of other bytes. -/
theorem pieces_append_of_length (hlength : 0 < length) {piece : Bytes}
    (hpiece : piece.length = length) (bytes : Bytes) :
    pieces length (piece ++ bytes) = piece :: pieces length bytes := by
  have hne : piece ++ bytes ≠ [] := by
    refine List.append_ne_nil_of_left_ne_nil (List.length_pos_iff.mp ?_) bytes
    rwa [hpiece]
  rw [pieces_of_ne_nil hlength hne, List.take_left' hpiece, List.drop_left' hpiece]

/-- Bytes that are no more than a piece. -/
theorem pieces_of_le {bytes : Bytes} (hne : bytes ≠ []) (hle : bytes.length ≤ length) :
    pieces length bytes = [bytes] := by
  have hlength : 0 < length := (List.length_pos_of_ne_nil hne).trans_le hle
  rw [pieces_of_ne_nil hlength hne, List.take_of_length_le hle, List.drop_of_length_le hle,
    pieces_nil]

/-- Cutting behind whole pieces cuts the pieces themselves, by induction over the pieces in front of
the cut. -/
theorem pieces_append (first second : Bytes) (h : length ∣ first.length) :
    pieces length (first ++ second) = pieces length first ++ pieces length second := by
  fun_induction pieces length first with
  | case1 first hpos _ ih =>
    -- as whole pieces are in front, the first piece lies in front of the cut
    have hle : length ≤ first.length := Nat.le_of_dvd (List.length_pos_of_ne_nil hpos.2) h
    have hrest : length ∣ (first.drop length).length := by
      rw [List.length_drop]
      exact Nat.dvd_sub h (dvd_refl length)
    have htake : (first.take length).length = length := List.length_take_of_le hle
    nth_rewrite 1 [← List.take_append_drop length first]
    rw [List.append_assoc, pieces_append_of_length hpos.1 htake, ih hrest, List.cons_append]
  | case2 first hneg =>
    by_cases hlength : 0 < length
    case pos =>
      obtain rfl : first = [] := not_not.mp fun hne => hneg ⟨hlength, hne⟩
      rfl
    case neg =>
      obtain rfl : length = 0 := Nat.eq_zero_of_not_pos hlength
      obtain rfl : first = [] := List.length_eq_zero_iff.mp (Nat.eq_zero_of_zero_dvd h)
      rfl

theorem length_pieces (hlength : 0 < length) (bytes : Bytes) :
    (pieces length bytes).length = (bytes.length + length - 1) / length := by
  fun_induction pieces length bytes with
  | case1 bytes hpos hbytes ih =>
    rw [List.length_cons, ih, List.length_drop]
    by_cases hle : length ≤ bytes.length
    · rw [show bytes.length + length - 1 = bytes.length - length + length - 1 + length by omega,
        Nat.add_div_right _ hlength]
    · rw [show bytes.length - length + length - 1 = length - 1 by omega,
        Nat.div_eq_of_lt (by omega),
        show bytes.length + length - 1 = bytes.length - 1 + length by omega,
        Nat.add_div_right _ hlength, Nat.div_eq_of_lt (by omega)]
  | case2 bytes hneg =>
    obtain rfl : bytes = [] := not_not.mp fun hne => hneg ⟨hlength, hne⟩
    rw [List.length_nil, List.length_nil, Nat.div_eq_of_lt (by omega)]

/-! ## Codes -/

/-- The codes are what the pieces write, also where a part of a piece has been read. -/
theorem codesFrom_eq (piece : Bytes) (hpiece : piece.length < length) (bytes : Bytes) :
    codesFrom length piece bytes = (pieces length (piece.reverse ++ bytes)).map codeOf := by
  -- by induction over the bytes, with the piece that has been begun, its latest byte first
  induction bytes generalizing piece with
  | nil =>
    rw [codesFrom, List.append_nil]
    split
    case isTrue hempty =>
      obtain rfl := List.isEmpty_iff.mp hempty
      rw [List.reverse_nil, pieces_nil, List.map_nil]
    case isFalse hempty =>
      have hne : piece.reverse ≠ [] := by simpa using hempty
      rw [pieces_of_le hne (by rw [List.length_reverse]; exact hpiece.le), List.map_singleton]
  | cons b bytes ih =>
    rw [codesFrom, List.append_cons, ← List.reverse_cons]
    split
    case isTrue hfull =>
      have hlength : (b :: piece).reverse.length = length := by
        rw [List.length_reverse, List.length_cons]
        omega
      have hpos : 0 < length := (Nat.zero_le _).trans_lt hpiece
      rw [ih [] hpos, List.reverse_nil, List.nil_append, pieces_append_of_length hpos hlength,
        List.map_cons]
    case isFalse hpart => exact ih (b :: piece) (by rw [List.length_cons]; omega)

/-- The codes of a string are the numbers that its pieces write. -/
theorem codes_eq {font : Font} (hlength : 0 < font.codeLength) (bytes : Bytes) :
    font.codes bytes = (pieces font.codeLength bytes).map codeOf :=
  codesFrom_eq [] hlength bytes

@[simp] theorem codeOf_append_singleton (bytes : Bytes) (b : UInt8) :
    codeOf (bytes ++ [b]) = codeOf bytes * 256 + b.toNat :=
  List.foldl_append

theorem codeOf_lt (bytes : Bytes) : codeOf bytes < 256 ^ bytes.length := by
  induction bytes using List.reverseRecOn with
  | nil => exact Nat.one_pos
  | append_singleton bytes b ih =>
    have hb := b.toNat_lt
    rw [codeOf_append_singleton, List.length_append, List.length_singleton, Nat.pow_succ]
    omega

/-! ## Words -/

/-- The bytes of a code collected in a word of 32 bits, as far as they fit. -/
def wordOf (bytes : Bytes) : UInt32 :=
  bytes.foldl (fun word b => word <<< 8 ||| b.toUInt32) 0

/-- A word in which there is room takes another byte. -/
theorem toNat_shiftLeft_or {word : UInt32} (hword : word.toNat < 256 ^ 3) (b : UInt8) :
    (word <<< 8 ||| b.toUInt32).toNat = word.toNat * 256 + b.toNat := by
  have hshift : (word <<< 8).toNat = word.toNat <<< 8 := by
    rw [UInt32.toNat_shiftLeft]
    refine Nat.mod_eq_of_lt ?_
    change word.toNat <<< 8 < 2 ^ 32
    rw [Nat.shiftLeft_eq]
    omega
  rw [UInt32.toNat_or, hshift, UInt8.toNat_toUInt32, ← Nat.shiftLeft_add_eq_or_of_lt b.toNat_lt,
    Nat.shiftLeft_eq]

/-- Up to four bytes fit into a word, so shifting and adding bytes wraps nowhere and gives their
number. -/
theorem toNat_wordOf {bytes : Bytes} (h : bytes.length ≤ 4) :
    (wordOf bytes).toNat = codeOf bytes := by
  induction bytes using List.reverseRecOn with
  | nil => rfl
  | append_singleton bytes b ih =>
    rw [List.length_append, List.length_singleton] at h
    have hword := ih (by omega)
    have hroom : (wordOf bytes).toNat < 256 ^ 3 := by
      rw [hword]
      exact (codeOf_lt bytes).trans_le (Nat.pow_le_pow_right (by decide) (by omega))
    rw [codeOf_append_singleton, ← hword, ← toNat_shiftLeft_or hroom, wordOf, List.foldl_append]
    rfl

/-! ## Writing codes -/

/-- A code written in some bytes, the most significant one first. -/
def bigEndian : Nat → Nat → Bytes
  | 0, _ => []
  | count + 1, code => bigEndian count (code / 256) ++ [UInt8.ofNat (code % 256)]

/-- Codes written in `count` bytes: all have the same length, but the last one has what is left. -/
def written (length : Nat) : Nat → List Nat → Bytes
  | _, [] => []
  | count, code :: codes =>
    bigEndian (min length count) code ++ written length (count - length) codes

/-- **The number that bytes write is written by these bytes**, leading zeros included. -/
theorem bigEndian_codeOf (bytes : Bytes) : bigEndian bytes.length (codeOf bytes) = bytes := by
  induction bytes using List.reverseRecOn with
  | nil => rfl
  | append_singleton bytes b ih =>
    have hb := b.toNat_lt
    rw [List.length_append, List.length_singleton, bigEndian, codeOf_append_singleton,
      show (codeOf bytes * 256 + b.toNat) / 256 = codeOf bytes by omega,
      show (codeOf bytes * 256 + b.toNat) % 256 = b.toNat by omega, ih, UInt8.ofNat_toNat]

/-- So the codes of a string write it again, if the length of the last piece is kept. -/
theorem written_pieces (bytes : Bytes) (hlength : 0 < length) :
    written length bytes.length ((pieces length bytes).map codeOf) = bytes := by
  fun_induction pieces length bytes with
  | case1 bytes _ _ ih =>
    rw [List.length_drop] at ih
    rw [List.map_cons, written, ih, ← List.length_take, bigEndian_codeOf, List.take_append_drop]
  | case2 bytes hneg =>
    obtain rfl : bytes = [] := not_not.mp fun hne => hneg ⟨hlength, hne⟩
    rfl

/-! ## Nothing is lost -/

/-- Whether the codes of a font lose no bytes of the strings that they are read from. -/
structure Lossless (font : Font) : Prop where
  /-- A code has one to four bytes. -/
  codeLength : 1 ≤ font.codeLength ∧ font.codeLength ≤ 4
  /-- There are as many codes as it takes to hold all bytes. -/
  length_codes : ∀ bytes,
    (font.codes bytes).length = (bytes.length + font.codeLength - 1) / font.codeLength
  /-- A code is no greater than its bytes can write. -/
  codes_lt : ∀ bytes, ∀ code ∈ font.codes bytes, code < 256 ^ font.codeLength
  /-- Words of 32 bits hold the codes. -/
  words : ∀ bytes, font.codes bytes =
    (pieces font.codeLength bytes).map fun piece => (wordOf piece).toNat
  /-- The codes written out, the last one in as many bytes as are left, are the string. -/
  written : ∀ bytes, written font.codeLength bytes.length (font.codes bytes) = bytes
  /-- Different strings of one length have different codes. -/
  injective : ∀ first second : Bytes, first.length = second.length →
    font.codes first = font.codes second → first = second

theorem length_le_of_mem_pieces {bytes piece : Bytes} (h : piece ∈ pieces length bytes) :
    piece.length ≤ length := by
  fun_induction pieces length bytes with
  | case1 bytes _ _ ih =>
    obtain rfl | hrest := List.mem_cons.mp h
    · exact List.length_take_le ..
    · exact ih hrest
  | case2 => cases h

/-- **Codes of one to four bytes lose nothing**: the string can be written again from its codes and
its length. -/
theorem lossless_of_codeLength {font : Font} (hpos : 1 ≤ font.codeLength)
    (hle : font.codeLength ≤ 4) : font.Lossless := by
  -- the codes can be written again, from which it follows that they are different for different
  -- strings
  have hwritten : ∀ bytes, written font.codeLength bytes.length (font.codes bytes) = bytes := by
    intro bytes
    rw [codes_eq hpos, written_pieces bytes hpos]
  refine
    { codeLength := ⟨hpos, hle⟩
      length_codes := fun bytes => ?_
      codes_lt := fun bytes code hcode => ?_
      words := fun bytes => ?_
      written := hwritten
      injective := fun first second hlength hcodes => ?_ }
  · rw [codes_eq hpos, List.length_map, length_pieces hpos]
  · rw [codes_eq hpos] at hcode
    obtain ⟨piece, hpiece, rfl⟩ := List.mem_map.mp hcode
    have hpow := Nat.pow_le_pow_right (show 0 < 256 by decide) (length_le_of_mem_pieces hpiece)
    exact (codeOf_lt piece).trans_le hpow
  · rw [codes_eq hpos]
    refine List.map_congr_left fun piece hpiece => (toNat_wordOf ?_).symm
    exact (length_le_of_mem_pieces hpiece).trans hle
  · rw [← hwritten first, ← hwritten second, hlength, hcodes]

theorem lossless_fallback (tag : String) : (fallback tag).Lossless :=
  lossless_of_codeLength (le_refl 1) (by decide : 1 ≤ 4)

end Font

/-! ## Resolving -/

theorem FontKind.ofName_eq_composite_iff (name : String) :
    FontKind.ofName name = .composite ↔ name = "Type0" := by
  fun_cases ofName name with
  | case1 | case2 | case3 | case4 | case5 | case6 => simp_all

namespace FontResolver

variable {m : Type → Type} [Monad m] [LawfulMonad m] (r : FontResolver m)

/-- An embedded encoding has a length only if its data are a character map, and then one to four. -/
theorem reports_encodingCodeLength_bounds (d : Dictionary) (encoding? : Option Object) :
    Reports r.tag (fun _ length? => ∀ length, length? = some length → 1 ≤ length ∧ length ≤ 4)
      (r.encodingCodeLength d encoding?) := by
  have hnone (length : Nat) (h : none = some length) : 1 ≤ length ∧ length ≤ 4 := by cases h
  rw [encodingCodeLength.eq_def]
  split
  case h_1 target _ =>
    refine (r.reports_stream r.store.gives_any _ target).bind fun _ data? _ => ?_
    split
    case h_1 data _ =>
      refine .pure fun length hlength => ?_
      -- the length is that of a map that was parsed, whose code spaces are checked there
      obtain ⟨map, hmap, hlength⟩ := Option.bind_eq_some_iff.mp hlength
      cases hread : CharMap.parse data with
      | error e =>
        rw [hread] at hmap
        cases hmap
      | ok other =>
        rw [hread] at hmap
        cases hmap
        exact CharMap.codeLength?_bounds hread hlength
    case h_2 => exact .pure hnone
  case h_2 => exact .pure hnone

theorem reports_codeLength_bounds (d : Dictionary) (encoding? : Option Object)
    {charMap? : Option CharMap}
    (hmap : ∀ map, charMap? = some map → ∃ data, CharMap.parse data = .ok map) :
    Reports r.tag (fun _ length => 1 ≤ length ∧ length ≤ 4)
      (r.codeLength d encoding? charMap?) := by
  -- two, where no length is declared, is between one and four as well
  have hdefault {length? : Option Nat}
      (h : ∀ length, length? = some length → 1 ≤ length ∧ length ≤ 4) :
      1 ≤ length?.getD 2 ∧ length?.getD 2 ≤ 4 := by
    cases length? with
    | none => decide
    | some length => exact h length rfl
  refine (r.reports_encodingCodeLength_bounds d encoding?).bind fun _ embedded? hembedded => ?_
  split
  case isTrue => exact .pure (hdefault hembedded)
  case isFalse =>
    refine .pure (hdefault fun length hlength => ?_)
    obtain ⟨map, hmap', hlength⟩ := Option.bind_eq_some_iff.mp hlength
    obtain ⟨data, hread⟩ := hmap map hmap'
    exact CharMap.codeLength?_bounds hread hlength

theorem reports_composite_codeLength (d : Dictionary) (encoding? : Option Object) {font : Font}
    (hmap : ∀ map, font.charMap? = some map → ∃ data, CharMap.parse data = .ok map) :
    Reports r.tag (fun _ completed => 1 ≤ completed.codeLength ∧ completed.codeLength ≤ 4)
      (r.composite d encoding? font) := by
  have hany := r.store.gives_any
  refine (r.reports_codeLength_bounds d encoding? hmap).bind fun _ length hlength => ?_
  refine (r.reports_descendant hany d).bind fun _ descendant? _ => ?_
  split
  case h_1 => exact r.reports_warn _ _ _ hlength
  case h_2 descendant _ =>
    refine (r.reports_entry hany descendant _).bind fun _ _ _ => ?_
    refine (r.reports_compositeWidths hany descendant _).bind fun _ _ _ => ?_
    refine (r.reports_descriptor hany descendant).bind fun _ descriptor? _ => ?_
    exact (r.reports_program? hany descriptor?).bind fun _ _ _ => .pure hlength

theorem reports_type3_codeLength (d : Dictionary) (encoding? : Option Object) (font : Font) :
    Reports r.tag (fun _ completed => completed.codeLength = font.codeLength)
      (r.type3 d encoding? font) :=
  (r.reports_simpleWidths r.store.gives_any d none).bind fun _ _ _ => .pure rfl

theorem reports_simple_codeLength (d : Dictionary) (encoding? : Option Object) (font : Font) :
    Reports r.tag (fun _ completed => completed.codeLength = font.codeLength)
      (r.simple d encoding? font) := by
  have hany := r.store.gives_any
  refine (r.reports_descriptor hany d).bind fun _ descriptor? _ => ?_
  refine (r.reports_simpleWidths hany d _).bind fun _ _ _ => ?_
  exact (r.reports_program? hany descriptor?).bind fun _ _ _ => .pure rfl

/-- **Codes have one to four bytes**, and one byte unless the font is composite. -/
theorem reports_font_codeLength (d : Dictionary) :
    Reports r.tag
      (fun _ font => (1 ≤ font.codeLength ∧ font.codeLength ≤ 4) ∧
        (d.name? "Subtype" ≠ some "Type0" → font.codeLength = 1))
      (r.font d) := by
  have hany := r.store.gives_any
  have hsimple {length : Nat} (h : length = 1) :
      (1 ≤ length ∧ length ≤ 4) ∧ (d.name? "Subtype" ≠ some "Type0" → length = 1) :=
    ⟨by omega, fun _ => h⟩
  refine (r.reports_entry hany d _).bind fun _ encoding? _ => ?_
  refine (r.reports_charMap hany d).bind fun _ charMap? hmap => ?_
  dsimp only
  split
  -- only a composite font takes its length from anywhere; its subtype is then `Type0`
  case h_1 hkind =>
    refine (r.reports_composite_codeLength d encoding? fun map hmap' => ?_).mono
      fun _ completed hlength => ⟨hlength, fun hsubtype => ?_⟩
    · obtain ⟨_, _, data, _, hread⟩ := hmap.read map hmap'
      exact ⟨data, hread⟩
    · rw [FontKind.ofName_eq_composite_iff] at hkind
      cases hname : d.name? "Subtype" with
      | none =>
        rw [hname] at hkind
        exact absurd hkind (by decide)
      | some name =>
        rw [hname] at hkind hsubtype
        exact absurd (congrArg some hkind) hsubtype
  case h_2 => exact (r.reports_type3_codeLength d encoding? _).mono fun _ _ => hsimple
  case h_3 => exact (r.reports_simple_codeLength d encoding? _).mono fun _ _ => hsimple

end FontResolver

namespace Font

/-- **The codes of a font lose no bytes**, whatever its dictionary says and whatever the store
answers: they have one to four bytes, and one byte unless the font is composite. -/
theorem yields_resolve_lossless {m : Type → Type} [Monad m] [LawfulMonad m] (store : ObjectStore m)
    (tag : String) (d : Dictionary) :
    Yields (fun result => result.value.Lossless ∧
        (d.name? "Subtype" ≠ some "Type0" → result.value.codeLength = 1))
      (resolve store tag d) ∧
    (fallback tag).Lossless ∧ (fallback tag).codeLength = 1 := by
  refine ⟨?_, lossless_fallback tag, rfl⟩
  refine (FontResolver.reports_font_codeLength ⟨store, tag⟩ d).collect.mono ?_
  rintro result ⟨-, ⟨hpos, hle⟩, hsimple⟩
  exact ⟨lossless_of_codeLength hpos hle, hsimple⟩

/-- Five bytes in codes of three bytes, which an embedded encoding declares. Where its data cannot
be decoded, the codes have two bytes. -/
theorem resolve_lossless_embedded :
    let data := Utf8.encode "begincodespacerange<00><FF><000000><FFFFFF>endcodespacerange"
    let store : ObjectStore Id :=
      ⟨fun _ => .ok "<</WMode 1>>",
        fun target => if target.number = 1 then .ok data else .error (.missing target),
        fun _ => .ok data⟩
    let d (number : Nat) : Dictionary :=
      ⟨[("Subtype", .name "Type0"), ("Encoding", .reference ⟨number, 0⟩)]⟩
    let font (number : Nat) := (resolve store "F1" (d number)).value
    (font 1).codeLength = 3 ∧ (font 1).codes [0, 1, 2, 3, 4] = [0x102, 0x304] ∧
      written 3 5 [0x102, 0x304] = [0, 1, 2, 3, 4] ∧ (font 1).Lossless ∧
      (font 2).codeLength = 2 ∧ (font 2).codes [0, 1, 2, 3, 4] = [1, 0x203, 4] ∧
      (font 2).Lossless := by
  intro data store d font
  have hlossless (number : Nat) : (font number).Lossless :=
    (possible_pure _ (yields_resolve_lossless store "F1" (d number)).1).1
  exact ⟨by decide +kernel, by decide +kernel, by decide +kernel, hlossless 1,
    by decide +kernel, by decide +kernel, hlossless 2⟩

end Font

end PdfDisplay
