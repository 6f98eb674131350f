import PdfDisplay.Proofs.Syntax.Joining

/-!
# Lexemes of a text that is cut short

Where a text is cut, the lexemes in front of the cut are those of the whole text. At most one more
is read, from the bytes of the lexeme that the cut falls within: `Lexeme.Stub` says what it may be.
A name, a number, a word or a string in digits is one of its kind, an opening pair of angle brackets
becomes a string in digits; a closing pair and a string in parentheses are lost
(`Lexeme.scan_cutTo`). `Lexeme.Scans.cut` lifts this to the lexemes of a text.
-/

namespace PdfDisplay

namespace Lexeme

variable {text tail : Bytes}

/-! ## Stubs -/

/-- Whether a lexeme is a number. -/
def isNumber : Lexeme → Bool
  | integer _ | real _ => true
  | _ => false

/-- What a lexeme may be read as when the text ends within it. -/
inductive Stub : Lexeme → Lexeme → Prop
  /-- A number. -/
  | number {l stub : Lexeme} (h : l.isNumber) (hstub : stub.isNumber) : Stub l stub
  /-- A name. -/
  | name (text stub : String) : Stub (name text) (name stub)
  /-- A word of which some bytes are missing. -/
  | keyword (first : Bytes) {more : Bytes} (h : more ≠ []) :
    Stub (keyword (Utf8.decode (first ++ more))) (keyword (Utf8.decode first))
  /-- A string in digits. -/
  | hexString (bytes stub : Bytes) : Stub (hexString bytes) (hexString stub)
  /-- The first one of a pair of angle brackets. -/
  | bracket : Stub dictionaryStart (hexString [])

/-- Whether what a text begins with is what is left of the beginning of a longer text, which has
`tail` behind it: a lexeme that does not reach the tail is the same, any other is a stub, or nothing
is left of it. -/
inductive CutTo (tail : Bytes) : Front → Front → Prop
  /-- The longer text begins with no lexeme. -/
  | nothing {short long : Front} (h : ∀ l rest, long ≠ .lexeme l rest) : CutTo tail short long
  /-- The lexeme does not reach the tail. -/
  | kept (l : Lexeme) (rest : Bytes) : CutTo tail (.lexeme l rest) (.lexeme l (rest ++ tail))
  /-- The lexeme ends within the tail, and a stub is left. -/
  | stub {l stub : Lexeme} {rest : Bytes} (h : Stub l stub) (hrest : rest.length < tail.length) :
    CutTo tail (.lexeme stub []) (.lexeme l rest)
  /-- The lexeme ends within the tail, and nothing is left. -/
  | lost {short : Front} {l : Lexeme} {rest : Bytes} (h : ∀ stub rest, short ≠ .lexeme stub rest)
    (hrest : rest.length < tail.length) : CutTo tail short (.lexeme l rest)

theorem length_lt_of_run_append {r : StringReader} {bytes rest : Bytes} (h : r.run text = none)
    (hlong : r.run (text ++ tail) = some (bytes, rest)) : rest.length < tail.length := by
  induction text generalizing r with
  | nil => exact StringReader.length_lt_of_run hlong
  | cons b text ih =>
    rw [StringReader.run] at h
    rw [List.cons_append, StringReader.run] at hlong
    cases hnext : r.next b with
    | inl r' =>
      rw [hnext] at h hlong
      exact ih h hlong
    | inr bytes' =>
      rw [hnext] at h
      cases h

/-- Bytes of a kind that reach the end of a text: they end there in the longer text too, or more of
them follow. -/
theorem span_append_of_all {p : UInt8 → Bool} (h : ∀ b ∈ text, p b = true) (tail : Bytes) :
    ((text ++ tail).takeWhile p = text ∧ (text ++ tail).dropWhile p = tail) ∨
      ∃ more, more ≠ [] ∧ (text ++ tail).takeWhile p = text ++ more ∧
        ((text ++ tail).dropWhile p).length < tail.length := by
  rw [List.takeWhile_append_of_pos h, List.dropWhile_append_of_pos h]
  have hsplit := List.takeWhile_append_dropWhile (p := p) (l := tail)
  by_cases hmore : tail.takeWhile p = []
  case pos =>
    rw [hmore, List.nil_append] at hsplit
    rw [hmore, hsplit, List.append_nil]
    exact .inl ⟨rfl, rfl⟩
  case neg =>
    have hlength := congrArg List.length hsplit
    have := List.length_pos_iff.mpr hmore
    rw [List.length_append] at hlength
    exact .inr ⟨_, hmore, rfl, by omega⟩

theorem length_numeral_le_dropWhile (text : Bytes) :
    (numeral text).2.length ≤ (text.dropWhile Byte.isDigit).length := by
  rw [numeral]
  split
  case h_1 rest heq =>
    rw [heq]
    exact Nat.le_succ_of_le (length_dropWhile_le _ rest)
  case h_2 => exact Nat.le_refl _

namespace CutTo

theorem ite {c : Prop} [Decidable c] {short long short' long' : Front}
    (h : c → CutTo tail short long) (h' : ¬ c → CutTo tail short' long') :
    CutTo tail (if c then short else short') (if c then long else long') := by
  split
  case isTrue hc => exact h hc
  case isFalse hc => exact h' hc

theorem same (front : Front) : CutTo [] front front := by
  cases front with
  | done => exact .nothing nofun
  | unterminated => exact .nothing nofun
  | lexeme l rest =>
    have hkept : CutTo [] (.lexeme l rest) (.lexeme l (rest ++ [])) := .kept l rest
    rwa [List.append_nil] at hkept

theorem drop (l : Lexeme) (h : text ≠ []) :
    CutTo tail (.lexeme l (text.drop 1)) (.lexeme l ((text ++ tail).drop 1)) := by
  rw [drop_one_append h]
  exact .kept _ _

/-- What begins with the bytes of a kind. -/
theorem takeWhile {f : Bytes → Lexeme} (p : UInt8 → Bool)
    (hstub : ∀ word more, more ≠ [] → Stub (f (word ++ more)) (f word)) (text tail : Bytes) :
    CutTo tail (.lexeme (f (text.takeWhile p)) (text.dropWhile p))
      (.lexeme (f ((text ++ tail).takeWhile p)) ((text ++ tail).dropWhile p)) := by
  by_cases hreach : text.dropWhile p = []
  case neg =>
    rw [takeWhile_append_of_dropWhile hreach, dropWhile_append_of_dropWhile hreach]
    exact .kept _ _
  case pos =>
    have hall : ∀ b ∈ text, p b = true := List.dropWhile_eq_nil_iff.mp hreach
    rw [hreach, List.takeWhile_eq_self_iff.mpr hall]
    obtain ⟨htake, hdrop⟩ | ⟨more, hmore, htake, hless⟩ := span_append_of_all hall tail
    · rw [htake, hdrop]
      exact .kept (f text) []
    · rw [htake]
      exact .stub (hstub text more hmore) hless

theorem isNumber_numeral (negative : Bool) (n : Numeral) :
    (n.lexeme negative).isNumber = true := by
  have hite {c : Prop} [Decidable c] {l l' : Lexeme} (h : l.isNumber = true)
      (h' : l'.isNumber = true) : (if c then l else l').isNumber = true := by
    split
    case isTrue => exact h
    case isFalse => exact h'
  rw [Numeral.lexeme]
  split
  case h_1 => exact hite rfl rfl
  case h_2 => exact hite rfl rfl

/-- A number that reaches the end of a text: behind it digits and a point go on with it. -/
theorem numeral_append_of_eq_nil (h : (numeral text).2 = []) (tail : Bytes) :
    numeral (text ++ tail) = ((numeral text).1, tail) ∨
      (numeral (text ++ tail)).2.length < tail.length := by
  -- the text ends within the digits before the point or within those behind it
  cases hdrop : text.dropWhile Byte.isDigit with
  | nil =>
    have hall : ∀ b ∈ text, Byte.isDigit b = true := List.dropWhile_eq_nil_iff.mp hdrop
    have hnumeral : numeral text = (⟨text, none⟩, []) := by
      rw [numeral, hdrop, List.takeWhile_eq_self_iff.mpr hall]
    obtain ⟨htake, hrest⟩ | ⟨more, hmore, htake, hless⟩ := span_append_of_all hall tail
    · cases tail with
      | nil =>
        rw [List.append_nil, hnumeral]
        exact .inl rfl
      | cons b tail =>
        by_cases hb : b = 0x2E
        · subst hb
          rw [numeral_of_point hrest]
          exact .inr (Nat.lt_succ_of_le (length_dropWhile_le _ tail))
        · rw [numeral_of_ne_point hrest hb, htake, hnumeral]
          exact .inl rfl
    · exact .inr ((length_numeral_le_dropWhile _).trans_lt hless)
  | cons b after =>
    by_cases hb : b = 0x2E
    case neg =>
      rw [numeral_of_ne_point hdrop hb] at h
      cases h
    case pos =>
      subst hb
      have hne : text.dropWhile Byte.isDigit ≠ [] := hdrop ▸ List.cons_ne_nil _ _
      have hlong := dropWhile_append_of_dropWhile hne tail
      rw [hdrop, List.cons_append] at hlong
      rw [numeral_of_point hdrop] at h ⊢
      have hall : ∀ b ∈ after, Byte.isDigit b = true := List.dropWhile_eq_nil_iff.mp h
      rw [numeral_of_point hlong, takeWhile_append_of_dropWhile hne]
      obtain ⟨htake, hrest⟩ | ⟨more, -, -, hless⟩ := span_append_of_all hall tail
      · rw [htake, hrest, List.takeWhile_eq_self_iff.mpr hall]
        exact .inl rfl
      · exact .inr hless

/-- A number, whose kind may change. -/
theorem number (negative : Bool) (text tail : Bytes) :
    CutTo tail (.lexeme ((numeral text).1.lexeme negative) (numeral text).2)
      (.lexeme ((numeral (text ++ tail)).1.lexeme negative) (numeral (text ++ tail)).2) := by
  by_cases hreach : (numeral text).2 = []
  case neg =>
    rw [numeral_append_of_ne_nil hreach]
    exact .kept _ _
  case pos =>
    rw [hreach]
    obtain hsame | hless := numeral_append_of_eq_nil hreach tail
    · rw [hsame]
      exact .kept _ []
    · exact .stub (.number (isNumber_numeral _ _) (isNumber_numeral _ _)) hless

/-- A string in parentheses is lost if it does not end in front of the cut. -/
theorem literalString (text tail : Bytes) :
    CutTo tail
      (match StringReader.start.run text with
      | some (bytes, rest) => .lexeme (Lexeme.literalString bytes) rest
      | none => .unterminated)
      (match StringReader.start.run (text ++ tail) with
      | some (bytes, rest) => .lexeme (Lexeme.literalString bytes) rest
      | none => .unterminated) := by
  split
  case h_1 bytes rest hrun =>
    rw [run_append hrun]
    exact .kept _ _
  case h_2 hrun =>
    split
    case h_1 bytes rest hlong => exact .lost nofun (length_lt_of_run_append hrun hlong)
    case h_2 => exact .nothing nofun

/-- A string in digits, or a pair of angle brackets. -/
theorem angle (text : Bytes) (htail : tail ≠ []) :
    CutTo tail
      (if text.head? = some (Byte.of '<') then .lexeme dictionaryStart (text.drop 1)
      else .lexeme (hexString (hexBytes (text.takeWhile inHexString)))
        ((text.dropWhile inHexString).drop 1))
      (if (text ++ tail).head? = some (Byte.of '<') then
        .lexeme dictionaryStart ((text ++ tail).drop 1)
      else .lexeme (hexString (hexBytes ((text ++ tail).takeWhile inHexString)))
        (((text ++ tail).dropWhile inHexString).drop 1)) := by
  have hless {rest : Bytes} (hrest : rest.length ≤ tail.length) :
      (rest.drop 1).length < tail.length := by
    have := List.length_pos_iff.mpr htail
    rw [List.length_drop]
    omega
  -- if the string is not closed within the text, its end is looked for in the tail
  by_cases hreach : text.dropWhile inHexString = []
  case neg =>
    have hne : text ≠ [] := by
      rintro rfl
      exact hreach rfl
    rw [head?_append_of_ne_nil hne]
    refine .ite (fun _ => .drop _ hne) fun _ => ?_
    rw [takeWhile_append_of_dropWhile hreach, dropWhile_append_of_dropWhile hreach,
      drop_one_append hreach]
    exact .kept _ _
  case pos =>
    have hall : ∀ b ∈ text, inHexString b = true := List.dropWhile_eq_nil_iff.mp hreach
    have hrest : (text ++ tail).dropWhile inHexString = tail.dropWhile inHexString :=
      List.dropWhile_append_of_pos hall
    rw [hreach, hrest, List.drop_nil]
    cases text with
    | nil =>
      rw [if_neg (by simp)]
      split
      case isTrue => exact .stub .bracket (hless (Nat.le_refl _))
      case isFalse => exact .stub (.hexString _ _) (hless (length_dropWhile_le _ tail))
    | cons b text =>
      refine .ite (fun _ => ?_) fun _ => .stub (.hexString _ _) (hless (length_dropWhile_le _ tail))
      exact .kept _ text

end CutTo

/-! ## The first lexeme -/

theorem begin_cutTo {b : UInt8} (htail : tail ≠ []) (hb : b = Byte.of '>' → text ≠ []) :
    CutTo tail (begin b text) (begin b (text ++ tail)) := by
  rw [begin.eq_def b text, begin.eq_def b (text ++ tail)]
  refine .ite (fun _ => .literalString text tail) fun _ => .ite (fun _ => .angle text htail)
    fun _ => .ite (fun hclose => .drop _ (hb hclose)) fun _ => .ite (fun _ => .kept _ _) fun _ =>
    .ite (fun _ => .kept _ _) fun _ => .ite (fun _ => ?_) fun _ => .ite (fun _ => .number _ _ _)
    fun _ => .ite (fun _ => .number _ (b :: text) _) fun _ => ?_
  · exact .takeWhile (f := fun word => name (Utf8.decode (unescapeName word))) _
      (fun _ _ _ => .name _ _) text tail
  · exact .takeWhile (f := fun word => keyword (Utf8.decode (b :: word))) _
      (fun word _ hmore => .keyword (b :: word) hmore) text tail

/-- Where no lexeme begins in front of the cut, one begins behind it, or a closing pair of brackets
at the cut. -/
theorem toFront_append_of_eq_nil {comment : Bool} (h : toFront comment text = []) (tail : Bytes) :
    (toFront comment (text ++ tail)).length ≤ tail.length ∨
      toFront comment (text ++ tail) = Byte.of '>' :: tail := by
  fun_induction toFront comment text with
  | case1 comment => exact .inl (length_toFront_le comment tail)
  | case2 b text ih =>
    rw [List.cons_append, toFront]
    exact ih h
  | case3 b text hb ih =>
    rw [List.cons_append, toFront]
    by_cases hb' : (Byte.isWhite b || isStray b (text ++ tail)) = true
    case pos =>
      rw [if_pos hb']
      exact ih h
    case neg =>
      -- only a closing bracket at the end of the text can become part of a pair
      rw [Bool.or_eq_true, not_or] at hb'
      rw [Bool.or_eq_true, or_iff_right hb'.1] at hb
      have hstray : isStray b (text ++ tail) ≠ isStray b text := by
        rw [hb]
        exact hb'.2
      have htext : text = [] := by
        by_contra hne
        exact hstray (isStray_append (.inl hne) tail)
      subst htext
      have hclose : b = Byte.of '>' := by
        by_contra hne
        refine hstray ?_
        rw [isStray, isStray, beq_eq_false_iff_ne.mpr hne, Bool.false_and, Bool.false_and]
      subst hclose
      rw [List.nil_append] at hb' ⊢
      rw [if_neg (by rw [Bool.or_eq_true]; exact not_or.mpr hb'), if_neg (by decide)]
      exact .inr rfl
  | case4 text hb ih =>
    have hnone : (Byte.isWhite (Byte.of '%') || isStray (Byte.of '%') (text ++ tail)) = false := rfl
    rw [List.cons_append, toFront, hnone, if_neg Bool.false_ne_true, if_pos rfl]
    exact ih h
  | case5 b text => cases h

theorem length_lt_of_toFront_eq_nil (htail : tail ≠ []) (h : toFront false text = []) {l : Lexeme}
    {rest : Bytes} (hlong : scan (text ++ tail) = .lexeme l rest) : rest.length < tail.length := by
  rw [scan] at hlong
  split at hlong
  case h_1 => cases hlong
  case h_2 b after hfront =>
    have hle := length_le_of_begin hlong
    obtain hlength | hclose := toFront_append_of_eq_nil h tail
    · rw [hfront, List.length_cons] at hlength
      omega
    · rw [hfront] at hclose
      obtain ⟨rfl, rfl⟩ := List.cons.inj hclose
      cases hlong
      have := List.length_pos_iff.mpr htail
      rw [List.length_drop]
      omega

/-- **What a text that is cut short begins with** is what the whole text begins with, or a stub of
it where the cut falls into the first lexeme. -/
theorem scan_cutTo (text tail : Bytes) : CutTo tail (scan text) (scan (text ++ tail)) := by
  by_cases htail : tail = []
  case pos =>
    subst htail
    rw [List.append_nil]
    exact .same _
  case neg =>
    -- the cut lies in the white space and comments in front, or within the lexeme that follows
    cases hfront : toFront false text with
    | nil =>
      have hdone : scan text = .done := by rw [scan, hfront]
      rw [hdone]
      cases hlong : scan (text ++ tail) with
      | done => exact .nothing fun _ _ h => by cases h
      | unterminated => exact .nothing fun _ _ h => by cases h
      | lexeme l rest =>
        have hless := length_lt_of_toFront_eq_nil htail hfront hlong
        exact .lost (fun _ _ h => by cases h) hless
    | cons b after =>
      rw [scan, scan, hfront, toFront_append hfront]
      refine begin_cutTo htail ?_
      rintro rfl rfl
      cases isStray_of_toFront hfront

/-! ## Texts of many lexemes -/

theorem Scans.length_le {last : Bytes} {ls : List Lexeme} (h : Scans text ls last) :
    last.length ≤ text.length := by
  induction h with
  | nil => exact Nat.le_refl _
  | cons hl _ ih => exact ih.trans (length_lt_of_scan hl).le

/-- Lexemes leave over one text, since each scan has one result. -/
theorem Scans.unique {last last' : Bytes} {ls : List Lexeme} (h : Scans text ls last)
    (h' : Scans text ls last') : last = last' := by
  induction h with
  | nil =>
    cases h'
    rfl
  | cons hl _ ih =>
    cases h' with
    | cons hl' hrest' =>
      cases hl.symm.trans hl'
      exact ih hrest'

/-- Whether a text ends within the lexeme `next` of the longer text that has `tail` behind it: of
the longer text it has the lexemes in front of this one, and a stub of it or nothing. -/
structure CutWithin (text tail : Bytes) (front : List Lexeme) (next : Lexeme)
    (stub? : Option Lexeme) : Prop where
  /-- The text begins with these lexemes, and the stub is the last one. -/
  read : ∃ mid, Scans text front mid ∧
    stub?.elim (∀ l rest, scan mid ≠ .lexeme l rest) (scan mid = .lexeme · [])
  /-- The lexeme ends behind the text. -/
  within : ∃ rest, Scans (text ++ tail) (front ++ [next]) rest ∧ rest.length < tail.length
  /-- The stub is what may be left of it. -/
  stub : ∀ stub, stub? = some stub → Stub next stub

theorem CutWithin.cons {rest : Bytes} {l next : Lexeme} {front : List Lexeme}
    {stub? : Option Lexeme} (hl : scan text = .lexeme l rest)
    (hlong : scan (text ++ tail) = .lexeme l (rest ++ tail))
    (h : CutWithin rest tail front next stub?) : CutWithin text tail (l :: front) next stub? where
  read := by
    obtain ⟨mid, hscans, hmid⟩ := h.read
    exact ⟨mid, .cons hl hscans, hmid⟩
  within := by
    obtain ⟨last, hscans, hlast⟩ := h.within
    exact ⟨last, .cons hlong hscans, hlast⟩
  stub := h.stub

/-- **The lexemes of a text that is cut short** are those in front of the cut, and a stub of the one
that the cut falls within. -/
theorem Scans.cut {last : Bytes} {ls : List Lexeme} (h : Scans (text ++ tail) ls last) :
    (∃ last', last = last' ++ tail ∧ Scans text ls last') ∨
      ∃ front next back stub?, ls = front ++ next :: back ∧
        CutWithin text tail front next stub? := by
  induction ls generalizing text with
  | nil =>
    cases h
    exact .inl ⟨text, rfl, .nil⟩
  | cons l ls ih =>
    cases h with
    | @cons _ rest _ _ _ hl hrest =>
      have hwithin : Scans (text ++ tail) ([] ++ [l]) rest := .cons hl .nil
      have hcut := scan_cutTo text tail
      rw [hl] at hcut
      generalize hshort : scan text = short at hcut
      -- the first lexeme is whole in front of the cut, or the cut leaves a stub of it or nothing
      cases hcut with
      | nothing h => exact absurd rfl (h l rest)
      | kept _ mid =>
        obtain ⟨last', rfl, hscans⟩ | ⟨front, next, back, stub?, rfl, hcut⟩ := ih hrest
        · exact .inl ⟨last', rfl, .cons hshort hscans⟩
        · exact .inr ⟨l :: front, next, back, stub?, rfl, hcut.cons hshort hl⟩
      | @stub _ stub _ hstub hless =>
        refine .inr ⟨[], l, ls, some stub, rfl, ⟨text, .nil, hshort⟩, ⟨rest, hwithin, hless⟩, ?_⟩
        rintro _ ⟨⟩
        exact hstub
      | lost hnone hless =>
        subst hshort
        exact .inr ⟨[], l, ls, none, rfl, ⟨text, .nil, hnone⟩, ⟨rest, hwithin, hless⟩, nofun⟩

/-- Lexemes of the longer text that end in front of the cut are among those in front of it. -/
theorem CutWithin.prefix_front {front before behind : List Lexeme} {next : Lexeme}
    {stub? : Option Lexeme} {rest : Bytes} (h : CutWithin text tail front next stub?)
    (hbefore : Scans (text ++ tail) before rest) (hrest : tail.length ≤ rest.length)
    (hpart : before <+: front ++ next :: behind) : before <+: front := by
  obtain ⟨last, hscans, hlast⟩ := h.within
  by_cases hlength : before.length ≤ front.length
  case pos => exact List.prefix_of_prefix_length_le hpart (List.prefix_append _ _) hlength
  case neg =>
    -- otherwise the cut lexeme is among them, which ends behind the cut
    have hfront : front ++ [next] <+: before := by
      refine List.prefix_of_prefix_length_le ⟨behind, List.append_assoc ..⟩ hpart ?_
      rw [List.length_append, List.length_singleton]
      omega
    obtain ⟨more, rfl⟩ := hfront
    obtain ⟨mid, hmid, hmore⟩ := hbefore.append_inv
    obtain rfl := hmid.unique hscans
    have := hmore.length_le
    omega

end Lexeme

end PdfDisplay
