import PdfDisplay.Proofs.Syntax.Appending
import PdfDisplay.Proofs.Syntax.Scanning

/-!
# Literal strings

There are many ways of writing one string between parentheses, and all of them are read as its bytes
(`Lexeme.scan_literalString`). Without the parenthesis that closes it there is no string: only a
closing parenthesis ends one (`StringReader.exists_next`), and the beginning of a text without an
end has none either.

The reader counts the open parentheses in 32 bits and does not check the count. So this holds of the
strings in which fewer than 2^32 pairs of parentheses stand within each other; behind so many
openings the next closing parenthesis is taken for the last one (`Lexeme.scan_openings`).
-/

namespace PdfDisplay.Lexeme

namespace StringReader

/-- Nothing but a closing parenthesis ends a string, whatever escape is open and however deep the
reader is. -/
theorem exists_next {b : UInt8} (h : b ≠ Byte.of ')') (r : StringReader) :
    ∃ r', r.next b = .inl r' := by
  have hplain (depth : UInt32) (read : Bytes) : ∃ r', plain depth read b = .inl r' := by
    rw [plain, if_neg h]
    split
    case isTrue => exact ⟨_, rfl⟩
    case isFalse => split <;> exact ⟨_, rfl⟩
  rw [next.eq_def]
  -- within an escape a byte is taken, or is read as it would be behind it
  repeat' split
  all_goals first | exact hplain _ _ | exact ⟨_, rfl⟩

theorem run_eq_none_of_forall_ne {text : Bytes} (h : ∀ b ∈ text, b ≠ Byte.of ')')
    (r : StringReader) : r.run text = none := by
  induction text generalizing r with
  | nil => rfl
  | cons b text ih =>
    obtain ⟨hb, htext⟩ := List.forall_mem_cons.mp h
    obtain ⟨r', hnext⟩ := exists_next hb r
    rw [run_cons_of_next hnext, ih htext]

/-- A string that does not end in a text does not end in the beginning of the text. -/
theorem run_eq_none_of_prefix {r : StringReader} {front text : Bytes} (h : r.run text = none)
    (hfront : front <+: text) : r.run front = none := by
  obtain ⟨tail, rfl⟩ := hfront
  refine Option.eq_none_iff_forall_ne_some.mpr fun (bytes, rest) hrun => ?_
  rw [run_append hrun] at h
  cases h

end StringReader

/-- Whether a text is read as the bytes of a literal string. The reading goes on right behind the
closing parenthesis. Where that parenthesis is missing there is no string: neither from the text in
front of it, however much of that is there, nor with anything behind it that holds no closing
parenthesis. -/
structure IsStringText (bytes text : Bytes) : Prop where
  /-- Between parentheses it is the string. -/
  closed : ∀ rest,
    scan (Byte.of '(' :: (text ++ Byte.of ')' :: rest)) = .lexeme (literalString bytes) rest
  /-- Without the closing one it is none. -/
  unclosed : ∀ front tail, front <+: text ++ tail → (∀ b ∈ tail, b ≠ Byte.of ')') →
    scan (Byte.of '(' :: front) = .unterminated

/-- **A literal string is read as its bytes, in whatever way it is written**, if fewer than 2^32
pairs of parentheses stand within each other in it. -/
theorem scan_literalString {depth : Nat} {bytes text : Bytes}
    (h : StringSpelling depth bytes text) (hdepth : depth < 2 ^ 32) : IsStringText bytes text where
  closed := scan_append_of_stringSpelling h hdepth
  unclosed front tail hfront htail := by
    have hopen : StringReader.start.run (text ++ tail) = none := by
      rw [StringReader.start,
        StringReader.run_append_of_stringSpelling [] h (StringReader.counts_one hdepth)]
      exact StringReader.run_eq_none_of_forall_ne htail _
    rw [scan_cons rfl rfl (by decide), begin, if_pos rfl,
      StringReader.run_eq_none_of_prefix hopen hfront]

/-- A string with parentheses of both kinds, a digit behind an octal escape, and lines that are
continued; cut in front of its end, it is none. -/
theorem scan_literalString_nested :
    let text := Utf8.encode "a\\\r\n(\\142)\\0600\\(\\\n1"
    StringSpelling 1 (Utf8.encode "a(b)00(1") text ∧
      scan (Byte.of '(' :: (text ++ Byte.of ')' :: Utf8.encode " Tj")) =
        .lexeme (literalString (Utf8.encode "a(b)00(1")) (Utf8.encode " Tj") ∧
      scan (Byte.of '(' :: text.take 9) = .unterminated := by
  intro text
  have htext : text = Byte.of 'a' :: Byte.of '\\' :: ([0x0D, 0x0A] ++ Byte.of '(' ::
      ([Byte.of '\\', Byte.of '1', Byte.of '4', Byte.of '2'] ++ Byte.of ')' ::
        Byte.of '\\' :: Byte.of '0' :: Byte.of '6' :: Byte.of '0' :: Byte.of '0' ::
          Byte.of '\\' :: Byte.of '(' :: Byte.of '\\' :: ([0x0A] ++ [Byte.of '1']))) := by
    decide +kernel
  have hbytes : Utf8.encode "a(b)00(1" = Byte.of 'a' :: Byte.of '(' :: ([Byte.of 'b'] ++
      Byte.of ')' :: Byte.of '0' :: Byte.of '0' :: Byte.of '(' :: [Byte.of '1']) := by
    decide +kernel
  -- the spelling is built from its innermost parentheses outwards
  have hinner : StringSpelling 0 [Byte.of 'b']
      [Byte.of '\\', Byte.of '1', Byte.of '4', Byte.of '2'] :=
    @StringSpelling.octal 0 (Byte.of '1') (Byte.of '4') (Byte.of '2') [] [] rfl rfl rfl .nil
  have hparenthesis : StringSpelling 1 [Byte.of '(', Byte.of '1']
      (Byte.of '\\' :: Byte.of '(' :: Byte.of '\\' :: ([0x0A] ++ [Byte.of '1'])) :=
    .named (by decide) (.continued (.inl rfl) (.plain rfl .nil))
  have h : StringSpelling 1 (Utf8.encode "a(b)00(1") text := by
    rw [htext, hbytes]
    exact .plain rfl (.continued (.inr rfl) (.nested hinner
      (@StringSpelling.octal 1 (Byte.of '0') (Byte.of '6') (Byte.of '0') _ _ rfl rfl rfl
        (.plain rfl hparenthesis))))
  have hread := scan_literalString h (by decide)
  refine ⟨h, hread.closed _, hread.unclosed _ [] ?_ (List.forall_mem_nil _)⟩
  rw [List.append_nil]
  exact List.take_prefix 9 text

/-! ## Where the count of open parentheses starts over -/

/-- Opening parentheses are bytes of the string, and each one is counted. -/
theorem StringReader.run_openings (n : Nat) (depth : UInt32) (read rest : Bytes) :
    run ⟨.none, depth, read⟩ (List.replicate n (Byte.of '(') ++ rest) =
      run ⟨.none, depth + .ofNat n, List.replicate n (Byte.of '(') ++ read⟩ rest := by
  induction n generalizing depth read with
  | zero => simp
  | succ n ih =>
    have hopen : next ⟨.none, depth, read⟩ (Byte.of '(') =
        .inl ⟨.none, depth + 1, Byte.of '(' :: read⟩ := rfl
    have hcount : depth + 1 + .ofNat n = depth + .ofNat (n + 1) := by
      rw [UInt32.ofNat_add, UInt32.add_comm (.ofNat n), UInt32.add_assoc]
      rfl
    rw [List.replicate_succ, List.cons_append, run_cons_of_next hopen, ih, hcount,
      ← List.replicate_succ, List.replicate_succ', List.append_assoc, List.singleton_append]

/-- Behind as many openings as 32 bits have numbers the count is where it was in front of them, and
one closing parenthesis ends the string. -/
theorem scan_openings {n : Nat} (hn : UInt32.ofNat n = 0) (rest : Bytes) :
    scan (Byte.of '(' :: (List.replicate n (Byte.of '(') ++ Byte.of ')' :: rest)) =
      .lexeme (literalString (List.replicate n (Byte.of '('))) rest := by
  have hclose (read : Bytes) : StringReader.next ⟨.none, 1 + 0, read⟩ (Byte.of ')') =
      .inr read.reverse := if_pos (show (1 : UInt32) + 0 - 1 = 0 by decide)
  rw [scan_cons rfl rfl (by decide), begin, if_pos rfl, StringReader.start,
    StringReader.run_openings, hn, StringReader.run, hclose, List.append_nil,
    List.reverse_replicate]

/-- Pairs of parentheses, all within each other. -/
def parentheses (pairs : Nat) : Bytes :=
  List.replicate pairs (Byte.of '(') ++ List.replicate pairs (Byte.of ')')

theorem stringSpelling_parentheses (pairs : Nat) :
    StringSpelling pairs (parentheses pairs) (parentheses pairs) := by
  induction pairs with
  | zero => exact .nil
  | succ pairs ih =>
    have houter : parentheses (pairs + 1) =
        Byte.of '(' :: (parentheses pairs ++ Byte.of ')' :: []) := by
      rw [parentheses, List.replicate_succ, List.replicate_succ' (a := Byte.of ')'),
        List.cons_append, parentheses, List.append_assoc]
    rw [houter]
    exact .nested ih .nil

theorem prefix_parentheses {pairs : Nat} (h : 0 < pairs) :
    List.replicate pairs (Byte.of '(') ++ [Byte.of ')'] <+: parentheses pairs := by
  obtain ⟨others, rfl⟩ := Nat.exists_eq_add_one_of_ne_zero (Nat.ne_of_gt h)
  rw [parentheses, List.prefix_append_right_inj]
  exact ⟨List.replicate others (Byte.of ')'), List.replicate_succ.symm⟩

/-- **The count of open parentheses is not checked**: where 2^32 pairs stand within each other, a
text is read as a string although closing parentheses are missing, and the string is shortened. -/
theorem not_scan_literalString :
    ¬ ∀ (depth : Nat) (bytes text : Bytes), StringSpelling depth bytes text →
      IsStringText bytes text := by
  intro h
  have hread := h (2 ^ 32) _ _ (stringSpelling_parentheses (2 ^ 32))
  have hfront := prefix_parentheses (show 0 < 2 ^ 32 by decide)
  rw [← (parentheses (2 ^ 32)).append_nil] at hfront
  have hnone := hread.unclosed _ [] hfront (List.forall_mem_nil _)
  rw [scan_openings (by decide) []] at hnone
  cases hnone

end PdfDisplay.Lexeme
