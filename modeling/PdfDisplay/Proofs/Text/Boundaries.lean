import Mathlib.Data.List.Basic
import PdfDisplay.Text.Normal

/-!
# Where texts may be normalized apart

Normalization does not go over some places of a text. Marks are sorted up to the next starter, and a
starter that is never the second part of a composite composes with nothing in front. A character
whose decomposition begins with such a starter is a boundary (`NormalForm.IsBoundary`): what stands
in front of it and what begins with it may be normalized apart (`NormalForm.apply_append`), and so
may the texts that a text is put together from, if all but the first begin at a boundary
(`NormalForm.apply_join`). ASCII characters are boundaries.
-/

namespace PdfDisplay

namespace Normal

/-! ## Sorting -/

/-- What stands behind a starter is not touched by what is arranged in front. -/
theorem foldr_arrange (text rest : List Letter) :
    text.foldr arrange ([], rest) =
      ((text.foldr arrange ([], [])).1, (text.foldr arrange ([], [])).2 ++ rest) := by
  induction text with
  | nil => rfl
  | cons letter text ih =>
    rw [List.foldr_cons, ih, List.foldr_cons]
    obtain ⟨run, sorted⟩ := text.foldr arrange ([], [])
    rw [arrange, arrange]
    split
    case isTrue => simp
    case isFalse => rfl

theorem sortMarks_eq (text : List Letter) :
    sortMarks text =
      (text.foldr arrange ([], [])).1.marks ++ (text.foldr arrange ([], [])).2 := rfl

theorem sortMarks_cons {letter : Letter} (h : letter.rank = 0) (text : List Letter) :
    sortMarks (letter :: text) = letter :: sortMarks text := by
  rw [sortMarks, List.foldr_cons, sortMarks]
  obtain ⟨run, sorted⟩ := text.foldr arrange ([], [])
  rw [arrange, if_pos h]
  rfl

/-- Marks in front of a starter and behind it are sorted apart. -/
theorem sortMarks_append {letter : Letter} (h : letter.rank = 0) (front text : List Letter) :
    sortMarks (front ++ letter :: text) = sortMarks front ++ sortMarks (letter :: text) := by
  have hstarter : (letter :: text).foldr arrange ([], []) = ([], sortMarks (letter :: text)) := by
    rw [sortMarks_cons h, List.foldr_cons, sortMarks]
    obtain ⟨run, sorted⟩ := text.foldr arrange ([], [])
    rw [arrange, if_pos h]
  rw [sortMarks_eq, List.foldr_append, hstarter, foldr_arrange, sortMarks_eq front,
    List.append_assoc]

/-! ## Composing -/

namespace Composer

/-- The same text behind others that cannot change any more. -/
def behind (c : Composer) (done : List Char) : Composer := { c with done := c.done ++ done }

theorem text_behind (c : Composer) (done : List Char) : (c.behind done).text = c.text ++ done := by
  simp [text, behind]

theorem join?_behind (c : Composer) (done : List Char) (letter : Letter) :
    (c.behind done).join? letter = (c.join? letter).map (·.behind done) := by
  have hblocks : (c.behind done).blocks letter = c.blocks letter := rfl
  have hstarter : (c.behind done).starter? = c.starter? := rfl
  rw [join?, join?, hblocks, hstarter]
  split
  case isTrue => rfl
  case isFalse =>
    rw [Option.map_map]
    rfl

theorem next_behind (c : Composer) (done : List Char) (letter : Letter) :
    (c.behind done).next letter = (c.next letter).behind done := by
  rw [next, next, join?_behind]
  cases c.join? letter with
  | some composer => rfl
  | none =>
    dsimp only [Option.map_none]
    split
    case isTrue => rw [text_behind]; rfl
    case isFalse => rfl

theorem foldl_next_behind (c : Composer) (done : List Char) (letters : List Letter) :
    letters.foldl next (c.behind done) = (letters.foldl next c).behind done := by
  induction letters generalizing c with
  | nil => rfl
  | cons letter letters ih => rw [List.foldl_cons, next_behind, ih, List.foldl_cons]

/-- A starter that composes with no character begins a text of its own. -/
theorem next_apart (c : Composer) {letter : Letter} (hrank : letter.rank = 0)
    (hapart : ∀ starter, composite? starter letter.char = none) :
    c.next letter = (next {} letter).behind c.text := by
  have hjoin : ∀ composer : Composer, composer.join? letter = none := by
    intro composer
    have hnone : composer.starter?.bind (composite? · letter.char) = none := by
      cases composer.starter? with
      | none => rfl
      | some starter => exact hapart starter
    rw [join?, hnone]
    exact ite_self _
  rw [next, hjoin, next, hjoin]
  dsimp only
  rw [if_pos hrank, if_pos hrank]
  rfl

end Composer

/-- **Composing can be cut in front of a letter that joins nothing before it**: marks are not sorted
across it, and it composes with no starter. -/
theorem compose_append {letter : Letter} (hrank : letter.rank = 0)
    (hapart : ∀ starter, composite? starter letter.char = none) (front text : List Letter) :
    compose (front ++ letter :: text) = compose front ++ compose (letter :: text) := by
  rw [compose, List.foldl_append, List.foldl_cons, Composer.next_apart _ hrank hapart,
    Composer.foldl_next_behind, Composer.text_behind, List.reverse_append]
  rfl

/-! ## Decomposing -/

/-- Whether a character begins, in a decomposition, with a starter. -/
def DecomposesApart (letters : Char → List Char) (c : Char) : Prop :=
  ∃ first rest, letters c = first :: rest ∧ combiningClass first = 0

/-- Whether a character begins, in a decomposition, with a starter that composes with no character
in front. -/
def ComposesApart (letters : Char → List Char) (c : Char) : Prop :=
  ∃ first rest, letters c = first :: rest ∧ combiningClass first = 0 ∧
    ∀ starter, composite? starter first = none

/-- Decomposing can be cut there too, as the letters of a character do not depend on what is around
it. -/
theorem decompose_append {letters : Char → List Char} {c first : Char} {rest : List Char}
    (hletters : letters c = first :: rest) (hfirst : combiningClass first = 0)
    (front text : List Char) :
    decompose letters (front ++ c :: text) =
      decompose letters front ++ decompose letters (c :: text) := by
  have hstarter : (c :: text).flatMap letters = first :: (rest ++ text.flatMap letters) := by
    rw [List.flatMap_cons, hletters, List.cons_append]
  rw [decompose, List.flatMap_append, List.map_append, hstarter, List.map_cons,
    sortMarks_append hfirst, decompose, decompose, hstarter, List.map_cons]

theorem compose_decompose_append {letters : Char → List Char} {c : Char}
    (h : ComposesApart letters c) (front text : List Char) :
    compose (decompose letters (front ++ c :: text)) =
      compose (decompose letters front) ++ compose (decompose letters (c :: text)) := by
  obtain ⟨first, rest, hletters, hfirst, hapart⟩ := h
  have hstarter : (c :: text).flatMap letters = first :: (rest ++ text.flatMap letters) := by
    rw [List.flatMap_cons, hletters, List.cons_append]
  have hsorted : decompose letters (c :: text) =
      .ofChar first :: sortMarks ((rest ++ text.flatMap letters).map Letter.ofChar) := by
    rw [decompose, hstarter, List.map_cons]
    exact sortMarks_cons hfirst _
  rw [decompose_append hletters hfirst, hsorted]
  exact compose_append hfirst hapart _ _

end Normal

namespace NormalForm

open PdfDisplay.Normal

/-- Whether a text that begins with a character may be normalized apart from what stands in
front. -/
def IsBoundary (form : NormalForm) (c : Char) : Prop :=
  match form with
  | .none => True
  | .nfc => ComposesApart canonicalLetters c
  | .nfd => DecomposesApart canonicalLetters c
  | .nfkc => ComposesApart compatibilityLetters c
  | .nfkd => DecomposesApart compatibilityLetters c

/-- Whether a text is empty or begins at a boundary. -/
def Begins (form : NormalForm) (text : String) : Prop := ∀ c ∈ text.toList.head?, form.IsBoundary c

theorem apply_empty (form : NormalForm) : form.apply "" = "" := by
  cases form <;> rfl

/-- **A text may be normalized in two parts where the second begins at a boundary.** -/
theorem apply_append {form : NormalForm} {text : String} (h : form.Begins text) (front : String) :
    form.apply (front ++ text) = form.apply front ++ form.apply text := by
  cases hchars : text.toList with
  | nil =>
    rw [String.toList_eq_nil_iff.mp hchars, String.append_empty, apply_empty, String.append_empty]
  | cons c rest =>
    have hc : form.IsBoundary c := h c (by rw [hchars]; rfl)
    -- composing forms have the lemma on composition; the others map letter by letter
    cases form with
    | none => rfl
    | nfc =>
      simp only [apply, String.toList_append, hchars, compose_decompose_append hc,
        String.ofList_append]
    | nfkc =>
      simp only [apply, String.toList_append, hchars, compose_decompose_append hc,
        String.ofList_append]
    | nfd =>
      obtain ⟨first, behind, hletters, hfirst⟩ := hc
      simp only [apply, apply.ofLetters, String.toList_append, hchars,
        decompose_append hletters hfirst, List.map_append, String.ofList_append]
    | nfkd =>
      obtain ⟨first, behind, hletters, hfirst⟩ := hc
      simp only [apply, apply.ofLetters, String.toList_append, hchars,
        decompose_append hletters hfirst, List.map_append, String.ofList_append]

theorem begins_join {form : NormalForm} {texts : List String}
    (h : ∀ text ∈ texts, form.Begins text) : form.Begins (String.join texts) := by
  induction texts with
  | nil => exact fun c hc => nomatch hc
  | cons text texts ih =>
    obtain ⟨htext, htexts⟩ := List.forall_mem_cons.mp h
    intro c hc
    rw [String.join_cons, String.toList_append, List.head?_append] at hc
    cases hhead : text.toList.head? with
    | none => exact ih htexts c (by rwa [hhead] at hc)
    | some first => exact htext c (by rwa [hhead] at hc ⊢)

/-- **The texts that a text is put together from may be normalized one by one** where all but the
first begin at a boundary. -/
theorem apply_join {form : NormalForm} {texts : List String}
    (h : ∀ text ∈ texts.tail, form.Begins text) :
    form.apply (String.join texts) = String.join (texts.map form.apply) := by
  induction texts with
  | nil => exact apply_empty form
  | cons text texts ih =>
    have hbegins : ∀ text ∈ texts, form.Begins text := h
    rw [String.join_cons, apply_append (begins_join hbegins), List.map_cons, String.join_cons,
      ih fun text htext => hbegins text (List.mem_of_mem_tail htext)]

/-! ## ASCII -/

theorem rows_ascii : ∀ code < 128, row? canonicalBlocks code = .none ∧
    row? compatibilityBlocks code = .none ∧ classIn code combiningRanges = 0 ∧
    compositionRows.lookup code = .none := by
  decide +kernel

theorem canonicalLetters_ascii {c : Char} (h : c.toNat < 128) : canonicalLetters c = [c] := by
  have hsyllable : syllableLetters? c.toNat = .none := by
    rw [syllableLetters?, syllableBase, if_neg (by omega)]
  rw [canonicalLetters, hsyllable, Option.orElse_none, (rows_ascii _ h).1]

theorem compatibilityLetters_ascii {c : Char} (h : c.toNat < 128) :
    compatibilityLetters c = [c] := by
  rw [compatibilityLetters, (rows_ascii _ h).2.1]
  exact canonicalLetters_ascii h

theorem composite?_ascii (starter : Char) {c : Char} (h : c.toNat < 128) :
    composite? starter c = .none := by
  have hsyllable : syllable? starter.toNat c.toNat = .none := by
    rw [syllable?, vowelBase, trailBase, if_neg (by omega), if_neg (by omega)]
  rw [composite?, hsyllable, Option.orElse_none, (rows_ascii _ h).2.2.2]
  rfl

/-- ASCII characters are boundaries in every form: they do not decompose, they have class zero, and
they compose with nothing before them. -/
theorem isBoundary_of_ascii (form : NormalForm) {c : Char} (h : c.toNat < 128) :
    form.IsBoundary c := by
  have hrank : combiningClass c = 0 := (rows_ascii _ h).2.2.1
  have hapart : ∀ starter, composite? starter c = .none := fun starter => composite?_ascii starter h
  cases form with
  | none => exact True.intro
  | nfc => exact ⟨c, [], canonicalLetters_ascii h, hrank, hapart⟩
  | nfd => exact ⟨c, [], canonicalLetters_ascii h, hrank⟩
  | nfkc => exact ⟨c, [], compatibilityLetters_ascii h, hrank, hapart⟩
  | nfkd => exact ⟨c, [], compatibilityLetters_ascii h, hrank⟩

end NormalForm

end PdfDisplay
