import PdfDisplay.Proofs.CharMap.Meaning
import PdfDisplay.Proofs.Object.Nesting
import PdfDisplay.Proofs.Syntax.Depth
import PdfDisplay.Proofs.Syntax.Progress

/-!
# Every reading ends

The readers of contents, of objects and of character maps take one lexeme after another off a text,
some of them with a loop within the loop. Here each of them is written a second time as what one
turn of it does, and every loop is run by a clock, which allows only so many turns
(`runWithin`). Nothing in these definitions asks a text to become shorter; what they call goes along
bytes, lexemes or tokens in order. That every turn leaves less over is what `Approaches` says, and
`runWithin_eq` concludes once for all loops that a clock does not run out which allows one turn for
each byte, and one more. `readers_end` puts the readers together.
-/

namespace PdfDisplay

open Lexeme (scan)

/-! ## Clocks -/

section Clock

variable {σ ρ : Type} {f : σ → ρ} {size : σ → Nat}

/-- Takes turns until one of them comes to a result, as many as the clock allows. A turn comes to
nothing where a clock within it runs out. -/
def runWithin (turn : σ → Option (σ ⊕ ρ)) : (clock : Nat) → σ → Option ρ
  | 0, _ => none
  | clock + 1, state =>
    match turn state with
    | none => none
    | some (.inl next) => runWithin turn clock next
    | some (.inr result) => some result

/-- Whether a turn comes to what a function gives for a state, or closer to it. -/
inductive Approaches (f : σ → ρ) (size : σ → Nat) (state : σ) : Option (σ ⊕ ρ) → Prop where
  /-- It comes to the result. -/
  | result {r : ρ} (h : f state = r) : Approaches f size state (some (.inr r))
  /-- It comes to a smaller state, from where the result is the same. -/
  | turn {next : σ} (h : f state = f next) (hsize : size next < size state) :
    Approaches f size state (some (.inl next))

/-- **A clock does not run out that allows more turns than the state is large.** The turns may
depend on a bound for the states. -/
theorem runWithin_eq {turn : σ → Option (σ ⊕ ρ)} {bound clock : Nat} {state : σ}
    (h : ∀ state, size state < bound → Approaches f size state (turn state))
    (hbound : size state < bound) (hclock : size state < clock) :
    runWithin turn clock state = some (f state) := by
  -- the clock runs down while the bound stays: the clocks within the turns start anew
  induction clock generalizing state with
  | zero => exact absurd hclock (Nat.not_lt_zero _)
  | succ clock ih =>
    have happroaches := h state hbound
    rw [runWithin]
    cases hturn : turn state with
    | none =>
      rw [hturn] at happroaches
      cases happroaches
    | some step =>
      rw [hturn] at happroaches
      cases happroaches with
      | result hresult => exact congrArg some hresult.symm
      | turn hnext hsize =>
        have hnextClock := Nat.lt_of_lt_of_le hsize (Nat.le_of_lt_succ hclock)
        exact hnext ▸ ih (Nat.lt_trans hsize hbound) hnextClock

end Clock

/-! ## Operands -/

namespace Operand

/-- One turn of the reading of containers. -/
def turn : List Container × Bytes →
    Option ((List Container × Bytes) ⊕ Except ContentError (Operand × Bytes))
  | (stack, text) =>
    match scan text with
    | .done => some (.inr (.error (Container.cutOff stack)))
    | .unterminated => some (.inr (.error .unterminatedString))
    | .lexeme l rest =>
      match Container.feed stack l with
      | .error e => some (.inr (.error e))
      | .ok (.inl value) => some (.inr (.ok (value, rest)))
      | .ok (.inr stack') => some (.inl (stack', rest))

/-- Reads an operand by the clock. -/
def readWithin (clock : Nat) (l : Lexeme) (text : Bytes) :
    Option (Except ContentError (Operand × Bytes)) :=
  match Container.begin [] l with
  | .error e => some (.error e)
  | .ok (.inl value) => some (.ok (value, text))
  | .ok (.inr stack) => runWithin turn clock (stack, text)

/-- One turn reads one more lexeme of the operand, and the text that is left is shorter. -/
theorem approaches_turn (state : List Container × Bytes) :
    Approaches (Function.uncurry finish) (·.2.length) state (turn state) := by
  fun_cases turn state with
  | case1 stack text hscan => exact .result (finish_of_done hscan stack)
  | case2 stack text hscan => exact .result (finish_of_unterminated hscan stack)
  | case3 stack text l rest hscan e hfeed => exact .result (finish_of_error hscan hfeed)
  | case4 stack text l rest hscan value hfeed => exact .result (finish_of_feed hscan hfeed)
  | case5 stack text l rest hscan stack' hfeed =>
    exact .turn (finish_of_feed hscan hfeed) (Lexeme.length_lt_of_scan hscan)

/-- An operand is read within as many turns as its text has bytes. -/
theorem readWithin_eq {clock : Nat} {l : Lexeme} {text : Bytes} (h : text.length < clock) :
    readWithin clock l text = some (read l text) := by
  rw [readWithin, read]
  cases Container.begin [] l with
  | error e => rfl
  | ok next =>
    cases next with
    | inl value => rfl
    | inr stack => exact runWithin_eq (fun state _ => approaches_turn state) h h

end Operand

/-! ## Inline images -/

namespace InlineImage

/-- One turn of the reading of entries. -/
def turn (clock : Nat) : List (String × Operand) × Bytes →
    Option ((List (String × Operand) × Bytes) ⊕
      Except ContentError (List (String × Operand) × Bytes))
  | (read, text) =>
    match scan text with
    | .done => some (.inr (.error .imageWithoutData))
    | .unterminated => some (.inr (.error .unterminatedString))
    | .lexeme (.keyword "ID") rest => some (.inr (.ok (read.reverse, rest)))
    | .lexeme (.name key) rest =>
      match scan rest with
      | .done => some (.inr (.error .imageKeyWithoutValue))
      | .unterminated => some (.inr (.error .unterminatedString))
      | .lexeme (.keyword "ID") rest' => some (.inr (.ok (read.reverse, rest')))
      | .lexeme l rest' =>
        match Operand.readWithin clock l rest' with
        | none => none
        | some (.error e) => some (.inr (.error e))
        | some (.ok (value, rest'')) => some (.inl ((key, value) :: read, rest''))
    | .lexeme _ rest => some (.inl (read, rest))

/-- Reads the data behind the entries. -/
def readBehind : List (String × Operand) × Bytes → Except ContentError (InlineImage × Bytes)
  | (entries, text) =>
    match readData entries (skipSeparator text) with
    | some (data, rest) => .ok (⟨entries, data⟩, rest)
    | none => .error .imageWithoutEnd

/-- Reads an inline image by the clock. -/
def readWithin (clock : Nat) (text : Bytes) : Option (Except ContentError (InlineImage × Bytes)) :=
  (runWithin (turn clock) clock ([], text)).map (· >>= readBehind)

/-- One turn reads one more entry of the inline image, and the text that is left is shorter. -/
theorem approaches_turn {clock : Nat} {state : List (String × Operand) × Bytes}
    (h : state.2.length < clock) :
    Approaches (Function.uncurry readEntries) (·.2.length) state (turn clock state) := by
  obtain ⟨read, text⟩ := state
  have hentry {front : Lexeme.Front} (hscan : scan text = front) :
      readEntries read text = readEntry read front := hscan ▸ readEntries_eq read text
  rw [turn]
  split
  case h_1 hscan => exact .result (hentry hscan)
  case h_2 hscan => exact .result (hentry hscan)
  case h_3 hscan => exact .result (hentry hscan)
  case h_4 key rest hscan =>
    have hlength := Lexeme.length_lt_of_scan hscan
    have hvalue {front : Lexeme.Front} (hscan' : scan rest = front) :
        readEntries read text = readValue read key front := hscan' ▸ hentry hscan
    split
    case h_1 hscan' => exact .result (hvalue hscan')
    case h_2 hscan' => exact .result (hvalue hscan')
    case h_3 hscan' => exact .result (hvalue hscan')
    case h_4 l rest' hID hscan' =>
      have hlength' := (Lexeme.length_lt_of_scan hscan').trans hlength
      have hbehind := hvalue hscan'
      rw [readValue.eq_4 _ _ _ _ hID] at hbehind
      -- the clock of the operand allows as many turns as this one does, and less text is left
      rw [Operand.readWithin_eq (hlength'.trans h)]
      cases hread : Operand.read l rest' with
      | error e =>
        rw [hread] at hbehind
        exact .result hbehind
      | ok done =>
        rw [hread] at hbehind
        exact .turn hbehind (Nat.lt_of_le_of_lt (Operand.length_le_of_read hread) hlength')
  case h_5 l rest hID hname hscan =>
    have hbehind := hentry hscan
    rw [readEntry.eq_5 _ _ _ hID hname] at hbehind
    exact .turn hbehind (Lexeme.length_lt_of_scan hscan)

theorem read_eq (text : Bytes) : read text = readEntries [] text >>= readBehind := by
  rw [read]
  cases readEntries [] text <;> rfl

/-- **An inline image is read within as many turns as its text has bytes**, its entries first and
its data behind them. -/
theorem readWithin_eq {clock : Nat} {text : Bytes} (h : text.length < clock) :
    readWithin clock text = some (read text) := by
  rw [readWithin, runWithin_eq (fun _ => approaches_turn) h h, read_eq]
  rfl

end InlineImage

/-! ## Contents -/

namespace Operator

/-- Reads a piece by the clock. -/
def Piece.readWithin (clock : Nat) (l : Lexeme) (text : Bytes) :
    Option (Except ContentError (Piece × Bytes)) :=
  match l with
  | .keyword name =>
    if name = "BI" then
      (InlineImage.readWithin clock text).map (·.map fun (i, rest) => (.image i, rest))
    else
      match Operand.constant? name with
      | some value => some (.ok (.operand value, text))
      | none => some (.ok (.word name, text))
  | .arrayEnd | .dictionaryEnd => some (.ok (.stray, text))
  | l => (Operand.readWithin clock l text).map (·.map fun (value, rest) => (.operand value, rest))

/-- One turn of the reading of contents. -/
def turn (clock : Nat) : List Operator × List Operand × Bytes →
    Option ((List Operator × List Operand × Bytes) ⊕ Reading)
  | (read, pending, text) =>
    match scan text with
    | .done => some (.inr ⟨read.reverse, none⟩)
    | .unterminated => some (.inr ⟨read.reverse, some .unterminatedString⟩)
    | .lexeme l rest =>
      match Piece.readWithin clock l rest with
      | none => none
      | some (.error e) => some (.inr ⟨read.reverse, some e⟩)
      | some (.ok (piece, rest')) =>
        some (.inl (piece.operators read pending, piece.operands pending, rest'))

/-- Reads contents by the clock. -/
def readAllWithin (clock : Nat) (text : Bytes) : Option Reading :=
  runWithin (turn clock) clock ([], [], text)

/-- **A piece of the content is read within as many turns as its text has bytes**: operators at
once, and operands and inline images by the two lemmas above. -/
theorem Piece.readWithin_eq {clock : Nat} {l : Lexeme} {text : Bytes} (h : text.length < clock) :
    Piece.readWithin clock l text = some (Piece.read l text) := by
  have hoperand := congrArg (Option.map
    (Except.map fun ((value, rest) : Operand × Bytes) => (Piece.operand value, rest)))
    (Operand.readWithin_eq (l := l) h)
  cases l with
  | keyword name =>
    rw [Piece.readWithin, Piece.read]
    split
    case isTrue =>
      rw [InlineImage.readWithin_eq h]
      rfl
    case isFalse => cases Operand.constant? name <;> rfl
  | arrayEnd | dictionaryEnd => rfl
  | _ => exact hoperand

/-- One turn takes one piece, and the text that is left is shorter. -/
theorem approaches_turn {clock : Nat} {state : List Operator × List Operand × Bytes}
    (h : state.2.2.length < clock) :
    Approaches (fun (read, pending, text) => readFrom read pending text) (·.2.2.length) state
      (turn clock state) := by
  obtain ⟨read, pending, text⟩ := state
  rw [turn]
  split
  case h_1 hscan => exact .result (readFrom_of_done hscan read pending)
  case h_2 hscan => exact .result (readFrom_of_unterminated hscan read pending)
  case h_3 l rest hscan =>
    have hlength := Lexeme.length_lt_of_scan hscan
    rw [Piece.readWithin_eq (hlength.trans h)]
    cases hpiece : Piece.read l rest with
    | error e => exact .result (readFrom_of_error hscan hpiece read pending)
    | ok done =>
      refine .turn ?_ (length_lt_of_piece hscan hpiece)
      exact (readFrom_of_piece hscan hpiece read pending).trans (goOn_eq_readFrom ..)

/-- **All operators are read within as many turns as the text has bytes**, and they are those of the
definition by well-founded recursion. -/
theorem readAllWithin_eq {clock : Nat} {text : Bytes} (h : text.length < clock) :
    readAllWithin clock text = some (readAll text) :=
  runWithin_eq (fun _ => approaches_turn) h h

end Operator

/-! ## Objects -/

namespace Token

/-- One turn of the reading of lexemes. -/
def turn : List Lexeme × Bytes → Option ((List Lexeme × Bytes) ⊕ List Lexeme)
  | (read, text) =>
    match scan text with
    | .lexeme l rest => some (.inl (l :: read, rest))
    | .done | .unterminated => some (.inr read.reverse)

theorem approaches_turn (state : List Lexeme × Bytes) :
    Approaches (Function.uncurry lexemesOnto) (·.2.length) state (turn state) := by
  obtain ⟨read, text⟩ := state
  rw [turn]
  cases hscan : scan text with
  | lexeme l rest => exact .turn (lexemesOnto_of_scan hscan read) (Lexeme.length_lt_of_scan hscan)
  | done | unterminated =>
    refine .result (lexemesOnto_of_end (fun l rest h => ?_) read)
    cases hscan.symm.trans h

/-- Reads the lexemes of a text by the clock. -/
def lexemesWithin (clock : Nat) (text : Bytes) : Option (List Lexeme) :=
  runWithin turn clock ([], text)

theorem lexemesWithin_eq {clock : Nat} {text : Bytes} (h : text.length < clock) :
    lexemesWithin clock text = some (lexemes text) :=
  runWithin_eq (fun state _ => approaches_turn state) h h

theorem length_lexemesOnto_le (read : List Lexeme) (text : Bytes) :
    (lexemesOnto read text).length ≤ read.length + text.length := by
  fun_induction lexemesOnto read text with
  | case1 read text l rest hscan hlength ih =>
    rw [List.length_cons] at ih
    omega
  | case2 | case3 => rw [List.length_reverse]; exact Nat.le_add_right _ _

theorem length_joinOnto_le (read : List Token) (ls : List Lexeme) :
    (joinOnto read ls).length ≤ read.length + ls.length := by
  fun_induction joinOnto read ls with
  | case1 | case2 | case3 => simp only [List.length_cons] at *; omega
  | case4 => rw [List.length_reverse]; exact Nat.le_add_right _ _

theorem length_withoutHeader_le (ls : List Lexeme) : (withoutHeader ls).length ≤ ls.length := by
  fun_cases withoutHeader ls with
  | case1 => simp only [List.length_cons]; omega
  | case2 | case3 => exact Nat.le_refl _

/-- There are no more tokens than bytes, since every lexeme takes a byte and joining only makes
fewer of them. -/
theorem length_join_le {ls : List Lexeme} {text : Bytes} (h : ls.length ≤ (lexemes text).length) :
    (join ls).length ≤ text.length := by
  have hlexemes := length_lexemesOnto_le [] text
  have hjoin := length_joinOnto_le [] ls
  rw [List.length_nil, Nat.zero_add] at hlexemes hjoin
  exact hjoin.trans (h.trans hlexemes)

end Token

namespace OpenObject

/-- One turn of the reading of containers. -/
def turn : List OpenObject × List Token →
    Option ((List OpenObject × List Token) ⊕ Option Object)
  | (stack, []) => some (.inr (close stack))
  | (stack, token :: rest) =>
    match feed stack token with
    | .opened stack' => some (.inl (stack', rest))
    | .done value => some (.inr (some value))

theorem approaches_turn (state : List OpenObject × List Token) :
    Approaches (Function.uncurry run) (·.2.length) state (turn state) := by
  fun_cases turn state with
  | case1 => exact .result rfl
  | case2 stack token rest stack' hfeed =>
    refine .turn ?_ (Nat.lt_succ_self _)
    rw [Function.uncurry_apply_pair, run_cons, hfeed]
    rfl
  | case3 stack token rest value hfeed =>
    refine .result ?_
    rw [Function.uncurry_apply_pair, run_cons, hfeed]
    rfl

/-- A run takes a token at each turn, so it ends with the tokens. -/
theorem runWithin_turn {clock : Nat} {tokens : List Token} (h : tokens.length < clock)
    (stack : List OpenObject) : runWithin turn clock (stack, tokens) = some (run stack tokens) :=
  runWithin_eq (fun state _ => approaches_turn state) h h

end OpenObject

/-- Reads the first object of a text by the clock. -/
def Object.parseWithin? (clock : Nat) (text : Bytes) : Option (Option Object) :=
  (Token.lexemesWithin clock text).bind fun ls =>
    runWithin OpenObject.turn clock ([], Token.join (Token.withoutHeader ls))

/-- **An object is parsed within as many turns as its text has bytes.** -/
theorem Object.parseWithin?_eq {clock : Nat} {text : Bytes} (h : text.length < clock) :
    parseWithin? clock text = some (parse? text) := by
  have hlength := Token.length_join_le (Token.length_withoutHeader_le (Token.lexemes text))
  rw [parseWithin?, Token.lexemesWithin_eq h]
  exact OpenObject.runWithin_turn (Nat.lt_of_le_of_lt hlength h) []

/-- Reads the first dictionary of a text by the clock. -/
def Dictionary.parseWithin? (clock : Nat) (text : Bytes) : Option (Option Dictionary) :=
  (Token.lexemesWithin clock text).bind fun ls =>
    match ls.dropWhile (· != .dictionaryStart) with
    | [] => some none
    | _ :: rest =>
      (runWithin OpenObject.turn clock ([.dictionary ∅ none], Token.join rest)).map
        (·.bind Object.dictionary?)

/-- **A dictionary is parsed within as many turns as its text has bytes.** -/
theorem Dictionary.parseWithin?_eq {clock : Nat} {text : Bytes} (h : text.length < clock) :
    parseWithin? clock text = some (parse? text) := by
  rw [parseWithin?, Token.lexemesWithin_eq h, Option.bind_some, parse?]
  have hdrop := (List.dropWhile_sublist (· != .dictionaryStart) (l := Token.lexemes text)).length_le
  cases hls : (Token.lexemes text).dropWhile (· != .dictionaryStart) with
  | nil => rfl
  | cons l rest =>
    rw [hls, List.length_cons] at hdrop
    have hlength := Token.length_join_le (Nat.le_of_succ_le hdrop)
    dsimp only
    rw [OpenObject.runWithin_turn (Nat.lt_of_le_of_lt hlength h)]
    rfl

/-! ## Character maps -/

namespace CharMap

/-- One turn of the reading of a section. -/
def sectionTurn (word : String) : List Lexeme × Bytes →
    Option ((List Lexeme × Bytes) ⊕ Except CharMapError (List Lexeme × Bytes))
  | (read, text) =>
    match scan text with
    | .done => some (.inr (.error (.missingEnd word)))
    | .unterminated => some (.inr (.error .unterminatedString))
    | .lexeme l rest =>
      if l = .keyword word then some (.inr (.ok (read.reverse, rest)))
      else some (.inl (l :: read, rest))

/-- One turn of the reading of a map. -/
def turn (clock : Nat) : Contents × Bytes →
    Option ((Contents × Bytes) ⊕ Except CharMapError Contents)
  | (contents, text) =>
    match scan text with
    | .done => some (.inr (.ok contents))
    | .unterminated => some (.inr (.error .unterminatedString))
    | .lexeme l rest =>
      match (match l with | .keyword word => endOf? word | _ => none) with
      | none => some (.inl (contents, rest))
      | some word =>
        match runWithin (sectionTurn word) clock ([], rest) with
        | none => none
        | some (.error e) => some (.inr (.error e))
        | some (.ok (body, rest')) =>
          match addSection contents word body with
          | .error e => some (.inr (.error e))
          | .ok contents' => some (.inl (contents', rest'))

/-- Reads a character map by the clock. -/
def parseWithin (clock : Nat) (text : Bytes) : Option (Except CharMapError CharMap) :=
  (runWithin (turn clock) clock (⟨none, []⟩, text)).map
    (·.map fun contents => ofMappings contents.codeLength? contents.mappings.reverse)

theorem approaches_sectionTurn (word : String) (state : List Lexeme × Bytes) :
    Approaches (Function.uncurry (sectionTo word)) (·.2.length) state (sectionTurn word state) := by
  fun_cases sectionTurn word state with
  | case1 read text hscan => exact .result (sectionTo_of_done hscan)
  | case2 read text hscan => exact .result (sectionTo_of_unterminated hscan)
  | case3 read text rest hscan => exact .result ((sectionTo_of_scan hscan).trans (if_pos rfl))
  | case4 read text l rest hscan hl =>
    exact .turn ((sectionTo_of_scan hscan).trans (if_neg hl)) (Lexeme.length_lt_of_scan hscan)

/-- The words that begin a section are those of the three kinds, each with the word that ends it. -/
theorem exists_kind {l : Lexeme} {ending : String}
    (h : (match l with | .keyword word => endOf? word | _ => none) = some ending) :
    ∃ kind : SectionKind, l = .keyword kind.beginWord ∧ ending = kind.endWord := by
  split at h
  case h_1 word =>
    obtain ⟨kind, rfl, hending⟩ := endOf?_eq_some_iff.mp h
    exact ⟨kind, rfl, hending⟩
  case h_2 => cases h

theorem approaches_turn {clock : Nat} {state : Contents × Bytes} (h : state.2.length < clock) :
    Approaches (Function.uncurry readSections) (·.2.length) state (turn clock state) := by
  obtain ⟨contents, text⟩ := state
  rw [turn]
  split
  case h_1 hscan => exact .result (readSections_of_done hscan)
  case h_2 hscan => exact .result (readSections_of_unterminated hscan)
  case h_3 l rest hscan =>
    have hlength := Lexeme.length_lt_of_scan hscan
    split
    case h_1 hnone =>
      refine .turn (readSections_of_between hscan fun kind hl => ?_) hlength
      subst hl
      cases (endOf?_beginWord kind).symm.trans hnone
    case h_2 ending hending =>
      obtain ⟨kind, rfl, rfl⟩ := exists_kind hending
      have hread : readSections contents text = _ := readSections_of_begin hscan
      rw [runWithin_eq (fun state _ => approaches_sectionTurn kind.endWord state)
        (hlength.trans h) (hlength.trans h), Function.uncurry_apply_pair]
      -- a section is read to its end word before its entries count, and each can fail
      cases hsection : sectionTo kind.endWord [] rest with
      | error e =>
        rw [hsection] at hread
        exact .result hread
      | ok done =>
        obtain ⟨body, rest'⟩ := done
        rw [hsection] at hread
        change _ = addSection contents kind.endWord body >>= _ at hread
        dsimp only
        cases hadd : addSection contents kind.endWord body with
        | error e =>
          rw [hadd] at hread
          exact .result hread
        | ok contents' =>
          rw [hadd] at hread
          exact .turn hread ((length_lt_of_sectionTo hsection).trans hlength)

/-- **A character map is parsed within as many turns as its text has bytes.** -/
theorem parseWithin_eq {clock : Nat} {text : Bytes} (h : text.length < clock) :
    parseWithin clock text = some (parse text) := by
  rw [parseWithin, runWithin_eq (fun _ => approaches_turn) h h, Function.uncurry_apply_pair, parse]
  cases readSections ⟨none, []⟩ text <;> rfl

end CharMap

/-! ## All readers -/

/-- **The lexer makes progress within the text, and every reading ends.** At every position of a
text, taking a lexeme off reports the end where none is left, or a literal string that does not end,
or goes on at a later position, and what looks for the end of an inline image stays within the text.
A clock that allows each loop one turn for each byte, and one more, lets the readers of contents, of
objects, of dictionaries and of character maps come to their results. Contents have no more
operators than bytes; their operands nest at most 257 containers deep, one more for the entries of
an inline image, and objects at most 128. -/
theorem readers_end (content : Bytes) :
    (∀ position ≤ content.length,
      Lexeme.Advances content position (scan (content.drop position)) ∧
        InlineImage.StaysWithin content position) ∧
    Operator.readAllWithin (content.length + 1) content = some (Operator.readAll content) ∧
    Object.parseWithin? (content.length + 1) content = some (Object.parse? content) ∧
    Dictionary.parseWithin? (content.length + 1) content = some (Dictionary.parse? content) ∧
    CharMap.parseWithin (content.length + 1) content = some (CharMap.parse content) ∧
    (Operator.readAll content).operators.length ≤ content.length ∧
    (∀ operator ∈ (Operator.readAll content).operators, ∀ value ∈ operator.operands,
      value.nesting ≤ if operator.name = "BI" then 258 else 257) ∧
    ∀ o, Object.parse? content = some o → o.nesting ≤ 128 := by
  have hclock := Nat.lt_succ_self content.length
  refine ⟨fun position h => ⟨Lexeme.advances_scan h, InlineImage.staysWithin h⟩,
    Operator.readAllWithin_eq hclock, Object.parseWithin?_eq hclock,
    Dictionary.parseWithin?_eq hclock, CharMap.parseWithin_eq hclock,
    Operator.length_operators_le content, ?_, fun o => Object.nesting_le_of_parse?⟩
  exact fun operator => Operator.nesting_le_of_mem_operators

/-- An array in front of a word. -/
theorem readers_end_array :
    Lexeme.Advances (Utf8.encode "[1]Do") 3 (.lexeme (.keyword "Do") []) ∧
      (Operand.array [.integer 1]).nesting ≤ 257 ∧ (Object.array [.integer 1]).nesting ≤ 128 := by
  obtain ⟨hpositions, hcontents, hobject, -, -, -, hoperands, hobjects⟩ :=
    readers_end (Utf8.encode "[1]Do")
  have hbytes : Utf8.encode "[1]Do" = [0x5B, 0x31, 0x5D, 0x44, 0x6F] := by decide +kernel
  have hlength : (Utf8.encode "[1]Do").length = 5 := by rw [hbytes]; rfl
  have hscan : scan ((Utf8.encode "[1]Do").drop 3) = .lexeme (.keyword "Do") [] := by
    decide +kernel
  have hreading : Operator.readAllWithin 6 (Utf8.encode "[1]Do") =
      some ⟨[⟨"Do", [.array [.integer 1]]⟩], none⟩ := by rw [hbytes]; rfl
  have hvalue : Object.parseWithin? 6 (Utf8.encode "[1]Do") =
      some (some (.array [.integer 1])) := by rw [hbytes]; rfl
  rw [hlength] at hpositions hcontents hobject
  rw [Option.some.inj (hcontents.symm.trans hreading)] at hoperands
  refine ⟨hscan ▸ (hpositions 3 (by decide)).1, ?_,
    hobjects _ (Option.some.inj (hobject.symm.trans hvalue))⟩
  exact hoperands _ (List.mem_singleton_self _) _ (List.mem_singleton_self _)

end PdfDisplay
