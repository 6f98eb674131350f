import PdfDisplay.Proofs.Syntax.Scanning
import PdfDisplay.Proofs.Syntax.Steps
import PdfDisplay.Syntax.Operator

/-!
# Reading back written operators

Operators that are written in the syntax of page contents are read as what they are. The
lexemes of an operator are those of its operands, in order, and its name; what a value does to
the open containers is a matter of its lexemes alone, so the bytes come in only through
`Lexeme.Scans`.

The induction is on the value, for an arbitrary stack of open containers: reading the lexemes
of a value has the effect of handing the value to the innermost container
(`Operand.begin_of_scans`). The main statement is `Operator.readAll?_spaced`.
-/

namespace PdfDisplay

/-! ## Lexemes of operands and operators -/

namespace Operand

mutual

/-- The lexemes that write an operand. -/
def lexemes : Operand → List Lexeme
  | .integer value => [.integer value]
  | .real value => [.real value]
  | .name text => [.name text]
  | .literalString bytes => [.literalString bytes]
  | .hexString bytes => [.hexString bytes]
  | .array items => .arrayStart :: (itemLexemes items ++ [.arrayEnd])
  | .boolean value => [.keyword (if value then "true" else "false")]
  | .null => [.keyword "null"]
  | .dictionary entries => .dictionaryStart :: (entryLexemes entries ++ [.dictionaryEnd])

/-- The lexemes that write the items of an array. -/
def itemLexemes : List Operand → List Lexeme
  | [] => []
  | item :: rest => item.lexemes ++ itemLexemes rest

/-- The lexemes that write the entries of a dictionary: each key as a name, and its value. -/
def entryLexemes : List (String × Operand) → List Lexeme
  | [] => []
  | (key, value) :: rest => .name key :: (value.lexemes ++ entryLexemes rest)

end

mutual

/-- How deep containers nest in an operand; one that is no container has depth zero. -/
def nesting : Operand → Nat
  | .array items => itemNesting items + 1
  | .dictionary entries => entryNesting entries + 1
  | _ => 0

/-- How deep containers nest in the items of an array. -/
def itemNesting : List Operand → Nat
  | [] => 0
  | item :: rest => max item.nesting (itemNesting rest)

/-- How deep containers nest in the entries of a dictionary. -/
def entryNesting : List (String × Operand) → Nat
  | [] => 0
  | (_, value) :: rest => max value.nesting (entryNesting rest)

end

mutual

/-- Within how many containers a value of an operand stands at most; containers without values
count for nothing, however deep they nest. -/
def depth : Operand → Nat
  | .array items => itemDepth items
  | .dictionary entries => entryDepth entries
  | _ => 0

/-- Within how many containers a value stands at most, counting the array of the items. -/
def itemDepth : List Operand → Nat
  | [] => 0
  | item :: rest => max (item.depth + 1) (itemDepth rest)

/-- Within how many containers a value stands at most, counting the dictionary of the entries. -/
def entryDepth : List (String × Operand) → Nat
  | [] => 0
  | (_, value) :: rest => max (value.depth + 1) (entryDepth rest)

end

mutual

theorem depth_le_nesting (value : Operand) : value.depth ≤ value.nesting := by
  match value with
  | .array items => exact itemDepth_le_itemNesting items
  | .dictionary entries => exact entryDepth_le_entryNesting entries
  | .integer _ | .real _ | .name _ | .literalString _ | .hexString _ | .boolean _ | .null =>
    exact Nat.le_refl 0

theorem itemDepth_le_itemNesting (items : List Operand) :
    itemDepth items ≤ itemNesting items + 1 := by
  match items with
  | [] => exact Nat.zero_le _
  | item :: rest =>
    have hitem := depth_le_nesting item
    have hrest := itemDepth_le_itemNesting rest
    rw [itemDepth, itemNesting]
    omega

theorem entryDepth_le_entryNesting (entries : List (String × Operand)) :
    entryDepth entries ≤ entryNesting entries + 1 := by
  match entries with
  | [] => exact Nat.zero_le _
  | (_, value) :: rest =>
    have hvalue := depth_le_nesting value
    have hrest := entryDepth_le_entryNesting rest
    rw [entryDepth, entryNesting]
    omega

end

end Operand

/-- The lexemes that write an operator: its operands in order, and its name. -/
def Operator.lexemes (operator : Operator) : List Lexeme :=
  operator.operands.flatMap Operand.lexemes ++ [.keyword operator.name]

/-! ## What a lexeme does to the open containers -/

/-- Whether a lexeme ends a container. -/
def Lexeme.closes : Lexeme → Bool
  | arrayEnd | dictionaryEnd => true
  | _ => false

/-- Whether a container takes the next value. -/
def Container.awaits : Container → Bool
  | array _ => true
  | dictionary _ key? => key?.isSome

theorem Container.feed_of_awaits {inner : Container} (hi : inner.awaits = true)
    (outer : List Container) {l : Lexeme} (hl : l.closes = false) :
    feed (inner :: outer) l = begin (inner :: outer) l := by
  cases inner with
  | array items => cases l <;> cases hl <;> rfl
  | dictionary entries key? =>
    cases key? with
    | none => cases hi
    | some key => cases l <;> cases hl <;> rfl

namespace Operand

open Container Lexeme

/-- The lexemes of a value, read where a value may begin, hand the value to the innermost
container. -/
def Hands (stack : List Container) (text rest : Bytes) (value : Operand) : Prop :=
  ∃ l mid next, value.lexemes.head? = some l ∧ scan text = .lexeme l mid ∧
    Container.begin stack l = .ok next ∧ resume next mid = resume (put value stack) rest

/-- A value that is a single lexeme. -/
theorem hands_of_begin {stack : List Container} {text rest : Bytes} {value : Operand} {l : Lexeme}
    (hl : value.lexemes = [l]) (hbegin : Container.begin stack l = .ok (put value stack))
    (h : Scans text value.lexemes rest) : Hands stack text rest value := by
  rw [hl] at h
  cases h with
  | cons hscan hrest =>
    cases hrest
    exact ⟨l, _, _, congrArg List.head? hl, hscan, hbegin, rfl⟩

theorem closes_of_head? {value : Operand} {l : Lexeme} (h : value.lexemes.head? = some l) :
    l.closes = false := by
  cases value <;> rw [lexemes] at h <;> cases h <;> rfl

/-- A value that begins with a word is one of the three constants. -/
theorem constant?_of_head? {value : Operand} {word : String}
    (h : value.lexemes.head? = some (.keyword word)) : word ≠ "BI" ∧ (constant? word).isSome := by
  cases value with
  | boolean b => cases b <;> cases h <;> decide
  | null => cases h; decide
  | _ => rw [lexemes] at h; cases h

theorem finish_of_hands {inner : Container} {outer : List Container} {text rest : Bytes}
    {value : Operand} (hi : inner.awaits = true) (h : Hands (inner :: outer) text rest value) :
    finish (inner :: outer) text = resume (put value (inner :: outer)) rest := by
  obtain ⟨l, mid, next, hl, hscan, hbegin, hnext⟩ := h
  have hfeed := feed_of_awaits hi outer (closes_of_head? hl)
  rw [finish_of_feed hscan (hfeed.trans hbegin), hnext]

mutual

/-- **The lexemes of a value make the reader hand the value over**, by recursion through the tree
together with the two lemmas that follow, which do the same for the inside of arrays and
dictionaries. -/
theorem begin_of_scans (value : Operand) {stack : List Container} {text rest : Bytes}
    (hdepth : stack.length + value.depth ≤ maxOpen) (h : Scans text value.lexemes rest) :
    Hands stack text rest value := by
  -- the reader looks at the depth in front of every value, not only of containers
  have hopen : ¬ maxOpen < stack.length := by omega
  have hbegin := fun l => (Container.begin.eq_def stack l).trans (if_neg hopen)
  match value with
  | .integer n => exact hands_of_begin rfl (hbegin _) h
  | .real x => exact hands_of_begin rfl (hbegin _) h
  | .name t => exact hands_of_begin rfl (hbegin _) h
  | .literalString bytes => exact hands_of_begin rfl (hbegin _) h
  | .hexString bytes => exact hands_of_begin rfl (hbegin _) h
  | .boolean true => exact hands_of_begin rfl (hbegin _) h
  | .boolean false => exact hands_of_begin rfl (hbegin _) h
  | .null => exact hands_of_begin rfl (hbegin _) h
  | .array items =>
    rw [lexemes] at h
    rw [depth] at hdepth
    cases h with
    | cons hstart h =>
      obtain ⟨last, hitems, hend⟩ := h.append_inv
      cases hend with
      | cons hend hnil =>
        cases hnil
        refine ⟨_, _, _, rfl, hstart, hbegin _, ?_⟩
        rw [resume, finish_items items hdepth hitems, List.append_nil, finish_of_feed hend rfl,
          List.reverse_reverse]
  | .dictionary entries =>
    rw [lexemes] at h
    rw [depth] at hdepth
    cases h with
    | cons hstart h =>
      obtain ⟨last, hentries, hend⟩ := h.append_inv
      cases hend with
      | cons hend hnil =>
        cases hnil
        refine ⟨_, _, _, rfl, hstart, hbegin _, ?_⟩
        rw [resume, finish_entries entries hdepth hentries, List.append_nil,
          finish_of_feed hend rfl, List.reverse_reverse]

theorem finish_items (items : List Operand) {read : List Operand} {outer : List Container}
    {text rest : Bytes} (hdepth : outer.length + itemDepth items ≤ maxOpen)
    (h : Scans text (itemLexemes items) rest) :
    finish (.array read :: outer) text = finish (.array (items.reverse ++ read) :: outer) rest := by
  match items with
  | [] =>
    cases h
    rfl
  | item :: items =>
    rw [itemLexemes] at h
    rw [itemDepth] at hdepth
    obtain ⟨mid, hitem, hitems⟩ := h.append_inv
    have hhands : Hands (.array read :: outer) text mid item :=
      begin_of_scans item (by rw [List.length_cons]; omega) hitem
    rw [finish_of_hands rfl hhands, put, resume, finish_items items (by omega) hitems,
      List.reverse_cons, List.append_assoc, List.singleton_append]

theorem finish_entries (entries : List (String × Operand)) {read : List (String × Operand)}
    {outer : List Container} {text rest : Bytes}
    (hdepth : outer.length + entryDepth entries ≤ maxOpen)
    (h : Scans text (entryLexemes entries) rest) :
    finish (.dictionary read none :: outer) text =
      finish (.dictionary (entries.reverse ++ read) none :: outer) rest := by
  match entries with
  | [] =>
    cases h
    rfl
  | (key, value) :: entries =>
    rw [entryLexemes] at h
    rw [entryDepth] at hdepth
    cases h with
    | cons hkey h =>
      obtain ⟨mid, hvalue, hentries⟩ := h.append_inv
      have hhands : Hands (.dictionary read (some key) :: outer) _ mid value :=
        begin_of_scans value (by rw [List.length_cons]; omega) hvalue
      rw [finish_of_feed hkey rfl, resume, finish_of_hands rfl hhands, put, resume,
        finish_entries entries (by omega) hentries, List.reverse_cons, List.append_assoc,
        List.singleton_append]

end

end Operand

/-! ## Reading operators -/

namespace Operator

open Lexeme Operand

theorem piece_of_read {l : Lexeme} {text rest : Bytes} {value : Operand}
    (hl : value.lexemes.head? = some l) (h : Operand.read l text = .ok (value, rest)) :
    Piece.read l text = .ok (.operand value, rest) := by
  cases l with
  | keyword word =>
    -- a word is an operand only if it is one of the constants
    obtain ⟨hBI, hconstant⟩ := constant?_of_head? hl
    obtain ⟨constant, hconstant⟩ := Option.isSome_iff_exists.mp hconstant
    have hread : Operand.read (.keyword word) text = .ok (constant, text) := by
      rw [Operand.read, Container.begin.eq_def]
      simp [hconstant, Container.put]
    rw [hread] at h
    cases h
    rw [Piece.read, if_neg hBI, hconstant]
  | arrayEnd => exact absurd (closes_of_head? hl) (by decide)
  | dictionaryEnd => exact absurd (closes_of_head? hl) (by decide)
  | _ => exact congrArg (Except.map fun done => (Piece.operand done.1, done.2)) h

/-- Operands in front of an operator are pending, by induction over them, and the last one read
comes first in the list. -/
theorem readFrom_operands (read : List Operator) {operands pending : List Operand}
    (hnesting : ∀ value ∈ operands, value.nesting ≤ Container.maxOpen) {text rest : Bytes}
    (h : Scans text (operands.flatMap Operand.lexemes) rest) :
    readFrom read pending text = readFrom read (operands.reverse ++ pending) rest := by
  induction operands generalizing text pending with
  | nil =>
    cases h
    rfl
  | cons value operands ih =>
    rw [List.flatMap_cons] at h
    obtain ⟨mid, hvalue, hrest⟩ := h.append_inv
    have hdepth : ([] : List Container).length + value.depth ≤ Container.maxOpen := by
      rw [List.length_nil, Nat.zero_add]
      exact Nat.le_trans value.depth_le_nesting (hnesting value List.mem_cons_self)
    obtain ⟨l, text', next, hl, hscan, hbegin, hnext⟩ := begin_of_scans value hdepth hvalue
    have hread : Operand.read l text' = .ok (value, mid) := (read_of_begin hbegin).trans hnext
    rw [readFrom_of_piece hscan (piece_of_read hl hread), goOn,
      ih (fun v hv => hnesting v (List.mem_cons_of_mem _ hv)) hrest, List.reverse_cons,
      List.append_assoc, List.singleton_append]

/-- Whether a name can be that of an operator: it is none of the words that stand for
something else. -/
def IsOperatorName (name : String) : Prop :=
  name ≠ "true" ∧ name ≠ "false" ∧ name ≠ "null" ∧ name ≠ "BI"

theorem piece_of_isOperatorName {name : String} (h : IsOperatorName name) (text : Bytes) :
    Piece.read (.keyword name) text = .ok (.word name, text) := by
  obtain ⟨htrue, hfalse, hnull, hBI⟩ := h
  have hconstant : constant? name = none := by
    rw [constant?, if_neg htrue, if_neg hfalse, if_neg hnull]
  rw [Piece.read, if_neg hBI, hconstant]

theorem readFrom_operator (read : List Operator) {operator : Operator}
    (hname : IsOperatorName operator.name)
    (hnesting : ∀ value ∈ operator.operands, value.nesting ≤ Container.maxOpen) {text rest : Bytes}
    (h : Scans text operator.lexemes rest) :
    readFrom read [] text = readFrom (operator :: read) [] rest := by
  rw [lexemes] at h
  obtain ⟨mid, hoperands, hend⟩ := h.append_inv
  cases hend with
  | cons hscan hnil =>
    cases hnil
    rw [readFrom_operands read hnesting hoperands,
      readFrom_of_piece hscan (piece_of_isOperatorName hname _), goOn, List.append_nil,
      List.reverse_reverse]

/-- **Operators that are written are read**, by induction over their list. -/
theorem readFrom_operators (read : List Operator) {operators : List Operator}
    (hname : ∀ operator ∈ operators, IsOperatorName operator.name)
    (hnesting : ∀ operator ∈ operators, ∀ value ∈ operator.operands,
      value.nesting ≤ Container.maxOpen) {text rest : Bytes}
    (h : Scans text (operators.flatMap lexemes) rest) :
    readFrom read [] text = readFrom (operators.reverse ++ read) [] rest := by
  induction operators generalizing text read with
  | nil =>
    cases h
    rfl
  | cons operator operators ih =>
    rw [List.flatMap_cons] at h
    obtain ⟨mid, hoperator, hrest⟩ := h.append_inv
    rw [readFrom_operator read (hname _ List.mem_cons_self) (hnesting _ List.mem_cons_self)
        hoperator,
      ih _ (fun o ho => hname o (List.mem_cons_of_mem _ ho))
        (fun o ho => hnesting o (List.mem_cons_of_mem _ ho)) hrest,
      List.reverse_cons, List.append_assoc, List.singleton_append]

/-- What the syntax can write: names that are words, no numbers other than 64-bit integers,
and containers that nest no deeper than the reader follows. -/
structure IsWritable (operator : Operator) : Prop where
  /-- The name stands for the operator. -/
  name : IsOperatorName operator.name
  /-- Every lexeme has a spelling. -/
  lexemes : ∀ l ∈ operator.lexemes, l.IsWritable
  /-- The operands nest at most 256 deep. -/
  nesting : ∀ value ∈ operator.operands, value.nesting ≤ 256

/-- **Written operators are read as what they are**: the same names with the same operands in
the same order, however the lexemes are spelled and whatever gaps stand between them. -/
theorem readAll?_spaced {operators : List Operator}
    (h : ∀ operator ∈ operators, operator.IsWritable) :
    (∃ text, Spaced (operators.flatMap lexemes) text) ∧
      ∀ text, Spaced (operators.flatMap lexemes) text → readAll? text = .ok operators := by
  constructor
  · refine exists_spaced fun l hl => ?_
    obtain ⟨operator, hoperator, hl⟩ := List.mem_flatMap.mp hl
    exact (h operator hoperator).lexemes l hl
  · intro text htext
    have hread : readAll text = ⟨operators, none⟩ := by
      rw [readAll, readFrom_operators [] (fun o ho => (h o ho).name)
        (fun o ho => (h o ho).nesting) (scans_of_spaced htext), readFrom_nil, List.append_nil,
        List.reverse_reverse]
    rw [readAll?, hread]

theorem readAll?_spaced_font :
    (∀ operator ∈ [(⟨"Tf", [.name "A B", .array [.integer (-7)]]⟩ : Operator)],
      operator.IsWritable) ∧
    readAll? (Utf8.encode "/A#20B%x\n[ -7 ] Tf") =
      .ok [⟨"Tf", [.name "A B", .array [.integer (-7)]]⟩] := by
  have hword : IsWord "Tf" := isWord_literal 'T' ['f'] rfl rfl
  have hwritable : ∀ operator ∈ [(⟨"Tf", [.name "A B", .array [.integer (-7)]]⟩ : Operator)],
      operator.IsWritable := by
    intro operator ho
    obtain rfl := List.mem_singleton.mp ho
    refine ⟨⟨by decide, by decide, by decide, by decide⟩, ?_, by decide⟩
    change ∀ l ∈ [Lexeme.name "A B", .arrayStart, .integer (-7), .arrayEnd, .keyword "Tf"], _
    simp only [List.mem_cons, List.not_mem_nil, or_false, forall_eq_or_imp, forall_eq]
    exact ⟨trivial, trivial, (by decide : IsInt64 (-7)), trivial, hword⟩
  have htext : Utf8.encode "/A#20B%x\n[ -7 ] Tf" =
      [Byte.of '/', Byte.of 'A', Byte.of '#', Byte.of '2', Byte.of '0', Byte.of 'B'] ++
        ([Byte.of '%', Byte.of 'x', 0x0A] ++ ([Byte.of '['] ++ ([0x20] ++
          (Utf8.encode (toString (-7 : Int)) ++ ([0x20] ++ ([Byte.of ']'] ++ ([0x20] ++
            Utf8.encode "Tf"))))))) := by decide +kernel
  have hname : NameSpelling (Utf8.encode "A B")
      [Byte.of 'A', Byte.of '#', Byte.of '2', Byte.of '0', Byte.of 'B'] := by
    rw [show Utf8.encode "A B" = [Byte.of 'A', 0x20, Byte.of 'B'] from
      Utf8.encode_literal ['A', ' ', 'B'] rfl]
    exact .plain rfl (by decide) (.escaped ⟨rfl, rfl⟩ (.plain rfl (by decide) .nil))
  have hcomment : ∀ b ∈ [Byte.of 'x'], Byte.isLineEnd b = false :=
    List.forall_mem_singleton.mpr rfl
  -- the separators chosen are a comment, single spaces, and none behind the last word
  have hspaced :
      Spaced ([(⟨"Tf", [.name "A B", .array [.integer (-7)]]⟩ : Operator)].flatMap lexemes)
        (Utf8.encode "/A#20B%x\n[ -7 ] Tf") := by
    rw [htext]
    exact .cons (.name hname) (.comment hcomment rfl)
      (.cons .arrayStart (.white rfl) (.cons (.integer (by decide)) (.white rfl)
        (.cons .arrayEnd (.white rfl) (.last (.keyword hword)))))
  exact ⟨hwritable, (readAll?_spaced hwritable).2 _ hspaced⟩

end Operator

end PdfDisplay
