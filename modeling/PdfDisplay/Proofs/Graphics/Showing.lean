import PdfDisplay.Page.Rendering
import PdfDisplay.Proofs.Graphics.Growing
import PdfDisplay.Proofs.Graphics.Operands
import PdfDisplay.Proofs.Graphics.Trace

/-!
# Shown text

An operator that shows strings adds one run of text, with a segment for every string that has
bytes, and none if no string has (`Shown`). Nothing that a page shows afterwards takes it away:
`PageInput.shows_text` follows the machines that the contents of a page lead through, from the
resources and fonts of the page to its display list.

That a string with bytes leaves a segment is a fact about fonts (`Font.stringText_eq_empty_iff`).
Every font on the way comes from resolving, so `Machine.FontsAreRead` goes along.
-/

namespace PdfDisplay

/-! ## Segments -/

/-- The string that a piece of shown text is. -/
def TextPiece.bytes? : TextPiece → Option Bytes
  | .string bytes => some bytes
  | .adjust _ => none

/-- The segments have the texts of the strings, as far as these are not empty. -/
theorem Layout.texts_ofPieces (font : Font) (pen : Pen) (pieces : List TextPiece) :
    (ofPieces font pen pieces).segments.map (·.text) =
      ((pieces.filterMap TextPiece.bytes?).map font.stringText).filter (· ≠ "") := by
  -- by induction over the pieces, whose texts do not depend on where the pen is
  induction pieces generalizing pen with
  | nil => rfl
  | cons piece rest ih =>
    cases piece with
    | adjust amount => exact ih _
    | string bytes =>
      have hstrings : (TextPiece.string bytes :: rest).filterMap TextPiece.bytes? =
          bytes :: rest.filterMap TextPiece.bytes? := rfl
      rw [ofPieces, hstrings, List.map_cons]
      split
      case isTrue hempty =>
        rw [ih, List.filter_cons_of_neg (by simpa using hempty)]
      case isFalse hne =>
        rw [List.map_cons, ih, List.filter_cons_of_pos (by simpa using hne)]

/-! ## Operators that show strings -/

/-- Whether an operator shows strings: its last operands are what it asks for. Elements of an array
that are no strings move the pen or are passed over. -/
inductive Operator.Shows : Operator → List Bytes → Prop
  /-- A string. -/
  | string (front : List Operand) {operand : Operand} {bytes : Bytes}
    (h : operand.bytes? = some bytes) : Shows ⟨"Tj", front ++ [operand]⟩ [bytes]
  /-- A string on the next line. -/
  | nextLine (front : List Operand) {operand : Operand} {bytes : Bytes}
    (h : operand.bytes? = some bytes) : Shows ⟨"\x27", front ++ [operand]⟩ [bytes]
  /-- A string on the next line, and the spacings of words and glyphs. -/
  | spaced (front : List Operand) {word char operand : Operand} {wordSpacing charSpacing : Float}
    {bytes : Bytes} (hword : word.number? = some wordSpacing)
    (hchar : char.number? = some charSpacing) (h : operand.bytes? = some bytes) :
    Shows ⟨"\x22", front ++ [word, char, operand]⟩ [bytes]
  /-- The strings of an array. -/
  | array (front elements : List Operand) :
    Shows ⟨"TJ", front ++ [.array elements]⟩ (elements.filterMap Operand.bytes?)

/-- What a display list becomes where strings are shown in a font. -/
inductive Shown (font : Font) (strings : List Bytes) (before : DisplayList) : DisplayList → Prop
  /-- Without a string that has bytes nothing is added. -/
  | nothing (h : ∀ bytes ∈ strings, bytes = []) : Shown font strings before before
  /-- One run is added. Its segments have, in order, the texts of the strings that have bytes, which
  are the texts of their codes one after another; its text is that of its segments. -/
  | run (item : TextItem) (h : ∃ bytes ∈ strings, bytes ≠ [])
    (hsegments : item.segments.map (·.text) =
      (strings.filter (· ≠ [])).map fun bytes => String.join ((font.codes bytes).map font.text))
    (htext : item.text = String.join (item.segments.map (·.text))) :
    Shown font strings before (before ++ [.text item])

/-- The strings that an instruction shows, if it shows text. -/
def TextInstruction.strings? : TextInstruction → Option (List Bytes)
  | .showPieces pieces => some (pieces.filterMap TextPiece.bytes?)
  | .showOnNextLine bytes => some [bytes]
  | .showSpaced _ _ bytes => some [bytes]
  | _ => none

/-- The strings among the pieces of an array are the strings among its elements. -/
theorem Operand.bytes?_piece? (elements : List Operand) :
    (elements.filterMap piece?).filterMap TextPiece.bytes? = elements.filterMap bytes? := by
  rw [List.filterMap_filterMap]
  congr 1
  funext element
  cases element <;> rfl

namespace Machine

theorem items_emit (machine : Machine) (item : DisplayItem) :
    (machine.emit item).items = machine.items ++ [item] := List.reverse_cons

theorem items_mapText (machine : Machine) (change : TextState → TextState) :
    (machine.mapText change).items = machine.items := rfl

/-- **Showing pieces draws what their strings write**, as one run of text if any of it is visible,
in the font that is selected. -/
theorem shown_showPieces {machine : Machine} {font : Font}
    (hfont : machine.state.frame.text.font? = some font) (hread : font.MapIsRead)
    (pageHeight : Float) (index : Nat) (pieces : List TextPiece) :
    Shown font (pieces.filterMap TextPiece.bytes?) machine.items
      (machine.showPieces pageHeight index pieces).items := by
  have htexts : ∀ pen, (Layout.ofPieces font pen pieces).segments.map (·.text) =
      ((pieces.filterMap TextPiece.bytes?).filter (· ≠ [])).map font.stringText := by
    intro pen
    rw [Layout.texts_ofPieces, List.filter_map]
    congr 2
    funext bytes
    simp [Font.stringText_eq_empty_iff hread]
  rw [showPieces, hfont]
  dsimp only
  have hpen := htexts ⟨machine.state.frame.text, 0.0⟩
  split
  case isTrue hempty =>
    rw [List.isEmpty_iff.mp hempty, List.map_nil, eq_comm, List.map_eq_nil_iff] at hpen
    refine .nothing fun bytes hmem => ?_
    simpa using List.filter_eq_nil_iff.mp hpen bytes hmem
  case isFalse hsome =>
    rw [items_emit, items_mapText]
    refine .run _ ?_ ?_ ?_
    · -- were all strings without bytes, there would be no segments
      by_contra hnone
      have hnothing : (pieces.filterMap TextPiece.bytes?).filter (· ≠ []) = [] :=
        List.filter_eq_nil_iff.mpr fun bytes hmem => by
          simpa using fun hne => hnone ⟨bytes, hmem, hne⟩
      rw [hnothing, List.map_nil, List.map_eq_nil_iff] at hpen
      exact hsome (List.isEmpty_iff.mpr hpen)
    · rw [TextItem.segments_ofSegments, hpen]
      rfl
    · exact joined_ofSegments font _ _ _ _ rfl

/-- Showing text may move to the next line before, which draws nothing. -/
theorem stepText_of_strings {m : Type → Type} [Monad m] (page : PageContext m) (index : Nat)
    (machine : Machine) {instruction : TextInstruction} {strings : List Bytes}
    (h : instruction.strings? = some strings) :
    ∃ (moved : Machine) (pieces : List TextPiece),
      machine.stepText page index instruction =
        pure (moved.showPieces page.height index pieces) ∧
      pieces.filterMap TextPiece.bytes? = strings ∧ Changes machine moved ∧
      moved.items = machine.items ∧
      moved.state.frame.text.font? = machine.state.frame.text.font? := by
  cases instruction with
  | showPieces pieces => exact ⟨machine, pieces, rfl, Option.some.inj h, .refl, rfl, rfl⟩
  | showOnNextLine bytes =>
    exact ⟨_, [.string bytes], rfl, Option.some.inj h, .single (.text machine _ rfl), rfl, rfl⟩
  | showSpaced wordSpacing charSpacing bytes =>
    exact ⟨_, [.string bytes], rfl, Option.some.inj h, .single (.text machine _ rfl), rfl, rfl⟩
  | _ => cases h

end Machine

/-- An operator that shows strings asks for an instruction that shows the same ones. -/
theorem Instruction.ofOperator?_of_shows {operator : Operator} {strings : List Bytes}
    (h : operator.Shows strings) :
    ∃ instruction : TextInstruction, ofOperator? operator = some (.text instruction) ∧
      instruction.strings? = some strings := by
  -- four operators show strings, and each takes them from the end of its operands in its own way
  cases h with
  | @string front operand bytes h =>
    have hread : ofOperator? ⟨"Tj", front ++ [operand]⟩ = OperandReading.string
        (fun bytes => .text (.showPieces [.string bytes])) (front ++ [operand]) := rfl
    refine ⟨.showPieces [.string bytes], ?_, rfl⟩
    rw [hread, OperandReading.string, List.getLast?_concat, Option.bind_some, h, Option.map_some]
  | @nextLine front operand bytes h =>
    have hread : ofOperator? ⟨"\x27", front ++ [operand]⟩ = OperandReading.string
        (.text <| .showOnNextLine ·) (front ++ [operand]) := rfl
    refine ⟨.showOnNextLine bytes, ?_, rfl⟩
    rw [hread, OperandReading.string, List.getLast?_concat, Option.bind_some, h, Option.map_some]
  | @spaced front word char operand wordSpacing charSpacing bytes hword hchar h =>
    have hread : ofOperator? ⟨"\x22", front ++ [word, char, operand]⟩ =
        OperandReading.spacedString (front ++ [word, char, operand]) := rfl
    have hlast : Operand.last? 3 (front ++ [word, char, operand]) = some [word, char, operand] :=
      Operand.last?_eq_some_iff.mpr ⟨front, rfl, rfl⟩
    refine ⟨.showSpaced wordSpacing charSpacing bytes, ?_, rfl⟩
    rw [hread, OperandReading.spacedString, hlast]
    simp only [Option.bind_eq_bind, Option.bind_some, hword, hchar, h]
  | array front elements =>
    have hread : ofOperator? ⟨"TJ", front ++ [.array elements]⟩ =
        OperandReading.pieces (front ++ [.array elements]) := rfl
    refine ⟨.showPieces (elements.filterMap Operand.piece?), ?_, ?_⟩
    · rw [hread, OperandReading.pieces, List.getLast?_concat]
    · rw [TextInstruction.strings?, Operand.bytes?_piece?]

/-- The operands say which strings are shown, so an operator shows one list of strings only. -/
theorem Operator.Shows.unique {operator : Operator} {strings strings' : List Bytes}
    (h : operator.Shows strings) (h' : operator.Shows strings') : strings = strings' := by
  obtain ⟨instruction, hread, hstrings⟩ := Instruction.ofOperator?_of_shows h
  obtain ⟨instruction', hread', hstrings'⟩ := Instruction.ofOperator?_of_shows h'
  rw [hread] at hread'
  cases hread'
  exact Option.some.inj (hstrings.symm.trans hstrings')

namespace Machine

variable {m : Type → Type} [Monad m] [LawfulMonad m]

/-- Whether the strings that an operator shows, in an open text object and with a font selected, are
added to what is drawn. -/
def ShowsStrings (operator : Operator) (before after : Machine) : Prop :=
  ∀ (strings : List Bytes) (font : Font), operator.Shows strings → before.inText →
    before.state.frame.text.font? = some font → Shown font strings before.items after.items

/-- **Executing an operator adds the run of the strings that it shows**, and takes nothing away. -/
theorem yields_execute_shown (page : PageContext m) (index : Nat) {machine : Machine}
    (hread : machine.FontsAreRead) (operator : Operator) :
    Yields (fun after => Grows machine after ∧ ShowsStrings operator machine after)
      (machine.execute page index operator) := by
  by_cases hshows : machine.inText ∧ ∃ strings, operator.Shows strings
  · -- the text is shown without the store, so one machine has both properties
    obtain ⟨htext, strings, hshows⟩ := hshows
    obtain ⟨instruction, hoperator, hstrings⟩ := Instruction.ofOperator?_of_shows hshows
    obtain ⟨moved, pieces, hstep, rfl, hchanges, hitems, hmoved⟩ :=
      stepText_of_strings page index machine hstrings
    have hexecute : machine.execute page index operator =
        pure (moved.showPieces page.height index pieces) := by
      rw [execute, hoperator, ← hstep]
      exact if_pos htext
    rw [hexecute]
    refine .pure ⟨Changes.grows (hchanges.trans (changes_showPieces moved _ index pieces)), ?_⟩
    intro strings font hshows' _ hfont
    rw [hshows'.unique hshows, ← hitems]
    exact shown_showPieces (hmoved.trans hfont) (hread.selected font hfont) _ index pieces
  · refine (yields_execute_grows page index machine operator).mono fun after hgrows => ⟨hgrows, ?_⟩
    exact fun strings _ hstrings htext => absurd ⟨htext, strings, hstrings⟩ hshows

end Machine

/-! ## Pages -/

namespace Content

variable {m : Type → Type} [Monad m] [LawfulMonad m]

/-- A run gives the items of its last machine, put into the normal form that is asked for. -/
theorem items_run (page : PageContext m) (fonts : FontCache) (content : Bytes) :
    (·.items) <$> run page fonts content =
      (·.items.normalized page.options.normalForm) <$>
        finalMachine page fonts (Operator.readAll content) := by
  rw [run, map_bind, map_eq_pure_bind]
  refine bind_congr fun machine => ?_
  rw [map_pure]

end Content

namespace PageInput

/-- The operators of a page that are executed. -/
def operators (options : RenderOptions) (page : PageInput) : List Operator :=
  (Operator.readAll (page.content.take options.maxStreamBytes)).operators.take options.maxOperators

variable {m : Type → Type} [Monad m]

/-- The machines that the contents of a page lead through, from the one in front of the first
operator to the one behind the last. -/
def trace (store : ObjectStore m) (options : RenderOptions) (page : PageInput) :
    m (List Machine) := do
  let resources ← PageResources.parse store page.resources
  let fonts ← FontCache.preload store ∅ resources.value.fonts
  let first : Machine := { fonts := fonts.value }
  let machines ← first.trace ⟨store, page.height, resources.value, options⟩ 0
    (page.operators options)
  return first :: machines

variable [LawfulMonad m]

/-- **No shown text is lost or comes twice.** A page that is rendered without normalization shows
what the last of its machines has drawn. Every operator that shows strings, in an open text object
and with a font selected, adds exactly the run of these strings to what the machine in front of it
has drawn, and the page still shows it in its place. -/
theorem shows_text (store : ObjectStore m) {options : RenderOptions}
    (hform : options.normalForm = .none) (page : PageInput) :
    (·.value.items) <$> page.render store options =
      (·.getLast?.elim [] Machine.items) <$> page.trace store options ∧
    Yields (fun machines => machines.length = (page.operators options).length + 1 ∧
        ∀ (i : Nat) (operator : Operator) (before after : Machine),
          (page.operators options)[i]? = some operator → machines[i]? = some before →
          machines[i + 1]? = some after →
          Machine.ShowsStrings operator before after ∧
            ∀ last, machines.getLast? = some last → after.items <+: last.items)
      (page.trace store options) := by
  constructor
  · rw [render, trace, map_bind, map_bind]
    refine bind_congr fun resources => ?_
    rw [map_bind, map_bind]
    refine bind_congr fun fonts => ?_
    have hitems := Content.items_run ⟨store, page.height, resources.value, options⟩ fonts.value
      (page.content.take options.maxStreamBytes)
    rw [map_eq_pure_bind] at hitems
    simp only [map_bind, map_pure]
    rw [hitems, Content.finalMachine, Machine.executeAll_eq_trace, ← comp_map, map_eq_pure_bind]
    refine bind_congr fun machines => ?_
    simp only [hform, Function.comp_apply, List.getLast?_cons, Option.elim_some,
      List.getLastD_eq_getLast?]
    rfl
  · refine .bind (.trivial _) fun resources _ => ?_
    -- fonts that are preloaded have maps that were read, and no operator makes another
    have hpreload := FontCache.yields_preload store FontCache.mapsAreRead_empty
      resources.value.fonts
    refine .bind hpreload fun fonts hfonts => ?_
    have hfirst : Machine.FontsAreRead { fonts := fonts.value } :=
      ⟨hfonts, (fun _ h => nomatch h), List.forall_mem_nil _⟩
    refine .bind (Machine.yields_trace _ (fun index machine operator hread =>
      (Machine.yields_execute_shown _ index hread operator).mono fun after h =>
        ⟨h, h.1.fonts hread⟩) 0 hfirst (page.operators options)) fun machines hsteps => .pure ?_
    refine ⟨by rw [List.length_cons, hsteps.length_eq], ?_⟩
    intro i operator before after hoperator hbefore hafter
    refine ⟨(hsteps.getElem hoperator hbefore hafter).2, fun last hlast => ?_⟩
    rw [List.getLast?_cons, Option.some.injEq, ← List.getLastD_eq_getLast?] at hlast
    -- the items only grow, so those drawn on the way are the first of those drawn in the end
    have hpassed := hsteps.forall_last Machine.Grows.refl Machine.Grows.trans (fun h => h.1)
    exact hlast ▸ (hpassed after (List.mem_of_getElem? hafter)).prefix_items

/-- An array with an empty string and a displacement, in a font that the page does not declare. -/
theorem shows_text_array :
    let store := ObjectTable.empty.store
    let page : PageInput := ⟨100, "", Utf8.encode "BT /F 1 Tf [(A) () 5 (B)] TJ ET"⟩
    let machines : List Machine := page.trace store {}
    (page.operators {}).map (·.name) = ["BT", "Tf", "TJ", "ET"] ∧
      (DisplayList.texts (page.render store {}).value.items).map
        (fun item => (item.text, item.segments.map (·.text))) = [("AB", ["A", "B"])] ∧
      (page.render store {}).value.items = machines.getLast?.elim [] Machine.items ∧
      machines.length = 5 ∧
      ∀ operator before after, (page.operators {})[2]? = some operator →
        machines[2]? = some before → machines[3]? = some after →
        Machine.ShowsStrings operator before after := by
  intro store page machines
  have hnames : (page.operators {}).map (·.name) = ["BT", "Tf", "TJ", "ET"] := by decide +kernel
  have hcount : (page.operators {}).length = 4 := by
    rw [← List.length_map, hnames]
    rfl
  have hform : ({} : RenderOptions).normalForm = .none := rfl
  obtain ⟨hitems, hyields⟩ := shows_text store hform page
  obtain ⟨hlength, hsteps⟩ := possible_pure (a := machines) _ hyields
  refine ⟨hnames, by decide +kernel, hitems, hlength.trans (congrArg (· + 1) hcount), ?_⟩
  intro operator before after hoperator hbefore hafter
  exact (hsteps 2 operator before after hoperator hbefore hafter).1

end PageInput

end PdfDisplay
