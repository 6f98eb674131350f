import PdfDisplay.Proofs.Font.Codes
import PdfDisplay.Proofs.Graphics.Showing

/-!
# Strings in parts

A string that is cut between two of its codes is laid out like the whole string: the codes are the
same, one after another, so the pen takes the same moves and the texts of the parts make up that of
the string (`Font.codes_append`). Only the segments tell the parts: each part that has bytes leaves
a segment of its own (`Font.LaysOutAlike`).

This is so in every font whose character map was read, that is, in every font of a page.
-/

namespace PdfDisplay

theorem join_append (texts texts' : List String) :
    String.join (texts ++ texts') = String.join texts ++ String.join texts' := by
  induction texts with
  | nil => rw [List.nil_append, String.join_nil, String.empty_append]
  | cons text texts ih => rw [List.cons_append, String.join_cons, ih, String.join_cons,
      String.append_assoc]

namespace Font

variable (font : Font)

/-- The codes of a string that is cut between two of them. -/
theorem codes_append {first : Bytes} (h : font.codeLength ∣ first.length) (second : Bytes) :
    font.codes (first ++ second) = font.codes first ++ font.codes second := by
  by_cases hlength : 0 < font.codeLength
  case pos =>
    rw [codes_eq hlength, codes_eq hlength, codes_eq hlength, pieces_append first second h,
      List.map_append]
  case neg =>
    rw [Nat.eq_zero_of_not_pos hlength] at h
    obtain rfl : first = [] := List.length_eq_zero_iff.mp (Nat.eq_zero_of_zero_dvd h)
    rw [(codes_eq_nil_iff font []).mpr rfl, List.nil_append, List.nil_append]

/-- **A string that is cut between its codes shows the text of its parts**, one behind the other. -/
theorem stringText_append {first : Bytes} (h : font.codeLength ∣ first.length) (second : Bytes) :
    font.stringText (first ++ second) = font.stringText first ++ font.stringText second := by
  rw [stringText, codes_append font h, List.map_append, join_append]
  rfl

end Font

/-- The pen is moved over a string that is cut between its codes as over its parts. -/
theorem Pen.string_append (font : Font) (pen : Pen) {first : Bytes}
    (h : font.codeLength ∣ first.length) (second : Bytes) :
    pen.string font (first ++ second) = (pen.string font first).string font second := by
  rw [string, font.codes_append h, List.foldl_append]
  rfl

/-! ## Layouts -/

/-- The segment that a string leaves where the pen is: none without bytes. -/
def Font.segmentAt (font : Font) (pen : Pen) (bytes : Bytes) : List TextSegment :=
  if bytes = [] then [] else [⟨pen.distance, font.stringText bytes⟩]

/-- A string that is not empty makes one segment, at the distance that the pen has reached. -/
theorem Font.segmentAt_of_ne_nil (font : Font) (pen : Pen) {bytes : Bytes} (h : bytes ≠ []) :
    font.segmentAt pen bytes = [⟨pen.distance, font.stringText bytes⟩] := if_neg h

/-- The text of that segment is the text of the string, and an empty string has none. -/
theorem Font.join_segmentAt {font : Font} (hread : font.MapIsRead) (pen : Pen) (bytes : Bytes) :
    String.join ((font.segmentAt pen bytes).map (·.text)) = font.stringText bytes := by
  rw [segmentAt]
  split
  case isTrue h => exact ((stringText_eq_empty_iff hread bytes).mpr h).symm
  case isFalse => simp

namespace Layout

variable {font : Font}

/-- Laying out a string makes its segment and goes on from where the pen stands behind it. -/
theorem ofPieces_string (hread : font.MapIsRead) (pen : Pen) (bytes : Bytes)
    (rest : List TextPiece) :
    ofPieces font pen (.string bytes :: rest) =
      ⟨(ofPieces font (pen.string font bytes) rest).pen,
        font.segmentAt pen bytes ++ (ofPieces font (pen.string font bytes) rest).segments⟩ := by
  have hempty : (font.stringText bytes).isEmpty ↔ bytes = [] := by
    rw [String.isEmpty_iff, Font.stringText_eq_empty_iff hread]
  rw [ofPieces, Font.segmentAt]
  split
  case isTrue h => rw [if_pos (hempty.mp h), List.nil_append]
  case isFalse h => rw [if_neg (mt hempty.mpr h), List.singleton_append]

/-- Pieces are laid out from where the pen is behind those in front of them. -/
theorem ofPieces_append (pen : Pen) (before after : List TextPiece) :
    ofPieces font pen (before ++ after) =
      ⟨(ofPieces font (ofPieces font pen before).pen after).pen,
        (ofPieces font pen before).segments ++
          (ofPieces font (ofPieces font pen before).pen after).segments⟩ := by
  induction before generalizing pen with
  | nil => rfl
  | cons piece before ih =>
    cases piece with
    | adjust amount => exact ih _
    | string bytes =>
      rw [List.cons_append, ofPieces, ofPieces, ih]
      split <;> rfl

end Layout

namespace Font

/-- Whether two strings that are shown one after the other, behind what is laid out in front of
them, are laid out like the string that they make up. -/
structure JoinsBehind (font : Font) (front : Layout) (first second : Bytes)
    (parts whole : Layout) : Prop where
  /-- The pen is at the same place behind them: the state of text is the same, and the distance. -/
  pen : parts.pen = whole.pen
  /-- The texts make up the same text. -/
  texts : String.join (parts.segments.map (·.text)) = String.join (whole.segments.map (·.text))
  /-- The text of the whole string is that of its parts. -/
  joined : font.stringText (first ++ second) = font.stringText first ++ font.stringText second
  /-- The segments are the same but for those of the parts, which are one segment of the whole
  string. -/
  segments : ∃ back,
    parts.segments = front.segments ++ (font.segmentAt front.pen first ++
      font.segmentAt (front.pen.string font first) second) ++ back ∧
    whole.segments = front.segments ++ font.segmentAt front.pen (first ++ second) ++ back

/-- Whether strings that are cut between two codes, among other pieces, are laid out like their
parts. -/
def LaysOutAlike (font : Font) : Prop :=
  ∀ (pen : Pen) (before after : List TextPiece) (first second : Bytes),
    font.codeLength ∣ first.length →
    font.JoinsBehind (Layout.ofPieces font pen before) first second
      (Layout.ofPieces font pen (before ++ .string first :: .string second :: after))
      (Layout.ofPieces font pen (before ++ .string (first ++ second) :: after))

/-- **A string is laid out like its parts**, if it is cut between two codes. -/
theorem laysOutAlike {font : Font} (hread : font.MapIsRead) : font.LaysOutAlike := by
  intro pen before after first second h
  rw [Layout.ofPieces_append, Layout.ofPieces_append pen, Layout.ofPieces_string hread,
    Layout.ofPieces_string hread, Layout.ofPieces_string hread, Pen.string_append font _ h]
  set front := Layout.ofPieces font pen before
  set back := Layout.ofPieces font ((front.pen.string font first).string font second) after
  -- the two segments of the parts hold what the one segment of the whole holds
  have htexts : String.join ((font.segmentAt front.pen first ++
      font.segmentAt (front.pen.string font first) second).map (·.text)) =
      String.join ((font.segmentAt front.pen (first ++ second)).map (·.text)) := by
    rw [List.map_append, join_append, join_segmentAt hread, join_segmentAt hread,
      join_segmentAt hread, stringText_append font h]
  refine ⟨rfl, ?_, font.stringText_append h second, back.segments, ?_, ?_⟩
  · simp only [List.map_append, join_append] at htexts ⊢
    rw [← htexts]
    simp only [String.append_assoc]
  · simp only [List.append_assoc]
  · exact (List.append_assoc ..).symm

/-- A part without bytes leaves no trace: the segments are those of the other part, in the same
places. -/
theorem JoinsBehind.segments_eq {font : Font} {front parts whole : Layout} {first second : Bytes}
    (h : font.JoinsBehind front first second parts whole) (hempty : first = [] ∨ second = []) :
    parts.segments = whole.segments := by
  obtain ⟨back, hparts, hwhole⟩ := h.segments
  rw [hparts, hwhole]
  obtain rfl | rfl := hempty
  · rfl
  · rw [show font.segmentAt (front.pen.string font first) [] = [] from rfl, List.append_nil,
      List.append_nil]

theorem JoinsBehind.segments_ne_nil {font : Font} {front parts whole : Layout}
    {first second : Bytes} (h : font.JoinsBehind front first second parts whole)
    (hfirst : first ≠ []) : parts.segments ≠ [] ∧ whole.segments ≠ [] := by
  obtain ⟨back, hparts, hwhole⟩ := h.segments
  have hjoined : first ++ second ≠ [] := List.append_ne_nil_of_left_ne_nil hfirst second
  rw [hparts, hwhole, segmentAt_of_ne_nil font _ hfirst, segmentAt_of_ne_nil font _ hjoined]
  simp

end Font

/-! ## Machines -/

/-- The segments of a run do not count for the rest of it, apart from their texts. -/
theorem TextItem.ofSegments_congr (font : Font) (frame : GraphicsFrame) (pageHeight : Float)
    {parts whole : List TextSegment}
    (h : String.join (parts.map (·.text)) = String.join (whole.map (·.text))) :
    ofSegments font frame pageHeight parts =
      { ofSegments font frame pageHeight whole with
        segments := (ofSegments font frame pageHeight parts).segments } := by
  simp only [ofSegments, h]

namespace Machine

/-- Whether two machines that have shown text on a third one are the same, but for the segments of
the run that they have drawn. -/
def SameButSegments (machine parts whole : Machine) : Prop :=
  parts = whole ∨ ∃ (item : TextItem) (segments : List TextSegment),
    whole.drawn = .text item :: machine.drawn ∧
    parts = { whole with drawn := .text { item with segments } :: machine.drawn }

/-- Showing a string in parts draws what showing the whole string does, and moves the pen alike. -/
theorem showPieces_parts {machine : Machine} {font : Font}
    (hfont : machine.state.frame.text.font? = some font) (hcuts : font.LaysOutAlike)
    {first second : Bytes} (h : font.codeLength ∣ first.length) (pageHeight : Float) (index : Nat)
    (before after : List TextPiece) :
    machine.SameButSegments
      (machine.showPieces pageHeight index (before ++ .string first :: .string second :: after))
      (machine.showPieces pageHeight index (before ++ .string (first ++ second) :: after)) := by
  have hjoins := hcuts ⟨machine.state.frame.text, 0.0⟩ before after first second h
  rw [showPieces, showPieces, hfont]
  dsimp only
  rw [hjoins.pen]
  by_cases hempty : first = [] ∨ second = []
  case pos =>
    rw [hjoins.segments_eq hempty]
    exact .inl rfl
  case neg =>
    obtain ⟨hparts, hwhole⟩ := hjoins.segments_ne_nil (not_or.mp hempty).1
    rw [if_neg (mt List.isEmpty_iff.mp hparts), if_neg (mt List.isEmpty_iff.mp hwhole)]
    have hitem := TextItem.ofSegments_congr font machine.state.frame pageHeight hjoins.texts
    exact .inr ⟨_, _, rfl, congrArg (emit _ <| .text ·) hitem⟩

/-- A string and an array of just this string are shown alike. -/
theorem execute_string_eq_array {m : Type → Type} [Monad m] (page : PageContext m) (index : Nat)
    (machine : Machine) (front front' : List Operand) {operand : Operand} {bytes : Bytes}
    (h : operand.bytes? = some bytes) :
    machine.execute page index ⟨"Tj", front ++ [operand]⟩ =
      machine.execute page index ⟨"TJ", front' ++ [.array [operand]]⟩ := by
  have hstring : Instruction.ofOperator? ⟨"Tj", front ++ [operand]⟩ =
      some (.text (.showPieces [.string bytes])) := by
    change Instruction.OperandReading.string _ (front ++ [operand]) = _
    rw [Instruction.OperandReading.string, List.getLast?_concat, Option.bind_some, h,
      Option.map_some]
  have harray : Instruction.ofOperator? ⟨"TJ", front' ++ [.array [operand]]⟩ =
      some (.text (.showPieces ([operand].filterMap Operand.piece?))) := by
    change Instruction.OperandReading.pieces (front' ++ [.array [operand]]) = _
    rw [Instruction.OperandReading.pieces, List.getLast?_concat]
  have hpiece : [operand].filterMap Operand.piece? = [.string bytes] := by
    cases operand <;> cases h <;> rfl
  rw [execute, execute, hstring, harray, hpiece]

end Machine

namespace Font

/-- Whether machines that show strings and their parts, among other pieces, are the same but for
the segments of the run, if the strings are cut between two codes. -/
def ShowsAlike (font : Font) : Prop :=
  ∀ (machine : Machine) (pageHeight : Float) (index : Nat) (before after : List TextPiece)
    (first second : Bytes), machine.state.frame.text.font? = some font →
    font.codeLength ∣ first.length →
    machine.SameButSegments
      (machine.showPieces pageHeight index (before ++ .string first :: .string second :: after))
      (machine.showPieces pageHeight index (before ++ .string (first ++ second) :: after))

/-- **A font shows a split string as it shows the whole one**, if the split is between codes. -/
theorem showsAlike {font : Font} (hread : font.MapIsRead) : font.ShowsAlike := by
  intro machine pageHeight index before after first second hfont h
  exact Machine.showPieces_parts hfont (laysOutAlike hread) h pageHeight index before after

/-- **Splitting a shown string does not change the layout.** In every font that a dictionary is
resolved to, and in a fallback font, strings are laid out like their parts, if these are cut between
two codes: the state of text, the distance and the text are the same, and in place of the segment of
a string there are those of its parts. So are the machines that have shown them. A string is shown
like an array of just this string. -/
theorem yields_resolve_splitting {m : Type → Type} [Monad m] [LawfulMonad m]
    (store : ObjectStore m) (tag : String) (d : Dictionary) :
    Yields (fun result => result.value.LaysOutAlike ∧ result.value.ShowsAlike)
      (resolve store tag d) ∧
    ((fallback tag).LaysOutAlike ∧ (fallback tag).ShowsAlike) ∧
    ∀ (page : PageContext m) (index : Nat) (machine : Machine) (front front' : List Operand)
      (operand : Operand) (bytes : Bytes), operand.bytes? = some bytes →
      machine.execute page index ⟨"Tj", front ++ [operand]⟩ =
        machine.execute page index ⟨"TJ", front' ++ [.array [operand]]⟩ := by
  have hfallback := mapIsRead_fallback tag
  refine ⟨?_, ⟨laysOutAlike hfallback, showsAlike hfallback⟩, ?_⟩
  · exact (yields_resolve store tag d).mono fun _ hread => ⟨laysOutAlike hread, showsAlike hread⟩
  · intro page index machine front front' operand bytes h
    exact Machine.execute_string_eq_array page index machine front front' h

/-- Two codes of two bytes each, in one string and in two, behind another string. -/
theorem resolve_splitting_composite :
    let d : Dictionary := ⟨[("Subtype", .name "Type0")]⟩
    let resolved : Diagnosed Font := resolve (m := Id) ObjectTable.empty.store "F1" d
    let font := resolved.value
    let parts := Layout.ofPieces font ⟨{}, 0.0⟩
      ([.string [0, 65]] ++ [.string [0, 66], .string [0, 67]])
    let whole := Layout.ofPieces font ⟨{}, 0.0⟩ ([.string [0, 65]] ++ [.string [0, 66, 0, 67]])
    parts.pen = whole.pen ∧ parts.segments.map (·.text) = ["A", "B", "C"] ∧
      whole.segments.map (·.text) = ["A", "BC"] := by
  intro d resolved font parts whole
  have hcuts : font.LaysOutAlike := (possible_pure (a := resolved) _
    (yields_resolve_splitting ObjectTable.empty.store "F1" d).1).1
  have hlength : font.codeLength ∣ 2 := by decide +kernel
  exact ⟨(hcuts ⟨{}, 0.0⟩ [.string [0, 65]] [] [0, 66] [0, 67] hlength).pen, by decide +kernel,
    by decide +kernel⟩

end Font

end PdfDisplay
