import PdfDisplay.Graphics.State
import PdfDisplay.Syntax.Operator

/-!
# Instructions

What an operator asks for, with its operands read. Operands are read from the end of the
operand list, so operands too many in front are passed over. An operator that is not known,
or whose operands are too few or of the wrong kind, asks for nothing.

`Instruction.table` lists the operators with the reading of their operands.
-/

namespace PdfDisplay

/-! ## Kinds of instructions -/

/-- A change of the style of painting. -/
inductive StyleChange where
  /-- The width of lines. -/
  | lineWidth (width : Float)
  /-- How lines end. -/
  | lineCap (cap : LineCap)
  /-- How lines meet. -/
  | lineJoin (join : LineJoin)
  /-- How far a corner may reach. -/
  | miterLimit (limit : Float)
  /-- The dashes. -/
  | dash (pattern : DashPattern)

/-- The style after a change. -/
def PaintStyle.change (style : PaintStyle) : StyleChange → PaintStyle
  | .lineWidth width => { style with lineWidth := width }
  | .lineCap cap => { style with lineCap := cap }
  | .lineJoin join => { style with lineJoin := join }
  | .miterLimit limit => { style with miterLimit := limit }
  | .dash pattern => { style with dash := pattern }

/-- The changes that the parameters of a named graphics state ask for. -/
def StyleChange.ofParameters (d : Dictionary) : List StyleChange :=
  let dash? :=
    match d.array? "D" with
    | some [.array lengths, phase] =>
      some (.dash ⟨lengths.filterMap Object.number?, phase.number?.getD 0.0⟩)
    | _ => none
  [(d.number? "LW").map .lineWidth,
    ((d.integer? "LC").bind LineCap.ofCode?).map .lineCap,
    ((d.integer? "LJ").bind LineJoin.ofCode?).map .lineJoin,
    (d.number? "ML").map .miterLimit,
    dash?].filterMap id

/-- A step in the construction of a path. -/
inductive PathStep where
  /-- Begins a subpath. -/
  | move (x y : Float)
  /-- Draws a line. -/
  | line (x y : Float)
  /-- Draws a curve. -/
  | curve (x₁ y₁ x₂ y₂ x₃ y₃ : Float)
  /-- Draws a curve whose first control point is the current point. -/
  | curveFromCurrent (x₂ y₂ x₃ y₃ : Float)
  /-- Draws a curve whose second control point is its end. -/
  | curveToEnd (x₁ y₁ x₃ y₃ : Float)
  /-- Closes the subpath. -/
  | close
  /-- Draws a rectangle. -/
  | rectangle (x y width height : Float)

/-- The path under construction after a step. -/
def PathBuilder.step (b : PathBuilder) : PathStep → PathBuilder
  | .move x y => b.moveTo x y
  | .line x y => b.lineTo x y
  | .curve x₁ y₁ x₂ y₂ x₃ y₃ => b.curveTo x₁ y₁ x₂ y₂ x₃ y₃
  | .curveFromCurrent x₂ y₂ x₃ y₃ => b.curveFromCurrent x₂ y₂ x₃ y₃
  | .curveToEnd x₁ y₁ x₃ y₃ => b.curveToEnd x₁ y₁ x₃ y₃
  | .close => b.close
  | .rectangle x y width height => b.rectangle x y width height

/-- A parameter of text that can be set anywhere. -/
inductive TextParameter where
  /-- What is added behind each glyph. -/
  | charSpacing (spacing : Float)
  /-- What is added behind each one-byte space. -/
  | wordSpacing (spacing : Float)
  /-- The distance between lines. -/
  | leading (distance : Float)
  /-- How far the baseline is raised. -/
  | rise (distance : Float)
  /-- What is done with glyphs. -/
  | mode (mode : TextRenderMode)

/-- The state of text with a parameter set. -/
def TextState.set (t : TextState) : TextParameter → TextState
  | .charSpacing spacing => { t with charSpacing := spacing }
  | .wordSpacing spacing => { t with wordSpacing := spacing }
  | .leading distance => { t with leading := distance }
  | .rise distance => { t with rise := distance }
  | .mode mode => { t with mode := mode }

/-- A part of what is shown: a string, or a displacement. -/
inductive TextPiece where
  /-- A string of character codes. -/
  | string (bytes : Bytes)
  /-- A displacement in thousandths of the font size. -/
  | adjust (amount : Float)

/-- An instruction that takes effect in text objects only. -/
inductive TextInstruction where
  /-- Selects a font. -/
  | selectFont (tag : String) (size : Float)
  /-- Replaces both matrices. -/
  | setMatrix (matrix : Transform)
  /-- Begins a line at a displacement. -/
  | moveBy (x y : Float)
  /-- Begins a line at a displacement and sets the leading. -/
  | moveBySettingLeading (x y : Float)
  /-- Begins a line. -/
  | nextLine
  /-- Sets the horizontal scaling, a fraction. -/
  | setScaling (scaling : Float)
  /-- Shows text. -/
  | showPieces (pieces : List TextPiece)
  /-- Begins a line, by the font size, and shows a string. -/
  | showOnNextLine (bytes : Bytes)
  /-- Sets the spacings of words and glyphs, begins a line, and shows a string. -/
  | showSpaced (wordSpacing charSpacing : Float) (bytes : Bytes)

/-- What an operator asks for. -/
inductive Instruction where
  /-- Saves the current frame. -/
  | save
  /-- Restores the frame saved last. -/
  | restore
  /-- Applies a transform in front of the current one. -/
  | concat (transform : Transform)
  /-- Changes the style of painting. -/
  | style (change : StyleChange)
  /-- Applies the parameters of a named graphics state. -/
  | applyParameters (name : String)
  /-- Sets the color and the space of an ink. -/
  | setColor (ink : Ink) (space : ColorSpace) (color : Color)
  /-- Sets the space of an ink. -/
  | setSpace (ink : Ink) (space : ColorSpace)
  /-- Sets the color of an ink by components in its space. -/
  | setComponents (ink : Ink) (components : List Float)
  /-- Goes on with the path. -/
  | draw (step : PathStep)
  /-- Paints the path. -/
  | paint (operator : PaintOperator)
  /-- Drops the path. -/
  | dropPath
  /-- Sets a parameter of text. -/
  | setText (parameter : TextParameter)
  /-- Begins a text object. -/
  | beginText
  /-- Ends a text object. -/
  | endText
  /-- Does something in a text object. -/
  | text (instruction : TextInstruction)
  /-- Draws a named object. -/
  | drawObject (name : String)
  /-- Draws an inline image. -/
  | drawImage (entries : List (String × Operand)) (data : Bytes)

/-! ## Operands -/

namespace Operand

/-- The value of a number without a fraction, clamped to 64 bits. -/
def whole? : Operand → Option Int
  | integer value => some value
  | real value => wholeInt64? value
  | _ => none

/-- The last `count` operands, if there are as many. -/
def last? (count : Nat) (operands : List Operand) : Option (List Operand) :=
  if count ≤ operands.length then some (operands.drop (operands.length - count)) else none

/-- The last `count` operands, if all of them are numbers. -/
def lastNumbers? (count : Nat) (operands : List Operand) : Option (List Float) := do
  (← last? count operands).mapM number?

/-- The components of a color: the numbers at the end, a name behind them passed over. -/
def components (operands : List Operand) : List Float :=
  let numeric :=
    match operands.reverse with
    | name _ :: rest => rest
    | reversed => reversed
  ((numeric.map number?).takeWhile Option.isSome).reverse.filterMap id

/-- The piece of shown text that an element of an array is. -/
def piece? : Operand → Option TextPiece
  | literalString bytes => some (.string bytes)
  | hexString bytes => some (.string bytes)
  | element => element.number?.map .adjust

mutual

/-- The object that an operand is. -/
def object : Operand → Object
  | .integer value => .integer value
  | .real value => .real value
  | .name text => .name text
  | .literalString bytes => .string bytes
  | .hexString bytes => .string bytes
  | .array items => .array (objects items)
  | .boolean value => .boolean value
  | .null => .null
  | .dictionary entries => .dictionary (objectEntries [] entries)

/-- The objects that operands are. -/
def objects : List Operand → List Object
  | [] => []
  | item :: rest => item.object :: objects rest

/-- Entries behind those read, a later value in the place of an earlier one. -/
def objectEntries (read : List (String × Object)) :
    List (String × Operand) → List (String × Object)
  | [] => read
  | (key, value) :: rest =>
    objectEntries (Entries.insert key value.object read) rest

end

/-- The dictionary that entries make. -/
def dictionaryOf (entries : List (String × Operand)) : Dictionary := ⟨objectEntries [] entries⟩

end Operand

/-! ## Readings of operand lists -/

namespace Instruction

/-- The reading of operands as what an operator asks for. -/
abbrev OperandReading : Type := List Operand → Option Instruction

namespace OperandReading

/-- No operands. -/
def none (instruction : Instruction) : OperandReading := fun _ => some instruction

/-- A number. -/
def number (make : Float → Instruction) : OperandReading := fun operands => do
  match ← Operand.lastNumbers? 1 operands with
  | [x] => some (make x)
  | _ => .none

/-- Two numbers. -/
def numbers₂ (make : Float → Float → Instruction) : OperandReading := fun operands => do
  match ← Operand.lastNumbers? 2 operands with
  | [x, y] => some (make x y)
  | _ => .none

/-- Three numbers. -/
def numbers₃ (make : Float → Float → Float → Instruction) : OperandReading := fun operands => do
  match ← Operand.lastNumbers? 3 operands with
  | [x, y, z] => some (make x y z)
  | _ => .none

/-- Four numbers. -/
def numbers₄ (make : Float → Float → Float → Float → Instruction) : OperandReading :=
  fun operands => do
    match ← Operand.lastNumbers? 4 operands with
    | [x, y, z, w] => some (make x y z w)
    | _ => .none

/-- Six numbers. -/
def numbers₆ (make : Float → Float → Float → Float → Float → Float → Instruction) :
    OperandReading := fun operands => do
  match ← Operand.lastNumbers? 6 operands with
  | [a, b, c, d, e, f] => some (make a b c d e f)
  | _ => .none

/-- A transform. -/
def transform (make : Transform → Instruction) : OperandReading :=
  numbers₆ fun a b c d e f => make ⟨a, b, c, d, e, f⟩

/-- A code. -/
def code {α : Type} (ofCode? : Int → Option α) (make : α → Instruction) : OperandReading :=
  fun operands => ((operands.getLast?.bind Operand.whole?).bind ofCode?).map make

/-- A name. -/
def name (make : String → Instruction) : OperandReading := fun operands =>
  (operands.getLast?.bind Operand.name?).map make

/-- A string. -/
def string (make : Bytes → Instruction) : OperandReading := fun operands =>
  (operands.getLast?.bind Operand.bytes?).map make

/-- The lengths of dashes and the phase. -/
def dash : OperandReading := fun operands => do
  match ← Operand.last? 2 operands with
  | [.array lengths, phase] =>
    let phase ← phase.number?
    some (.style (.dash ⟨lengths.filterMap Operand.number?, phase⟩))
  | _ => .none

/-- A font tag and a size. -/
def font : OperandReading := fun operands => do
  match ← Operand.last? 2 operands with
  | [.name tag, size] => size.number?.map fun size => .text (.selectFont tag size)
  | _ => .none

/-- Two spacings and a string. -/
def spacedString : OperandReading := fun operands => do
  match ← Operand.last? 3 operands with
  | [word, char, string] =>
    some (.text (.showSpaced (← word.number?) (← char.number?) (← string.bytes?)))
  | _ => .none

/-- An array of strings and displacements. -/
def pieces : OperandReading := fun operands =>
  match operands.getLast? with
  | some (.array elements) => some (.text (.showPieces (elements.filterMap Operand.piece?)))
  | _ => .none

/-- The components of a color, however many there are. -/
def components (ink : Ink) : OperandReading := fun operands =>
  some (.setComponents ink (Operand.components operands))

/-- The entries and the data of an inline image, and nothing else. -/
def inlineImage : OperandReading
  | [.dictionary entries, .literalString data] => some (.drawImage entries data)
  | _ => .none

end OperandReading

open OperandReading in
/-- The operators with the readings of their operands. -/
def table : List (String × OperandReading) := [
  ("q", none .save),
  ("Q", none .restore),
  ("cm", transform .concat),
  ("w", number (.style <| .lineWidth ·)),
  ("J", code LineCap.ofCode? (.style <| .lineCap ·)),
  ("j", code LineJoin.ofCode? (.style <| .lineJoin ·)),
  ("M", number (.style <| .miterLimit ·)),
  ("d", dash),
  ("gs", name .applyParameters),
  ("g", number (.setColor .fill .gray <| .gray ·)),
  ("G", number (.setColor .stroke .gray <| .gray ·)),
  ("rg", numbers₃ (.setColor .fill .rgb <| .rgb · · ·)),
  ("RG", numbers₃ (.setColor .stroke .rgb <| .rgb · · ·)),
  ("k", numbers₄ (.setColor .fill .cmyk <| .cmyk · · · ·)),
  ("K", numbers₄ (.setColor .stroke .cmyk <| .cmyk · · · ·)),
  ("cs", name (.setSpace .fill <| .ofName ·)),
  ("CS", name (.setSpace .stroke <| .ofName ·)),
  ("sc", components .fill),
  ("scn", components .fill),
  ("SC", components .stroke),
  ("SCN", components .stroke),
  ("m", numbers₂ (.draw <| .move · ·)),
  ("l", numbers₂ (.draw <| .line · ·)),
  ("c", numbers₆ (.draw <| .curve · · · · · ·)),
  ("v", numbers₄ (.draw <| .curveFromCurrent · · · ·)),
  ("y", numbers₄ (.draw <| .curveToEnd · · · ·)),
  ("h", none (.draw .close)),
  ("re", numbers₄ (.draw <| .rectangle · · · ·)),
  ("n", none .dropPath),
  ("Tc", number (.setText <| .charSpacing ·)),
  ("Tw", number (.setText <| .wordSpacing ·)),
  ("TL", number (.setText <| .leading ·)),
  ("Ts", number (.setText <| .rise ·)),
  ("Tr", code TextRenderMode.ofCode? (.setText <| .mode ·)),
  ("BT", none .beginText),
  ("ET", none .endText),
  ("Tf", font),
  ("Tm", transform (.text <| .setMatrix ·)),
  ("Td", numbers₂ (.text <| .moveBy · ·)),
  ("TD", numbers₂ (.text <| .moveBySettingLeading · ·)),
  ("T*", none (.text .nextLine)),
  ("Tz", number fun percent => .text (.setScaling (percent / 100.0))),
  ("Tj", string fun bytes => .text (.showPieces [.string bytes])),
  ("\x27", string (.text <| .showOnNextLine ·)),
  ("\x22", spacedString),
  ("TJ", pieces),
  ("Do", name .drawObject),
  ("BI", inlineImage)]

/-- What an operator asks for. -/
def ofOperator? (operator : Operator) : Option Instruction :=
  match PaintOperator.ofName? operator.name with
  | some painting => some (.paint painting)
  | .none => (table.lookup operator.name).bind (· operator.operands)

end Instruction

end PdfDisplay
