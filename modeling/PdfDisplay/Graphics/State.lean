import PdfDisplay.Graphics.TextState

/-!
# Graphics state

A frame holds what is saved and restored together: the transform, the style of painting, the
color spaces, and the state of text. The graphics state is the current frame with the saved
ones. Restoring when nothing is saved changes nothing.
-/

namespace PdfDisplay

/-- What a color is for. -/
inductive Ink where
  /-- Fills. -/
  | fill
  /-- Strokes. -/
  | stroke
  deriving DecidableEq, Repr, Inhabited

/-- A color space. -/
inductive ColorSpace where
  /-- Shades of gray. -/
  | gray
  /-- Red, green and blue. -/
  | rgb
  /-- Four inks. -/
  | cmyk
  /-- Patterns. -/
  | pattern
  /-- Any other space. -/
  | other (name : String)
  deriving DecidableEq, Repr, Inhabited

namespace ColorSpace

/-- The space with a name. -/
def ofName (name : String) : ColorSpace :=
  match name with
  | "DeviceGray" => gray
  | "G" => gray
  | "CalGray" => gray
  | "DeviceRGB" => rgb
  | "RGB" => rgb
  | "CalRGB" => rgb
  | "DeviceCMYK" => cmyk
  | "CMYK" => cmyk
  | "Pattern" => pattern
  | name => other name

/-- The color that components give, if they are enough. In a space that is not known, three
are read as red, green and blue, and fewer as gray. -/
def color? : ColorSpace → List Float → Option Color
  | gray, level :: _ => some (.gray level)
  | rgb, red :: green :: blue :: _ => some (.rgb red green blue)
  | cmyk, cyan :: magenta :: yellow :: black :: _ => some (.cmyk cyan magenta yellow black)
  | pattern, red :: green :: blue :: _ => some (.rgb red green blue)
  | other _, red :: green :: blue :: _ => some (.rgb red green blue)
  | pattern, level :: _ => some (.gray level)
  | other _, level :: _ => some (.gray level)
  | _, _ => none

end ColorSpace

/-- What is saved and restored together. -/
structure GraphicsFrame where
  /-- The transform to the page. -/
  transform : Transform := .identity
  /-- The style of painting. -/
  style : PaintStyle := {}
  /-- The color space of fills. -/
  fillSpace : ColorSpace := .gray
  /-- The color space of strokes. -/
  strokeSpace : ColorSpace := .gray
  /-- The state of text. -/
  text : TextState := {}
  deriving Inhabited

namespace GraphicsFrame

/-- Applies a transform in front of the current one. -/
def concat (frame : GraphicsFrame) (transform : Transform) : GraphicsFrame :=
  { frame with transform := transform.andThen frame.transform }

/-- The color space of an ink. -/
def space (frame : GraphicsFrame) : Ink → ColorSpace
  | .fill => frame.fillSpace
  | .stroke => frame.strokeSpace

/-- Sets the color of an ink. -/
def setColor (frame : GraphicsFrame) (color : Color) : Ink → GraphicsFrame
  | .fill => { frame with style := { frame.style with fillColor := color } }
  | .stroke => { frame with style := { frame.style with strokeColor := color } }

/-- Sets the color space of an ink and its color. -/
def setSpaceAndColor (frame : GraphicsFrame) (space : ColorSpace) (color : Color) (ink : Ink) :
    GraphicsFrame :=
  match ink with
  | .fill => { frame.setColor color .fill with fillSpace := space }
  | .stroke => { frame.setColor color .stroke with strokeSpace := space }

/-- Sets the color space of an ink; its color becomes black. -/
def setSpace (frame : GraphicsFrame) (space : ColorSpace) (ink : Ink) : GraphicsFrame :=
  frame.setSpaceAndColor space .black ink

/-- Sets the color of an ink by components in its space, if they give one. -/
def setComponents? (frame : GraphicsFrame) (components : List Float) (ink : Ink) :
    Option GraphicsFrame :=
  ((frame.space ink).color? components).map (frame.setColor · ink)

/-- Changes the style of painting. -/
def mapStyle (frame : GraphicsFrame) (change : PaintStyle → PaintStyle) : GraphicsFrame :=
  { frame with style := change frame.style }

/-- Changes the state of text. -/
def mapText (frame : GraphicsFrame) (change : TextState → TextState) : GraphicsFrame :=
  { frame with text := change frame.text }

end GraphicsFrame

/-- The current frame with the saved ones. -/
structure GraphicsState where
  /-- The current frame. -/
  frame : GraphicsFrame := {}
  /-- The saved frames, the latest first. -/
  saved : List GraphicsFrame := []
  deriving Inhabited

namespace GraphicsState

/-- The state that begins with a transform. -/
def ofTransform (transform : Transform) : GraphicsState := { frame := { transform } }

/-- How many frames are saved. -/
def depth (state : GraphicsState) : Nat := state.saved.length

/-- Saves the current frame. -/
def save (state : GraphicsState) : GraphicsState :=
  { state with saved := state.frame :: state.saved }

/-- Restores the frame saved last, if there is one. -/
def restore? (state : GraphicsState) : Option GraphicsState :=
  match state.saved with
  | [] => none
  | frame :: saved => some ⟨frame, saved⟩

/-- Restores the frame saved last; without one, nothing changes. -/
def restore (state : GraphicsState) : GraphicsState := state.restore?.getD state

/-- Changes the current frame. -/
def map (state : GraphicsState) (change : GraphicsFrame → GraphicsFrame) : GraphicsState :=
  { state with frame := change state.frame }

/-! ## Laws of saving -/

theorem restore_of_saved_eq_cons {state : GraphicsState} {frame : GraphicsFrame}
    {saved : List GraphicsFrame} (h : state.saved = frame :: saved) :
    state.restore = ⟨frame, saved⟩ := by
  rw [restore, restore?, h]
  rfl

theorem restore_of_saved_eq_nil {state : GraphicsState} (h : state.saved = []) :
    state.restore = state := by
  obtain ⟨frame, saved⟩ := state
  subst h
  rfl

end GraphicsState

end PdfDisplay
