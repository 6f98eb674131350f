import PdfDisplay.Image.Jpeg
import PdfDisplay.Text.Normal

/-!
# Rendering options

The limits within which a page is rendered, what is done with its text and images, and the decoder
that JPEG data are given to.
-/

namespace PdfDisplay

/-- How pages are rendered. -/
structure RenderOptions where
  /-- Whether warnings are handed on. -/
  collectWarnings : Bool := true
  /-- How many operators of a page are executed. -/
  maxOperators : Nat := 1000000
  /-- How many pixels an image may have. -/
  maxImagePixels : Nat := 64 * 1024 * 1024
  /-- How many bytes of a page's contents are read. -/
  maxStreamBytes : Nat := 100 * 1024 * 1024
  /-- The normalization of text. -/
  normalForm : NormalForm := .none
  /-- Whether JPEG data are decoded to pixels. -/
  decodeJpeg : Bool := false
  /-- What decodes them. -/
  jpegDecoder : Jpeg.Decoder := Jpeg.headerDecoder

end PdfDisplay
