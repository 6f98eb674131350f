import PdfDisplay.Text.Utf8

/-!
# Rasters

The pixels of an image: either four bytes each (red, green, blue and opacity), row by row
from the top, or JPEG data that are passed on as they are.

Sizes are counted in words of 64 bits. A size that does not fit is refused.
-/

namespace PdfDisplay

/-- The data of a raster. -/
inductive RasterData where
  /-- Four bytes for each pixel. -/
  | rgba (bytes : Bytes)
  /-- A JPEG file. -/
  | jpeg (bytes : Bytes)
  deriving DecidableEq, Repr, Inhabited

/-- The bytes of the data. -/
def RasterData.bytes : RasterData → Bytes
  | rgba bytes => bytes
  | jpeg bytes => bytes

/-- An image with its dimensions. -/
structure Raster where
  /-- Pixels in a row. -/
  width : Nat
  /-- Rows. -/
  height : Nat
  /-- The data. -/
  data : RasterData
  deriving DecidableEq, Repr, Inhabited

namespace Raster

/-- The first size that does not fit a word. -/
def sizeLimit : Nat := 0x10000000000000000

/-- A raster of pixels, if the data hold exactly four bytes for each. -/
def rgba? (width height : Nat) (bytes : Bytes) : Option Raster :=
  if width * height * 4 < sizeLimit ∧ bytes.length = width * height * 4 then
    some ⟨width, height, .rgba bytes⟩
  else none

/-- A raster of JPEG data. -/
def jpeg (width height : Nat) (bytes : Bytes) : Raster := ⟨width, height, .jpeg bytes⟩

/-- The media type of the data. -/
def mediaType (raster : Raster) : String :=
  match raster.data with
  | .rgba _ => "image/x-raw-rgba"
  | .jpeg _ => "image/jpeg"

/-- The number of bytes of the data. -/
def byteCount (raster : Raster) : Nat := raster.data.bytes.length

end Raster

/-! ## Samples -/

namespace Samples

/-- Opaque pixels of shades of gray. -/
def expandGray (samples : Bytes) : Bytes := samples.flatMap fun level => [level, level, level, 255]

/-- Opaque pixels of triples of red, green and blue, behind those of `done`, which stands in
reverse; an incomplete triple gives none. -/
def expandRgbOnto (done : Bytes) : Bytes → Bytes
  | red :: green :: blue :: rest => expandRgbOnto (255 :: blue :: green :: red :: done) rest
  | _ => done.reverse

/-- Opaque pixels of triples of red, green and blue. -/
def expandRgb (samples : Bytes) : Bytes := expandRgbOnto [] samples

/-- The samples of `count` pixels with `channels` bytes each as four bytes a pixel. Samples
that are left over are ignored. -/
def expand? (samples : Bytes) (channels count : Nat) : Option Bytes :=
  if Raster.sizeLimit ≤ count * channels ∨ samples.length < count * channels then none
  else
    let used := samples.take (count * channels)
    match channels with
    | 1 => some (expandGray used)
    | 3 => some (expandRgb used)
    | 4 => some used
    | _ => none

end Samples

end PdfDisplay
