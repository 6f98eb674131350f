import PdfDisplay.Text.Utf8

/-!
# JPEG files

What is looked at of a JPEG file where it is passed on as it is: the markers it begins and ends with
(`Jpeg.hasMarkers`). Its pixels are decoded by a `Jpeg.Decoder`, which the program is given.

`Jpeg.headerDecoder` is one that reads no more than the header. The header is a sequence of
segments, each behind a marker and with its length in front. The segments that matter to a decoder
(frame, scan, tables) have to be sound, and a single frame has to come before the first scan, which
takes its components from it.
-/

namespace PdfDisplay.Jpeg

/-- White space and zeros, which may follow the end of a file. -/
def isPadding (b : UInt8) : Bool := b == 0x20 || b == 0x09 || b == 0x0D || b == 0x0A || b == 0x00

/-- Whether a reversed text begins with an end marker, padding aside. -/
def endsReversed (text : Bytes) : Bool :=
  match text.dropWhile isPadding with
  | 0xD9 :: 0xFF :: _ => true
  | _ => false

/-- Whether data begin with a start marker and end, padding aside, with an end marker. -/
def hasMarkers (data : Bytes) : Bool :=
  match data with
  | 0xFF :: 0xD8 :: _ => endsReversed data.reverse
  | _ => false

/-! ## Decoders -/

/-- A decoder of JPEG files. Where it fails it may say why. -/
structure Decoder where
  /-- Reads the header of a file: the width and the height of its frame, if it has a frame. -/
  header : Bytes → Except (Option String) (Option (UInt16 × UInt16))
  /-- Decodes a file: the samples of its pixels, row by row from the top. -/
  samples : Bytes → Except (Option String) Bytes

/-! ## Segments -/

/-- The body of the segment that a text begins with, and what follows it. The length that a
segment states counts its own two bytes. -/
def segment? : Bytes → Option (Bytes × Bytes)
  | l₁ :: l₀ :: rest =>
    let length := l₁.toNat * 256 + l₀.toNat
    let body := rest.take (length - 2)
    if 2 ≤ length ∧ body.length = length - 2 then some (body, rest.drop (length - 2)) else none
  | _ => none

/-- What follows a segment is shorter than the text. -/
theorem length_of_segment? {text body rest : Bytes} (h : segment? text = some (body, rest)) :
    rest.length < text.length := by
  unfold segment? at h
  split at h
  · dsimp only at h
    split at h
    · simp only [Option.some.injEq, Prod.mk.injEq] at h
      obtain ⟨-, rfl⟩ := h
      simp only [List.length_drop, List.length_cons]
      omega
    · cases h
  · cases h

/-! ### Frames -/

/-- Whether a component can be sampled by two factors, across and down. Across, three is no
factor. -/
def areFactors (across down : UInt8) : Bool :=
  1 ≤ across && across ≤ 4 && across != 3 && 1 ≤ down && down ≤ 4

/-- The names of the components of a frame. Three bytes describe each: its name, its two
sampling factors, and which of four tables of quantizers it uses. -/
def components? : Bytes → Option (List UInt8)
  | [] => some []
  | name :: factors :: table :: rest =>
    if areFactors (factors >>> 4) (factors &&& 0x0F) && table < 4 then
      (components? rest).map (name :: ·)
    else none
  | _ => none

/-- A frame. -/
structure Frame where
  /-- The width of the image. -/
  width : UInt16
  /-- The height of the image. -/
  height : UInt16
  /-- The names of the components. -/
  components : List UInt8
  deriving DecidableEq, Repr

/-- The number that two bytes write. -/
def word (high low : UInt8) : UInt16 := high.toUInt16 * 256 + low.toUInt16

/-- The frame that the body of a segment describes: eight bits a sample, a height, a width, and one
to four components. -/
def frame? : Bytes → Option Frame
  | 8 :: h₁ :: h₀ :: w₁ :: w₀ :: count :: rest =>
    let height := word h₁ h₀
    let width := word w₁ w₀
    if height != 0 && width != 0 && 1 ≤ count && count ≤ 4 && rest.length == 3 * count.toNat then
      (components? rest).map (⟨width, height, ·⟩)
    else none
  | _ => none

/-! ### Tables -/

/-- Whether the body of a segment is a sequence of tables of 64 quantizers, of one byte or
two, each for one of four places. -/
def holdsQuantizers (body : Bytes) : Bool :=
  match body with
  | [] => true
  | info :: rest =>
    let size := if info >>> 4 = 0 then 64 else 128
    info >>> 4 ≤ 1 && info &&& 0x0F < 4 && size ≤ rest.length &&
      holdsQuantizers (rest.drop size)
  termination_by body.length
  decreasing_by simp only [List.length_cons, List.length_drop]; omega

/-- Whether there is a prefix code with so many words of each length, from `length` on, if
`first` is the first word of that length. The word of ones alone is not used. -/
def isCode (length first : Nat) : List Nat → Bool
  | [] => true
  | count :: counts =>
    first + count < 1 <<< length && isCode (length + 1) (2 * (first + count)) counts

/-- Whether the body of a segment is a sequence of prefix codes, each for one of four places.
A code is given by the number of its words of each length and by its symbols. Of the two
kinds of codes, the first has only symbols below sixteen. -/
def holdsCodes (body : Bytes) : Bool :=
  match body with
  | [] => true
  | info :: rest =>
    let counts := (rest.take 16).map UInt8.toNat
    let total := counts.foldl (· + ·) 0
    let symbols := (rest.drop 16).take total
    info >>> 4 ≤ 1 && info &&& 0x0F < 4 && counts.length == 16 && total ≤ 256 &&
      symbols.length == total && isCode 1 0 counts &&
      (info >>> 4 == 1 || symbols.all (· < 16)) && holdsCodes (rest.drop (16 + total))
  termination_by body.length
  decreasing_by simp only [List.length_cons, List.length_drop]; omega

/-- Whether the body of a segment that may state a color transform does not state an unknown
one. -/
def isTransform (body : Bytes) : Bool :=
  body.take 5 != Utf8.encode "Adobe" || body[11]?.all (· ≤ 2)

/-- The name with which parts of long metadata begin. -/
def metadataName : Bytes := Utf8.encode "http://ns.adobe.com/xmp/extension/" ++ [0]

/-- Whether the body of a segment is no part of long metadata, or has room for what leads one:
an identifier of 32 bytes, and the size of all and the place of the part in four bytes each. -/
def isMetadata (body : Bytes) : Bool :=
  !metadataName.isPrefixOf body || body.length == metadataName.length ||
    metadataName.length + 40 ≤ body.length

/-! ### Scans -/

/-- The names of the components in a scan, each with a byte that says which codes it uses. -/
def selection : Bytes → List UInt8
  | name :: _ :: rest => name :: selection rest
  | _ => []

/-- Whether the last bytes of a scan header are sound: the first and the last coefficient,
and two bit positions. -/
def isRange : Bytes → Bool
  | [first, last, bits] => first ≤ 63 && last ≤ 63 && bits >>> 4 ≤ 13 && bits &&& 0x0F ≤ 13
  | _ => false

/-- The names of the components of a scan: one to four, and no one twice. -/
def scan? : Bytes → Option (List UInt8)
  | count :: rest =>
    let names := selection (rest.take (2 * count.toNat))
    if 1 ≤ count && count ≤ 4 && isRange (rest.drop (2 * count.toNat)) && names.Nodup then
      some names
    else none
  | [] => none

/-! ## The header -/

/-- A segment of the header. -/
inductive Segment where
  /-- A frame. -/
  | frame (frame : Frame)
  /-- A scan with the names of the components that are in it. -/
  | scan (components : List UInt8)
  /-- A sound segment of another kind. -/
  | other
  deriving DecidableEq, Repr

/-- Whether a marker begins a frame that a decoder knows: baseline, extended or progressive. -/
def beginsFrame (marker : UInt8) : Bool := 0xC0 ≤ marker && marker ≤ 0xC2

/-- Whether a marker is one that a decoder does not go on behind: arithmetic coding, a late
number of lines, and the end of the file. Frames of other kinds are passed over. -/
def isRefused (marker : UInt8) : Bool := marker == 0xCC || marker == 0xDC || marker == 0xD9

/-- The segment with a marker and a body, if it is sound. -/
def Segment.read? (marker : UInt8) (body : Bytes) : Option Segment :=
  let sound (isSound : Bool) : Option Segment := if isSound then some .other else none
  if beginsFrame marker then (frame? body).map .frame
  else if isRefused marker then none
  else if marker = 0xC4 then sound (holdsCodes body)
  else if marker = 0xDA then (scan? body).map .scan
  else if marker = 0xDB then sound (holdsQuantizers body)
  else if marker = 0xDD then sound (body.length == 2)
  else if marker = 0xE1 then sound (isMetadata body)
  else if marker = 0xEE then sound (isTransform body)
  else some .other

/-- How many bytes behind a segment are read with it. The first five bytes of an application
header are read at once, even if it has only four. -/
def overrun (marker : UInt8) (body : Bytes) : Nat :=
  if marker = 0xE0 ∧ body.length = 4 then 1 else 0

/-- The frame in front of the scan that the segments lead to, if there is one frame and it has all
components of the scan. Bytes that are no marker are passed over. -/
def scannedFrame? (frame? : Option Frame) (text : Bytes) : Option Frame :=
  match text with
  | [] | [_] => none
  | first :: marker :: rest =>
    if first ≠ 0xFF ∨ marker = 0xFF then scannedFrame? frame? (marker :: rest)
    else if marker = 0x00 then scannedFrame? frame? rest
    else
      match _h : segment? rest with
      | none => none
      | some (body, rest') =>
        match Segment.read? marker body with
        | none => none
        | some (.frame frame) => if frame?.isSome then none else scannedFrame? (some frame) rest'
        | some (.scan names) => frame?.filter fun frame => names.all frame.components.contains
        | some .other => scannedFrame? frame? (rest'.drop (overrun marker body))
  termination_by text.length
  decreasing_by
    all_goals try have := length_of_segment? _h
    all_goals simp only [List.length_cons, List.length_drop] at *; omega

/-- A decoder that reads the header of a file and none of its pixels. It never says why. -/
def headerDecoder : Decoder where
  header data :=
    match scannedFrame? none (data.drop 2) with
    | some frame => .ok (some (frame.width, frame.height))
    | none => .error none
  samples _ := .error none

end PdfDisplay.Jpeg
