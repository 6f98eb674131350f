import PdfDisplay.Filter
import PdfDisplay.Flate.Inflate
import PdfDisplay.Image.Jpeg
import PdfDisplay.Options
import PdfDisplay.Raster
import PdfDisplay.Text.Quoted
import PdfDisplay.Warning

/-!
# Images

An image is a dictionary and data. Shown are JPEG images, whose data are passed on or decoded, and
images of eight-bit gray or color samples, which become opaque pixels. All others are
refused with the reason.

Each key has a full name and a short one, which inline images use.
-/

namespace PdfDisplay

/-- The category of a reason why an image is not shown. -/
inductive ImageErrorKind where
  /-- The image uses a feature that is not supported. -/
  | unsupported
  /-- The data cannot be decoded, or are too few. -/
  | corrupt
  /-- A key is missing or has a bad value. -/
  | malformed
  /-- The image has too many pixels. -/
  | tooLarge
  deriving DecidableEq, Repr

namespace ImageErrorKind

/-- The wording of a reason of this category. -/
def describe (kind : ImageErrorKind) (reason : String) : String :=
  match kind with
  | unsupported => "unsupported image: " ++ reason
  | corrupt => "corrupt image data: " ++ reason
  | malformed => "malformed image dictionary: " ++ reason
  | tooLarge => reason

/-- The category of the warning about an image that is left out. -/
def warningCode : ImageErrorKind → WarningCode
  | unsupported => .unsupportedEncoding
  | corrupt => .corruptStream
  | malformed => .malformedDictionary
  | tooLarge => .resourceLimitReached

end ImageErrorKind

/-- Why an image is not shown. -/
inductive ImageError where
  /-- A dimension is missing. -/
  | missingDimension (key : String)
  /-- A dimension is no positive 32-bit number. -/
  | badDimension (key : String) (value : Int)
  /-- There are too many pixels. -/
  | tooManyPixels (pixels limit : Nat)
  /-- The image is a stencil. -/
  | stencil
  /-- The data were passed through a predictor. -/
  | predictor (code : Int)
  /-- The filter is not known. -/
  | filter (name : String)
  /-- There is more than one filter. -/
  | filterChain (names : List String)
  /-- Samples do not have eight bits. -/
  | sampleBits (bits : Int)
  /-- The color space is not known. -/
  | colorSpace (name : String)
  /-- There is no color space. -/
  | missingColorSpace
  /-- The number of samples of a pixel is not known. -/
  | channels (count : Nat)
  /-- Compressed data cannot be read. -/
  | compression (failure : Flate.Failure)
  /-- There are too few samples. -/
  | tooFewSamples (count width height perPixel : Nat)
  /-- The pixels do not fill the image. -/
  | pixelCount
  /-- The data do not begin and end as a JPEG file. -/
  | jpegMarkers
  /-- The header of a JPEG file cannot be read. -/
  | jpegHeader (fault? : Option String)
  /-- A JPEG file has no frame. -/
  | jpegFrame
  /-- The frame of a JPEG file has no pixels. -/
  | jpegSize
  /-- The scans of a JPEG file cannot be read. -/
  | jpegData (fault? : Option String)
  /-- The number of samples of a pixel of a JPEG file is not known. -/
  | jpegChannels (count : Nat)
  /-- The pixels of a JPEG file do not fill its frame. -/
  | jpegPixelCount

namespace ImageError

/-- The category of the reason. -/
def kind : ImageError → ImageErrorKind
  | missingDimension _ | badDimension _ _ | missingColorSpace => .malformed
  | tooManyPixels _ _ => .tooLarge
  | stencil | predictor _ | filter _ | filterChain _ | sampleBits _ | colorSpace _ | channels _
  | jpegChannels _ => .unsupported
  | compression _ | tooFewSamples _ _ _ _ | pixelCount | jpegMarkers | jpegHeader _ | jpegFrame
  | jpegSize | jpegData _ | jpegPixelCount => .corrupt

/-- What went wrong, and why if that is known. -/
def withFault (what : String) (fault? : Option String) : String :=
  fault?.elim what fun fault => what ++ ": " ++ fault

/-- The wording of the reason without its category. -/
def reason : ImageError → String
  | missingDimension key => "missing /" ++ key
  | badDimension key value => "/" ++ key ++ " is " ++ toString value
  | tooManyPixels pixels limit =>
    "image of " ++ toString pixels ++ " pixels exceeds the limit of " ++ toString limit
  | stencil => "stencil mask"
  | predictor code => "predictor " ++ toString code
  | filter name => "filter " ++ name
  | filterChain names => "filter chain " ++ Quoted.encodeList names
  | sampleBits bits => toString bits ++ " bits per component"
  | colorSpace name => "color space " ++ name
  | missingColorSpace => "missing /ColorSpace"
  | channels count => toString count ++ " channels"
  | compression failure => failure.message
  | tooFewSamples count width height perPixel =>
    toString count ++ " sample bytes for " ++ toString width ++ "x" ++ toString height ++ "x" ++
      toString perPixel
  | pixelCount => "pixel buffer size mismatch"
  | jpegMarkers => "missing JPEG SOI/EOI markers"
  | jpegHeader fault? => withFault "JPEG header" fault?
  | jpegFrame => "JPEG has no frame header"
  | jpegSize => "JPEG frame has no pixels"
  | jpegData fault? => withFault "JPEG data" fault?
  | jpegChannels count => "JPEG with " ++ toString count ++ " channels"
  | jpegPixelCount => "JPEG pixel buffer size mismatch"

/-- The wording of the reason. -/
def message (e : ImageError) : String := e.kind.describe e.reason

/-- The category of the warning about an image that is left out. -/
def warningCode (e : ImageError) : WarningCode := e.kind.warningCode

end ImageError

namespace Image

/-! ## Declarations -/

/-- A dimension, which is a positive 32-bit number. -/
def dimension (d : Dictionary) (key short : String) : Except ImageError Nat :=
  match (d.getAny? [key, short]).bind Object.integer? with
  | none => .error (.missingDimension key)
  | some value =>
    if 0 < value ∧ value < 0x100000000 then .ok value.toNat else .error (.badDimension key value)

/-- Whether the image is a stencil. -/
def isStencil (d : Dictionary) : Bool :=
  ((d.getAny? ["ImageMask", "IM"]).bind Object.boolean?).getD false

/-- The filters that the data went through. -/
def filters (d : Dictionary) : List String := Filter.names (d.getAny? ["Filter", "F"])

/-- The first decoding parameters. -/
def firstParameters? : Object → Option Dictionary
  | .dictionary entries => some ⟨entries⟩
  | .array items => items.head?.bind Object.dictionary?
  | _ => none

/-- The code of a predictor, if the data were passed through one. -/
def predictor? (d : Dictionary) : Option Int := do
  let parameters ← firstParameters? (← d.getAny? ["DecodeParms", "DP"])
  let code ← parameters.integer? "Predictor"
  if 1 < code then some code else none

/-- The number of bits of a sample. -/
def sampleBits (d : Dictionary) : Int :=
  ((d.getAny? ["BitsPerComponent", "BPC"]).bind Object.integer?).getD 8

/-- The number of samples of a pixel. -/
def channels (d : Dictionary) : Except ImageError Nat :=
  match d.getAny? ["ColorSpace", "CS"] with
  | some (.name name) =>
    if name = "DeviceGray" ∨ name = "G" then .ok 1
    else if name = "DeviceRGB" ∨ name = "RGB" then .ok 3
    else .error (.colorSpace name)
  | some (.array items) => .error (.colorSpace ((items.head?.bind Object.name?).getD "array"))
  | _ => .error .missingColorSpace

/-! ## Data -/

/-- The raster of samples. The number of samples it takes is counted in one word. -/
def ofSamples (d : Dictionary) (width height : Nat) (samples : Bytes) :
    Except ImageError Raster := do
  if sampleBits d ≠ 8 then throw (.sampleBits (sampleBits d))
  let channels ← channels d
  let needed := width * height * channels % Raster.sizeLimit
  if samples.length < needed then throw (.tooFewSamples samples.length width height channels)
  match Samples.expand? (samples.take needed) channels (width * height) with
  | none => throw (.channels channels)
  | some pixels =>
    match Raster.rgba? width height pixels with
    | none => throw .pixelCount
    | some raster => return raster

/-- The raster of the pixels of a JPEG file. It has the size that the header of the file states,
whatever the dictionary of the image says, and the number of samples of a pixel is that of all
samples divided by the number of pixels. -/
def ofJpegPixels (decoder : Jpeg.Decoder) (data : Bytes) : Except ImageError Raster :=
  match decoder.header data with
  | .error fault? => .error (.jpegHeader fault?)
  | .ok none => .error .jpegFrame
  | .ok (some (width, height)) =>
    if width = 0 ∨ height = 0 then .error .jpegSize
    else
      match decoder.samples data with
      | .error fault? => .error (.jpegData fault?)
      | .ok samples =>
        let count := width.toNat * height.toNat
        match Samples.expand? samples (samples.length / count) count with
        | none => .error (.jpegChannels (samples.length / count))
        | some pixels =>
          match Raster.rgba? width.toNat height.toNat pixels with
          | none => .error .jpegPixelCount
          | some raster => .ok raster

/-- The raster of JPEG data, which are passed on unless their pixels are asked for. -/
def ofJpeg (width height : Nat) (data : Bytes) (options : RenderOptions) :
    Except ImageError Raster :=
  if !Jpeg.hasMarkers data then .error .jpegMarkers
  else if options.decodeJpeg then ofJpegPixels options.jpegDecoder data
  else .ok (.jpeg width height data)

/-- The raster of an image. -/
def decode (d : Dictionary) (data : Bytes) (options : RenderOptions) :
    Except ImageError Raster := do
  let width ← dimension d "Width" "W"
  let height ← dimension d "Height" "H"
  if options.maxImagePixels < width * height then
    throw (.tooManyPixels (width * height) options.maxImagePixels)
  if isStencil d then throw .stencil
  if let some code := predictor? d then throw (.predictor code)
  -- the filters are looked at last, after everything that refuses an image unread
  match filters d with
  | ["DCTDecode"] => ofJpeg width height data options
  | [] => ofSamples d width height data
  | ["FlateDecode"] =>
    match Flate.inflate data with
    | .ok samples => ofSamples d width height samples
    | .error failure => throw (.compression failure)
  | [name] => throw (.filter name)
  | names => throw (.filterChain names)

end Image

end PdfDisplay
