import Mathlib.Data.List.TakeWhile
import PdfDisplay.Image.Basic

/-!
# Rasters of images

An image that is shown is exactly the one that its dictionary declares (`Image.decode_declared`):
its pixels are those of its samples, one after another, or its data are passed on as they are.
`Image.Shows` says which pixels these are, and `Image.Showable` which images with samples are shown
at all.
-/

namespace PdfDisplay

/-! ## JPEG files -/

/-- Whether data begin with a start marker and end, padding aside, with an end marker. -/
structure Jpeg.IsFramed (data : Bytes) : Prop where
  /-- The start marker comes first. -/
  start : [0xFF, 0xD8] <+: data
  /-- The end marker comes last, or in front of padding. -/
  exists_body : ∃ body padding, data = body ++ padding ∧ [0xFF, 0xD9] <:+ body ∧
    ∀ b ∈ padding, isPadding b

theorem Jpeg.isFramed_of_hasMarkers {data : Bytes} (h : hasMarkers data = true) :
    IsFramed data := by
  rw [hasMarkers.eq_def] at h
  split at h
  case h_2 => cases h
  case h_1 rest =>
    rw [endsReversed] at h
    split at h
    case h_2 => cases h
    case h_1 text hend =>
      -- the text is looked at from its end, where padding may follow the marker
      have hsplit := List.takeWhile_append_dropWhile (p := isPadding)
        (l := ((0xFF : UInt8) :: 0xD8 :: rest).reverse)
      rw [hend, ← List.reverse_inj, List.reverse_reverse, List.reverse_append] at hsplit
      refine ⟨⟨rest, rfl⟩, _, _, hsplit.symm, ⟨text.reverse, ?_⟩, fun b hb => ?_⟩
      · simp
      · exact List.mem_takeWhile_imp (List.mem_reverse.mp hb)

namespace Image

/-! ## Pixels -/

/-- A color space whose samples are shown. -/
inductive Space where
  /-- Shades of gray. -/
  | gray
  /-- Red, green and blue. -/
  | color
  deriving DecidableEq, Repr

namespace Space

/-- The names of a color space: the full one and the short one. -/
def names : Space → List String
  | gray => ["DeviceGray", "G"]
  | color => ["DeviceRGB", "RGB"]

/-- The number of samples of a pixel. -/
def channels : Space → Nat
  | gray => 1
  | color => 3

/-- The opaque pixel with an index, if its samples are there. -/
def pixel? (samples : Bytes) (i : Nat) : Space → Option Bytes
  | gray => do
    let level ← samples[i]?
    return [level, level, level, 255]
  | color => do
    let red ← samples[3 * i]?
    let green ← samples[3 * i + 1]?
    let blue ← samples[3 * i + 2]?
    return [red, green, blue, 255]

/-- The pixels of samples. -/
def expand (samples : Bytes) : Space → Bytes
  | gray => Samples.expandGray samples
  | color => Samples.expandRgb samples

end Space

/-- The four bytes of the pixel with an index. -/
def pixelAt (pixels : Bytes) (i : Nat) : Bytes := (pixels.drop (4 * i)).take 4

theorem pixelAt_zero {pixel : Bytes} (h : pixel.length = 4) (pixels : Bytes) :
    pixelAt (pixel ++ pixels) 0 = pixel := by
  rw [pixelAt, Nat.mul_zero, List.drop_zero, ← h, List.take_left]

/-- Pixels have four bytes each, so leaving out the first pixel moves every other down by one place.
-/
theorem pixelAt_succ {pixel : Bytes} (h : pixel.length = 4) (pixels : Bytes) (i : Nat) :
    pixelAt (pixel ++ pixels) (i + 1) = pixelAt pixels i := by
  have hindex : 4 * (i + 1) = pixel.length + 4 * i := by omega
  rw [pixelAt, hindex, List.drop_length_add_append, pixelAt]

/-- **What was expanded before stands in front**, by induction over the samples three at a time, so
the accumulator can be left out. -/
theorem expandRgbOnto_eq_append (done : Bytes) : ∀ samples : Bytes,
    Samples.expandRgbOnto done samples = done.reverse ++ Samples.expandRgb samples
  | red :: green :: blue :: samples => by
    rw [Samples.expandRgb, Samples.expandRgbOnto, Samples.expandRgbOnto,
      expandRgbOnto_eq_append _ samples, expandRgbOnto_eq_append [_, _, _, _] samples]
    simp
  | [] | [_] | [_, _] => (List.append_nil done.reverse).symm

theorem expandRgb_cons (red green blue : UInt8) (samples : Bytes) :
    Samples.expandRgb (red :: green :: blue :: samples) =
      [red, green, blue, 255] ++ Samples.expandRgb samples :=
  expandRgbOnto_eq_append [255, blue, green, red] samples

/-- The pixels of samples are in the order of the samples. -/
theorem pixelAt_expand {space : Space} {samples pixel : Bytes} {i : Nat}
    (h : space.pixel? samples i = some pixel) : pixelAt (space.expand samples) i = pixel := by
  cases space with
  | gray =>
    -- by induction over the place of the pixel, the samples in front of it dropped one pixel at a
    -- time
    induction i generalizing samples with
    | zero =>
      cases samples with
      | nil => cases h
      | cons level samples =>
        cases h
        exact pixelAt_zero rfl (Samples.expandGray samples)
    | succ i ih =>
      cases samples with
      | nil => cases h
      | cons level samples =>
        exact (pixelAt_succ rfl (Samples.expandGray samples) i).trans (ih h)
  | color =>
    rw [Space.expand]
    induction i generalizing samples with
    | zero =>
      match samples, h with
      | red :: green :: blue :: samples, rfl =>
        rw [expandRgb_cons]
        exact pixelAt_zero rfl _
    | succ i ih =>
      match samples, h with
      | red :: green :: blue :: samples, h =>
        rw [expandRgb_cons, pixelAt_succ rfl]
        exact ih h

/-- There is a pixel wherever the samples reach far enough for one. -/
theorem exists_pixel? {space : Space} {samples : Bytes} {i : Nat}
    (h : (i + 1) * space.channels ≤ samples.length) :
    ∃ pixel, space.pixel? samples i = some pixel := by
  cases space with
  | gray =>
    rw [Space.channels, Nat.mul_one] at h
    exact ⟨_, by rw [Space.pixel?, List.getElem?_eq_getElem h]; rfl⟩
  | color =>
    rw [Space.channels] at h
    rw [Space.pixel?, List.getElem?_eq_getElem (by omega), List.getElem?_eq_getElem (by omega),
      List.getElem?_eq_getElem (by omega)]
    exact ⟨_, rfl⟩

theorem length_expandGray (samples : Bytes) :
    (Samples.expandGray samples).length = samples.length * 4 := by
  induction samples with
  | nil => rfl
  | cons level samples ih =>
    rw [Samples.expandGray, List.flatMap_cons, List.length_append, ← Samples.expandGray, ih,
      List.length_cons]
    simp only [List.length_cons, List.length_nil]
    omega

theorem length_expandRgbOnto (done : Bytes) {count : Nat} {samples : Bytes}
    (h : samples.length = count * 3) :
    (Samples.expandRgbOnto done samples).length = done.length + count * 4 := by
  induction count generalizing done samples with
  | zero =>
    obtain rfl := List.length_eq_zero_iff.mp (by omega : samples.length = 0)
    rw [Samples.expandRgbOnto.eq_2 _ _ (by simp), List.length_reverse, Nat.zero_mul, Nat.add_zero]
  | succ count ih =>
    match samples with
    | [] | [_] | [_, _] => simp at h <;> omega
    | red :: green :: blue :: rest =>
      rw [Samples.expandRgbOnto, ih _ (by simp only [List.length_cons] at h; omega)]
      simp only [List.length_cons]
      omega

/-- Samples that are left over do not matter, since each pixel is looked up at its own place. -/
theorem pixel?_take {space : Space} {samples : Bytes} {count i : Nat} (hi : i < count) :
    space.pixel? (samples.take (count * space.channels)) i = space.pixel? samples i := by
  cases space with
  | gray => rw [Space.pixel?, Space.pixel?, Space.channels, List.getElem?_take_of_lt (by omega)]
  | color =>
    rw [Space.pixel?, Space.pixel?, Space.channels, List.getElem?_take_of_lt (by omega),
      List.getElem?_take_of_lt (by omega), List.getElem?_take_of_lt (by omega)]

/-- **Samples of so many pixels are expanded to four bytes for each**, whichever color space they
are in. -/
theorem length_expand {space : Space} {samples : Bytes} {count : Nat}
    (h : samples.length = count * space.channels) :
    (space.expand samples).length = count * 4 := by
  cases space with
  | gray => rw [Space.expand, length_expandGray, h, Space.channels, Nat.mul_one]
  | color =>
    rw [Space.expand, Samples.expandRgb, length_expandRgbOnto [] h, List.length_nil, Nat.zero_add]

/-- Samples that are expanded were few enough to be counted. -/
theorem lt_of_expand? {samples pixels : Bytes} {channels count : Nat}
    (h : Samples.expand? samples channels count = some pixels) :
    count * channels < Raster.sizeLimit := by
  rw [Samples.expand?] at h
  split at h
  case isTrue => cases h
  case isFalse hfits => omega

/-- Samples of just the right length are expanded by their color space. -/
theorem expand?_channels {space : Space} {samples : Bytes} {count : Nat}
    (hlength : samples.length = count * space.channels)
    (hlt : count * space.channels < Raster.sizeLimit) :
    Samples.expand? samples space.channels count = some (space.expand samples) := by
  have hfits : ¬ (Raster.sizeLimit ≤ count * space.channels ∨
      samples.length < count * space.channels) := by omega
  rw [Samples.expand?, if_neg hfits, ← hlength, List.take_length]
  cases space with
  | gray | color => rfl

/-! ## Declarations -/

variable {d : Dictionary} {data samples : Bytes} {options : RenderOptions} {raster : Raster}
  {width height : Nat}

/-- Whether the first of some keys that is present has a positive number of 32 bits. -/
def HasDimension (d : Dictionary) (keys : List String) (size : Nat) : Prop :=
  (d.getAny? keys).bind Object.integer? = some (size : Int) ∧ 0 < size ∧ size < 0x100000000

/-- Whether the color space is declared. -/
def HasSpace (d : Dictionary) (space : Space) : Prop :=
  ∃ name ∈ space.names, d.getAny? ["ColorSpace", "CS"] = some (.name name)

/-- Whether the data of an image are samples, or become samples when its filter is removed. -/
inductive HasSamples (d : Dictionary) (data : Bytes) : Bytes → Prop where
  /-- There is no filter. -/
  | plain (hfilters : filters d = []) : HasSamples d data data
  /-- The data are compressed. -/
  | inflated {samples : Bytes} (hfilters : filters d = ["FlateDecode"])
    (hinflate : Flate.inflate data = .ok samples) : HasSamples d data samples

/-- **A dimension is read exactly if the dictionary has it**, under its key or the abbreviation, as
a positive number that 32 bits hold. -/
theorem dimension_eq_ok_iff {key short : String} {size : Nat} :
    dimension d key short = .ok size ↔ HasDimension d [key, short] size := by
  rw [dimension, HasDimension]
  split
  case h_1 hnone => simp [hnone]
  case h_2 value hvalue =>
    rw [hvalue, Option.some.injEq]
    split
    case isTrue hrange =>
      rw [Except.ok.injEq]
      omega
    case isFalse hrange =>
      simp only [reduceCtorEq, false_iff]
      omega

theorem channels_of_hasSpace {space : Space} (h : HasSpace d space) :
    channels d = .ok space.channels := by
  obtain ⟨name, hname, hspace⟩ := h
  rw [channels, hspace]
  cases space with
  | gray | color =>
    simp only [Space.names, List.mem_cons, List.not_mem_nil, or_false] at hname
    obtain rfl | rfl := hname <;> rfl

/-- Only the color spaces that are known have a number of channels. -/
theorem exists_hasSpace {count : Nat} (h : channels d = .ok count) :
    ∃ space, HasSpace d space ∧ count = space.channels := by
  rw [channels] at h
  -- the two pairs of names are those of the two spaces
  split at h
  case h_1 name hspace =>
    split at h
    case isTrue hgray =>
      cases h
      exact ⟨.gray, ⟨name, by simpa [Space.names] using hgray, hspace⟩, rfl⟩
    case isFalse =>
      split at h
      case isTrue hcolor =>
        cases h
        exact ⟨.color, ⟨name, by simpa [Space.names] using hcolor, hspace⟩, rfl⟩
      case isFalse => cases h
  case h_2 | h_3 => cases h

/-! ## Samples -/

/-- How samples of a known color space are compared with the number that is wanted of them, and what
is done with enough of them. -/
theorem ofSamples_eq {space : Space} (hbits : sampleBits d = 8) (hspace : HasSpace d space) :
    ofSamples d width height samples =
      if samples.length < width * height * space.channels % Raster.sizeLimit then
        .error (.tooFewSamples samples.length width height space.channels)
      else
        (Samples.expand?
            (samples.take (width * height * space.channels % Raster.sizeLimit)) space.channels
            (width * height)).elim
          (.error (.channels space.channels)) fun pixels =>
            (Raster.rgba? width height pixels).elim (.error .pixelCount) .ok := by
  rw [ofSamples, channels_of_hasSpace hspace]
  refine (if_neg (not_not_intro hbits)).trans (ite_congr rfl (fun _ => rfl) fun _ => ?_)
  cases Samples.expand? _ space.channels (width * height) with
  | none => rfl
  | some pixels => cases hraster : Raster.rgba? width height pixels <;> simp [hraster] <;> rfl

/-- Enough samples of a known color space are shown, as a raster of the declared size with the
pixels of the image. -/
theorem ofSamples_of_hasSpace {space : Space} (hbits : sampleBits d = 8) (hspace : HasSpace d space)
    (henough : width * height * space.channels ≤ samples.length)
    (hfits : width * height * 4 < Raster.sizeLimit) :
    ofSamples d width height samples = .ok ⟨width, height,
      .rgba (space.expand (samples.take (width * height * space.channels)))⟩ := by
  have hlt : width * height * space.channels < Raster.sizeLimit := by
    refine Nat.lt_of_le_of_lt (Nat.mul_le_mul_left _ ?_) hfits
    cases space <;> decide
  have hused := List.length_take_of_le henough
  have hraster : Raster.rgba? width height (space.expand (samples.take
      (width * height * space.channels))) = some ⟨width, height, .rgba (space.expand
        (samples.take (width * height * space.channels)))⟩ :=
    if_pos ⟨hfits, length_expand hused⟩
  rw [ofSamples_eq hbits hspace, Nat.mod_eq_of_lt hlt, if_neg (Nat.not_lt.mpr henough),
    expand?_channels hused hlt, Option.elim_some, hraster, Option.elim_some]

/-- Samples that are accepted have eight bits and a known color space. -/
theorem exists_hasSpace_of_ofSamples (h : ofSamples d width height samples = .ok raster) :
    sampleBits d = 8 ∧ ∃ space, HasSpace d space := by
  rw [ofSamples] at h
  split at h
  case isTrue => cases h
  case isFalse hbits =>
    cases hchannels : channels d with
    | error e =>
      rw [hchannels] at h
      cases h
    | ok count =>
      obtain ⟨space, hspace, -⟩ := exists_hasSpace hchannels
      exact ⟨Decidable.not_not.mp hbits, space, hspace⟩

/-- What is shown of samples is shown in a known color space, and there were enough of them for it.
-/
theorem exists_space_of_ofSamples (h : ofSamples d width height samples = .ok raster) :
    ∃ space, HasSpace d space ∧ width * height * space.channels ≤ samples.length ∧
      raster = ⟨width, height,
        .rgba (space.expand (samples.take (width * height * space.channels)))⟩ := by
  obtain ⟨hbits, space, hspace⟩ := exists_hasSpace_of_ofSamples h
  rw [ofSamples_eq hbits hspace] at h
  split at h
  case isTrue => cases h
  case isFalse henough =>
    cases hexpand : Samples.expand? (samples.take (width * height * space.channels %
        Raster.sizeLimit)) space.channels (width * height) with
    | none =>
      rw [hexpand] at h
      cases h
    | some pixels =>
      rw [hexpand, Option.elim_some, Raster.rgba?] at h
      -- the count did not wrap, or expanding the samples would have failed
      have hlt := lt_of_expand? hexpand
      rw [Nat.mod_eq_of_lt hlt, Nat.not_lt] at henough
      rw [Nat.mod_eq_of_lt hlt, expand?_channels (List.length_take_of_le henough) hlt] at hexpand
      cases hexpand
      split at h
      case isTrue =>
        cases h
        exact ⟨space, hspace, henough, rfl⟩
      case isFalse => cases h

/-! ## Rasters -/

/-- Whether pixels are those of the samples of an image, in their order. -/
structure ArePixels (d : Dictionary) (data : Bytes) (count : Nat) (pixels : Bytes) : Prop where
  /-- Each has four bytes. -/
  length : pixels.length = count * 4
  /-- Samples behind the last pixel are left over. -/
  exists_samples : ∃ samples space, HasSamples d data samples ∧ HasSpace d space ∧
    ∀ i < count, space.pixel? samples i = some (pixelAt pixels i)

/-- Whether a raster is the image that a dictionary declares. -/
structure Shows (d : Dictionary) (data : Bytes) (limit : Nat) (raster : Raster) : Prop where
  /-- The width is declared. -/
  hasWidth : HasDimension d ["Width", "W"] raster.width
  /-- The height is declared. -/
  hasHeight : HasDimension d ["Height", "H"] raster.height
  /-- There are no more pixels than may be. -/
  limited : raster.width * raster.height ≤ limit
  /-- The data are passed on, or shown as pixels. -/
  content : (filters d = ["DCTDecode"] ∧ Jpeg.IsFramed data ∧ raster.data = .jpeg data) ∨
    ∃ pixels, raster.data = .rgba pixels ∧
      ArePixels d data (raster.width * raster.height) pixels

/-- Whether the samples of an image are looked at: nothing refuses it unread, and its data can be
read. -/
structure ReachesSamples (d : Dictionary) (data : Bytes) (limit width height : Nat)
    (samples : Bytes) : Prop where
  /-- The width is declared. -/
  hasWidth : HasDimension d ["Width", "W"] width
  /-- The height is declared. -/
  hasHeight : HasDimension d ["Height", "H"] height
  /-- There are no more pixels than may be. -/
  limited : width * height ≤ limit
  /-- The image is no stencil. -/
  noStencil : isStencil d = false
  /-- The data were not passed through a predictor. -/
  noPredictor : predictor? d = none
  /-- The data can be read. -/
  hasSamples : HasSamples d data samples

/-- Whether an image has what it takes to be shown as pixels. -/
structure Showable (d : Dictionary) (data : Bytes) (limit width height : Nat) (space : Space)
    (samples : Bytes) : Prop where
  /-- The width is declared. -/
  hasWidth : HasDimension d ["Width", "W"] width
  /-- The height is declared. -/
  hasHeight : HasDimension d ["Height", "H"] height
  /-- There are no more pixels than may be. -/
  limited : width * height ≤ limit
  /-- The number of bytes of the pixels fits a word. -/
  fits : width * height * 4 < Raster.sizeLimit
  /-- The image is no stencil. -/
  noStencil : isStencil d = false
  /-- The data were not passed through a predictor. -/
  noPredictor : predictor? d = none
  /-- Samples have eight bits. -/
  eightBits : sampleBits d = 8
  /-- The color space is known. -/
  hasSpace : HasSpace d space
  /-- The data can be read. -/
  hasSamples : HasSamples d data samples
  /-- There are enough samples. -/
  enough : width * height * space.channels ≤ samples.length

/-- The pixels of samples are those of the image, by induction over the samples, which the color
space takes one pixel at a time. -/
theorem arePixels_expand {space : Space} {count : Nat} (hsamples : HasSamples d data samples)
    (hspace : HasSpace d space) (henough : count * space.channels ≤ samples.length) :
    ArePixels d data count (space.expand (samples.take (count * space.channels))) := by
  refine ⟨length_expand (List.length_take_of_le henough), samples, space, hsamples, hspace,
    fun i hi => ?_⟩
  obtain ⟨pixel, hpixel⟩ := exists_pixel? (Nat.le_trans (Nat.mul_le_mul_right _ hi) henough)
  rw [pixelAt_expand ((pixel?_take hi).trans hpixel), hpixel]

/-- Where pixels are not asked for, whatever looks like a JPEG file is passed on. -/
theorem ofJpeg_eq_ok_iff (hoptions : options.decodeJpeg = false) :
    ofJpeg width height data options = .ok raster ↔
      Jpeg.hasMarkers data = true ∧ raster = .jpeg width height data := by
  rw [ofJpeg, hoptions]
  cases Jpeg.hasMarkers data with
  | false => simp
  | true => simp [eq_comm]

/-- What is decoded of an image, and how: as a JPEG file, or as the samples that its filters leave.
-/
theorem exists_of_decode (h : decode d data options = .ok raster) :
    ∃ width height, HasDimension d ["Width", "W"] width ∧ HasDimension d ["Height", "H"] height ∧
      width * height ≤ options.maxImagePixels ∧
      ((filters d = ["DCTDecode"] ∧
          ofJpeg width height data options = .ok raster) ∨
        ∃ samples, HasSamples d data samples ∧
          ofSamples d width height samples = .ok raster) := by
  rw [decode] at h
  cases hwidth : dimension d "Width" "W" with
  | error e =>
    rw [hwidth] at h
    cases h
  | ok width =>
    cases hheight : dimension d "Height" "H" with
    | error e =>
      rw [hwidth, hheight] at h
      cases h
    | ok height =>
      rw [hwidth, hheight] at h
      refine ⟨width, height, dimension_eq_ok_iff.mp hwidth, dimension_eq_ok_iff.mp hheight, ?_⟩
      -- what follows are the checks of the decoder, of which all but the three that show something
      -- fail
      simp only [bind, Except.bind, throw, throwThe, MonadExceptOf.throw] at h
      split at h
      case isTrue => cases h
      case isFalse hlimit =>
      refine ⟨Nat.not_lt.mp hlimit, ?_⟩
      split at h
      case isTrue => cases h
      case isFalse =>
      split at h
      case h_1 => cases h
      case h_2 =>
      split at h
      case h_1 hfilters => exact .inl ⟨hfilters, h⟩
      case h_2 hfilters => exact .inr ⟨data, .plain hfilters, h⟩
      case h_3 hfilters =>
        split at h
        case h_1 samples hinflate => exact .inr ⟨samples, .inflated hfilters hinflate, h⟩
        case h_2 => cases h
      case h_4 | h_5 => cases h

/-- Decoding is a matter of the samples where the filters and the sizes let it reach them. -/
theorem decode_of_reachesSamples
    (h : ReachesSamples d data options.maxImagePixels width height samples) :
    decode d data options = ofSamples d width height samples := by
  rw [decode, dimension_eq_ok_iff.mpr h.hasWidth, dimension_eq_ok_iff.mpr h.hasHeight]
  simp only [bind, Except.bind]
  rw [if_neg (Nat.not_lt.mpr h.limited), h.noStencil, h.noPredictor]
  cases h.hasSamples with
  | plain hfilters => simp [hfilters]
  | inflated hfilters hinflate => simp [hfilters, hinflate]

/-- In particular, an image that can be shown is decoded from its samples. -/
theorem decode_of_showable {space : Space}
    (h : Showable d data options.maxImagePixels width height space samples) :
    decode d data options = ofSamples d width height samples :=
  decode_of_reachesSamples
    ⟨h.hasWidth, h.hasHeight, h.limited, h.noStencil, h.noPredictor, h.hasSamples⟩

/-- **A raster is exactly the image that is declared**, and every image that has what it takes to be
shown as pixels gives one. -/
theorem decode_declared (d : Dictionary) (data : Bytes) {options : RenderOptions}
    (hoptions : options.decodeJpeg = false) :
    (∀ raster, decode d data options = .ok raster →
      Shows d data options.maxImagePixels raster) ∧
    ∀ width height space samples,
      Showable d data options.maxImagePixels width height space samples →
        ∃ raster, decode d data options = .ok raster := by
  constructor
  · intro raster h
    obtain ⟨width, height, hwidth, hheight, hlimit, hcontent⟩ := exists_of_decode h
    obtain ⟨hfilters, hjpeg⟩ | ⟨samples, hsamples, hraster⟩ := hcontent
    · rw [ofJpeg_eq_ok_iff hoptions] at hjpeg
      obtain ⟨hmarkers, rfl⟩ := hjpeg
      exact ⟨hwidth, hheight, hlimit,
        .inl ⟨hfilters, Jpeg.isFramed_of_hasMarkers hmarkers, rfl⟩⟩
    · obtain ⟨space, hspace, henough, rfl⟩ := exists_space_of_ofSamples hraster
      exact ⟨hwidth, hheight, hlimit, .inr ⟨_, rfl, arePixels_expand hsamples hspace henough⟩⟩
  · intro width height space samples h
    exact ⟨_, (decode_of_showable h).trans
      (ofSamples_of_hasSpace h.eightBits h.hasSpace h.enough h.fits)⟩

/-- Two pixels under short names, with one sample more than they need. -/
theorem decode_declared_surplus :
    let d : Dictionary := ⟨[("W", .integer 2), ("H", .integer 1), ("BPC", .integer 8),
      ("CS", .name "RGB")]⟩
    let options : RenderOptions := { decodeJpeg := false }
    Showable d [1, 2, 3, 4, 5, 6, 7] options.maxImagePixels 2 1 .color [1, 2, 3, 4, 5, 6, 7] ∧
      ∃ raster, decode d [1, 2, 3, 4, 5, 6, 7] options = .ok raster ∧
        Shows d [1, 2, 3, 4, 5, 6, 7] options.maxImagePixels raster := by
  intro d options
  have hoptions : options.decodeJpeg = false := rfl
  obtain ⟨hshows, hdecode⟩ := decode_declared d [1, 2, 3, 4, 5, 6, 7] hoptions
  have hshowable : Showable d [1, 2, 3, 4, 5, 6, 7] options.maxImagePixels 2 1 .color
      [1, 2, 3, 4, 5, 6, 7] :=
    { hasWidth := ⟨rfl, by decide, by decide⟩
      hasHeight := ⟨rfl, by decide, by decide⟩
      limited := by decide
      fits := by decide
      noStencil := rfl
      noPredictor := rfl
      eightBits := rfl
      hasSpace := ⟨"RGB", by decide, rfl⟩
      hasSamples := .plain rfl
      enough := by decide }
  obtain ⟨raster, hraster⟩ := hdecode 2 1 .color _ hshowable
  exact ⟨hshowable, raster, hraster, hshows raster hraster⟩

end Image

end PdfDisplay
