import PdfDisplay.Proofs.Image.Pixels

/-!
# Rasters of decoded JPEG files

What becomes of the data of a JPEG image where its pixels are asked for is said for every decoder:
nothing is known of one but what it answers. The raster has the size that the file states, in place
of the size that the dictionary of the image declares, and each of its pixels is made of one, three
or four samples (`Image.ofJpegPixels_eq_ok_iff`).
-/

namespace PdfDisplay.Image

variable {d : Dictionary} {data samples pixels : Bytes} {options : RenderOptions} {raster : Raster}
  {decoder : Jpeg.Decoder}

/-- How the first `count` pixels are made of samples, with so many samples for each. Four samples
are a pixel as they are; the pixels of a color space are opaque. -/
inductive Expands (samples : Bytes) (count : Nat) : (channels : Nat) → Bytes → Prop where
  /-- Pixels of a color space. -/
  | space (space : Space) :
    Expands samples count space.channels (space.expand (samples.take (count * space.channels)))
  /-- Pixels as they are. -/
  | pixels : Expands samples count 4 (samples.take (count * 4))

/-- However many samples there are for a pixel, it has four bytes. -/
theorem Expands.length {count channels : Nat} (h : Expands samples count channels pixels)
    (henough : count * channels ≤ samples.length) : pixels.length = count * 4 := by
  cases h with
  | space space => exact length_expand (List.length_take_of_le henough)
  | pixels => exact List.length_take_of_le henough

/-- **Samples are expanded exactly pixel by pixel**, opaque, if they are enough and the pixels can
be counted. -/
theorem expand?_eq_some_iff {count channels : Nat} (henough : count * channels ≤ samples.length)
    (hfits : count * 4 < Raster.sizeLimit) :
    Samples.expand? samples channels count = some pixels ↔
      Expands samples count channels pixels := by
  constructor
  · intro h
    rw [Samples.expand?] at h
    split at h
    case isTrue => cases h
    case isFalse =>
      dsimp only at h
      split at h
      case h_1 => exact Option.some.inj h ▸ .space .gray
      case h_2 => exact Option.some.inj h ▸ .space .color
      case h_3 => exact Option.some.inj h ▸ .pixels
      case h_4 => cases h
  · intro h
    -- one, three or four samples for each pixel fit a word where four bytes do
    have hle : channels ≤ 4 := by
      cases h with
      | space space => cases space <;> decide
      | pixels => exact Nat.le_refl 4
    have hlt := Nat.lt_of_le_of_lt (Nat.mul_le_mul_left count hle) hfits
    rw [Samples.expand?, if_neg (by omega)]
    cases h with
    | space space => cases space <;> rfl
    | pixels => rfl

/-- Whether a decoder makes a raster of a file. -/
structure Decodes (decoder : Jpeg.Decoder) (data : Bytes) (width height : UInt16)
    (samples pixels : Bytes) : Prop where
  /-- The header states the size. -/
  header : decoder.header data = .ok (some (width, height))
  /-- There are columns. -/
  width_ne_zero : width ≠ 0
  /-- There are rows. -/
  height_ne_zero : height ≠ 0
  /-- The file has samples. -/
  hasSamples : decoder.samples data = .ok samples
  /-- The samples are shared out among the pixels, and those left over are ignored. -/
  expands : Expands samples (width.toNat * height.toNat)
    (samples.length / (width.toNat * height.toNat)) pixels

/-- The bytes of the largest image that a header can state fit a word. -/
theorem size_lt_sizeLimit (width height : UInt16) :
    width.toNat * height.toNat * 4 < Raster.sizeLimit := by
  have hsize := Nat.mul_le_mul (Nat.le_of_lt width.toNat_lt) (Nat.le_of_lt height.toNat_lt)
  rw [Raster.sizeLimit]
  omega

/-- Samples that are shared out are enough, so the pixels fill the frame. -/
theorem rgba?_of_expands {width height : UInt16}
    (h : Expands samples (width.toNat * height.toNat)
      (samples.length / (width.toNat * height.toNat)) pixels) :
    Raster.rgba? width.toNat height.toNat pixels =
      some ⟨width.toNat, height.toNat, .rgba pixels⟩ :=
  if_pos ⟨size_lt_sizeLimit width height, h.length (Nat.mul_div_le ..)⟩

/-- **A decoded file gives the raster of its own size and pixels**, for every decoder. -/
theorem ofJpegPixels_eq_ok_iff : ofJpegPixels decoder data = .ok raster ↔
    ∃ width height samples pixels, Decodes decoder data width height samples pixels ∧
      raster = ⟨width.toNat, height.toNat, .rgba pixels⟩ := by
  have hexpand (samples pixels : Bytes) (width height : UInt16) :
      Samples.expand? samples (samples.length / (width.toNat * height.toNat))
        (width.toNat * height.toNat) = some pixels ↔ Expands samples _ _ pixels :=
    expand?_eq_some_iff (Nat.mul_div_le samples.length _) (size_lt_sizeLimit width height)
  constructor
  · intro h
    rw [ofJpegPixels] at h
    -- one branch in each of these cases is not a refusal
    split at h
    case h_1 | h_2 => cases h
    case h_3 width height hheader =>
      split at h
      case isTrue => cases h
      case isFalse hsize =>
        split at h
        case h_1 => cases h
        case h_2 samples hsamples =>
          dsimp only at h
          split at h
          case h_1 => cases h
          case h_2 pixels hpixels =>
            have hexpands := (hexpand samples pixels width height).mp hpixels
            rw [rgba?_of_expands hexpands] at h
            obtain ⟨hwidth, hheight⟩ := not_or.mp hsize
            exact ⟨width, height, samples, pixels, ⟨hheader, hwidth, hheight, hsamples, hexpands⟩,
              (Except.ok.inj h).symm⟩
  · rintro ⟨width, height, samples, pixels, h, rfl⟩
    have hsize : ¬ (width = 0 ∨ height = 0) := not_or.mpr ⟨h.width_ne_zero, h.height_ne_zero⟩
    rw [ofJpegPixels, h.header]
    dsimp only
    rw [if_neg hsize, h.hasSamples]
    dsimp only
    rw [(hexpand samples pixels width height).mpr h.expands]
    dsimp only
    rw [rgba?_of_expands h.expands]

/-- One gray sample in a file of one pixel. -/
example : ofJpegPixels ⟨fun _ => .ok (some (1, 1)), fun _ => .ok [7]⟩ [] =
    .ok ⟨1, 1, .rgba [7, 7, 7, 255]⟩ := rfl

/-- What is shown of a JPEG image whose pixels are asked for is what the decoder makes of its data.
-/
theorem exists_decodes_of_decode (hoptions : options.decodeJpeg = true)
    (hfilters : filters d = ["DCTDecode"]) (h : decode d data options = .ok raster) :
    Jpeg.IsFramed data ∧ ∃ width height samples pixels,
      Decodes options.jpegDecoder data width height samples pixels ∧
        raster = ⟨width.toNat, height.toNat, .rgba pixels⟩ := by
  obtain ⟨width, height, -, -, -, ⟨-, hjpeg⟩ | ⟨samples, hsamples, -⟩⟩ := exists_of_decode h
  · rw [ofJpeg, hoptions, if_pos rfl] at hjpeg
    split at hjpeg
    case isTrue => cases hjpeg
    case isFalse hmarkers =>
      exact ⟨Jpeg.isFramed_of_hasMarkers (by simpa using hmarkers),
        ofJpegPixels_eq_ok_iff.mp hjpeg⟩
  · cases hsamples with
    | plain hnone => cases hnone.symm.trans hfilters
    | inflated hflate => exact absurd (hflate.symm.trans hfilters) (by decide)

end PdfDisplay.Image
