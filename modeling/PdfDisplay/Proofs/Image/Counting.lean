import PdfDisplay.Proofs.Image.Pixels

/-!
# Counting samples

The decoder counts the samples that an image takes in one word of 64 bits, and compares the data
with that number. Dimensions have 32 bits each, so the number of pixels always fits a word, and the
number of gray samples with it. Three samples for each pixel may not fit, since the limit on the
number of pixels is any word: `Image.decode_counted` says exactly when they do, and that the data
are then compared with the true number. Where the number does not fit, data that are far too short
can pass for enough (`Image.not_decode_counted`), but nothing is shown of them.
-/

namespace PdfDisplay.Image

variable {d : Dictionary} {data samples : Bytes} {options : RenderOptions} {width height : Nat}
  {space : Space}

/-! ## Numbers of samples -/

/-- The pixels of an image can be counted in a word. -/
theorem pixelCount_lt (hwidth : width < 0x100000000) (hheight : height < 0x100000000) :
    width * height < Raster.sizeLimit :=
  calc width * height ≤ 0xFFFFFFFF * 0xFFFFFFFF :=
        Nat.mul_le_mul (Nat.le_of_lt_succ hwidth) (Nat.le_of_lt_succ hheight)
    _ < Raster.sizeLimit := by decide

/-- The samples of an image that has few enough pixels can still be too many to count, but only with
three channels. -/
theorem sampleCount_lt_iff (h : width * height < Raster.sizeLimit) :
    width * height * space.channels < Raster.sizeLimit ↔
      space = .gray ∨ 3 * (width * height) < Raster.sizeLimit := by
  cases space with
  | gray => simpa [Space.channels] using h
  | color => simp [Space.channels, Nat.mul_comm 3]

/-! ## Comparing -/

/-- A number of samples that fits is what the data are compared with. -/
theorem ofSamples_eq_tooFewSamples_iff (hbits : sampleBits d = 8) (hspace : HasSpace d space)
    (hfits : width * height * space.channels < Raster.sizeLimit) :
    ofSamples d width height samples =
        .error (.tooFewSamples samples.length width height space.channels) ↔
      samples.length < width * height * space.channels := by
  rw [ofSamples_eq hbits hspace, Nat.mod_eq_of_lt hfits]
  by_cases hfew : samples.length < width * height * space.channels
  · exact iff_of_true (if_pos hfew) hfew
  · refine iff_of_false (fun h => ?_) hfew
    rw [if_neg hfew, expand?_channels (List.length_take_of_le (Nat.not_lt.mp hfew)) hfits,
      Option.elim_some] at h
    cases hraster : Raster.rgba? width height _ with
    | none => rw [hraster] at h; cases h
    | some raster => rw [hraster] at h; cases h

/-- **Where the count of samples passes 64 bits, it wraps**: with fewer samples than what is left of
it the image is refused as having too few, and with as many for the number of its channels. -/
theorem ofSamples_of_overflow (hbits : sampleBits d = 8) (hspace : HasSpace d space)
    (h : Raster.sizeLimit ≤ width * height * space.channels) :
    ofSamples d width height samples =
      if samples.length < width * height * space.channels % Raster.sizeLimit then
        .error (.tooFewSamples samples.length width height space.channels)
      else .error (.channels space.channels) := by
  have hnone (used : Bytes) : Samples.expand? used space.channels (width * height) = none :=
    if_pos (.inl h)
  rw [ofSamples_eq hbits hspace, hnone, Option.elim_none]

/-! ## Images -/

/-- **When the number of samples of an image fits a word.** Take an image whose samples are looked
at. Their number fits exactly if they are gray or three for each pixel fit, which a limit on the
number of pixels can ensure. If it fits, the data are refused as too few exactly if they are fewer.
If it does not fit, nothing is shown. -/
theorem decode_counted (h : ReachesSamples d data options.maxImagePixels width height samples)
    (hbits : sampleBits d = 8) (hspace : HasSpace d space) :
    (width * height * space.channels < Raster.sizeLimit ↔
        space = .gray ∨ 3 * (width * height) < Raster.sizeLimit) ∧
      (3 * options.maxImagePixels < Raster.sizeLimit →
        width * height * space.channels < Raster.sizeLimit) ∧
      (width * height * space.channels < Raster.sizeLimit →
        (decode d data options =
            .error (.tooFewSamples samples.length width height space.channels) ↔
          samples.length < width * height * space.channels)) ∧
      (Raster.sizeLimit ≤ width * height * space.channels →
        ∀ raster, decode d data options ≠ .ok raster) := by
  have hpixels := pixelCount_lt h.hasWidth.2.2 h.hasHeight.2.2
  have hlimited := h.limited
  rw [decode_of_reachesSamples h]
  refine ⟨sampleCount_lt_iff hpixels, fun hlimit => ?_,
    ofSamples_eq_tooFewSamples_iff hbits hspace, fun hoverflow raster => ?_⟩
  · exact (sampleCount_lt_iff hpixels).mpr (.inr (by omega))
  · rw [ofSamples_of_overflow hbits hspace hoverflow]
    split <;> exact nofun

/-- An image with the given dimensions in a color space. -/
def sizedDictionary (width height : Int) (space : String) : Dictionary :=
  ⟨[("Width", .integer width), ("Height", .integer height), ("ColorSpace", .name space),
    ("BitsPerComponent", .integer 8)]⟩

/-- The options with the greatest limit on the number of pixels. -/
def unlimited : RenderOptions := { maxImagePixels := 0xFFFFFFFFFFFFFFFF }

/-- A dictionary of sizes alone reaches the samples with whatever sizes it declares, if these fit 32
bits and no limit is set. -/
theorem reachesSamples_sized {width height : Nat} {space : String} {samples : Bytes}
    (hwidth : 0 < width ∧ width < 0x100000000) (hheight : 0 < height ∧ height < 0x100000000) :
    ReachesSamples (sizedDictionary width height space) samples unlimited.maxImagePixels width
      height samples where
  hasWidth := ⟨rfl, hwidth⟩
  hasHeight := ⟨rfl, hheight⟩
  limited := Nat.le_of_lt_succ (pixelCount_lt hwidth.2 hheight.2)
  noStencil := rfl
  noPredictor := rfl
  hasSamples := .plain rfl

/-- The number of samples of the largest gray image fits. -/
theorem decode_counted_gray :
    0xFFFFFFFF * 0xFFFFFFFF * 1 < Raster.sizeLimit ∧
      decode (sizedDictionary 0xFFFFFFFF 0xFFFFFFFF "DeviceGray") [1, 2, 3] unlimited =
        .error (.tooFewSamples 3 0xFFFFFFFF 0xFFFFFFFF 1) := by
  have hreaches : ReachesSamples (sizedDictionary 0xFFFFFFFF 0xFFFFFFFF "DeviceGray") [1, 2, 3]
      unlimited.maxImagePixels 0xFFFFFFFF 0xFFFFFFFF [1, 2, 3] :=
    reachesSamples_sized (by decide) (by decide)
  have hspace : HasSpace (sizedDictionary 0xFFFFFFFF 0xFFFFFFFF "DeviceGray") .gray :=
    ⟨"DeviceGray", by decide, rfl⟩
  obtain ⟨hfits, -, hfew, -⟩ := decode_counted hreaches rfl hspace
  have hcount := hfits.mpr (.inl rfl)
  exact ⟨hcount, (hfew hcount).mpr (by decide)⟩

/-- An image that takes two words of samples and thirteen more: the thirteen that there are pass for
enough. -/
theorem not_decode_counted :
    ¬ ∀ (d : Dictionary) (data samples : Bytes) (options : RenderOptions) (width height : Nat)
        (space : Space), ReachesSamples d data options.maxImagePixels width height samples →
      sampleBits d = 8 → HasSpace d space →
        width * height * space.channels < Raster.sizeLimit ∨
          (samples.length < width * height * space.channels →
            decode d data options =
              .error (.tooFewSamples samples.length width height space.channels)) := by
  intro h
  have hreaches : ReachesSamples (sizedDictionary 2900561549 4239809835 "DeviceRGB")
      (List.replicate 13 0) unlimited.maxImagePixels 2900561549 4239809835
      (List.replicate 13 0) :=
    reachesSamples_sized (by decide) (by decide)
  have hspace : HasSpace (sizedDictionary 2900561549 4239809835 "DeviceRGB") .color :=
    ⟨"DeviceRGB", by decide, rfl⟩
  -- three times as many samples as pixels wrap to a count of which thirteen bytes are enough
  have hdecode : decode (sizedDictionary 2900561549 4239809835 "DeviceRGB") (List.replicate 13 0)
      unlimited = .error (.channels 3) :=
    (decode_of_reachesSamples hreaches).trans
      ((ofSamples_of_overflow rfl hspace (by decide)).trans (if_neg (by decide)))
  obtain hfits | hfew := h _ _ _ _ _ _ _ hreaches rfl hspace
  · revert hfits
    decide
  · have herror := hfew (by decide)
    rw [hdecode] at herror
    cases herror

end PdfDisplay.Image
