import PdfDisplay.Graphics.Instruction
import PdfDisplay.Proofs.Image.Pixels
import PdfDisplay.Proofs.Number.Exact

/-!
# Lengths of inline images

The length of the data of an inline image is determined twice: by the reader of contents, from the
entries as they are written, to find where the data end, and by the decoder, from the dictionary
that the entries make, to find how many samples there are. `Image.decode_dictionaryOf` says that
both agree. An image without a filter whose data have the length that its entries declare is never
refused for its data, and where it is shown, each of its bytes is a sample of a pixel.

They may differ only where a key is given more than once, since the reader takes the first entry
under either spelling of a key and the decoder the last one under the full name
(`Image.not_decode_dictionaryOf`). `InlineImage.IsClear` excludes such entries.
-/

namespace PdfDisplay

open Operand (dictionaryOf)

namespace InlineImage

/-! ## Entries and their dictionary -/

/-- Whether the first entry under a key, in either spelling, is the one that counts in the
dictionary. -/
def Agrees (entries : List (String × Operand)) (key short : String) : Prop :=
  (dictionaryOf entries).getAny? [key, short] =
    (firstOf? [short, key] entries).map Operand.object

/-- Whether the entries leave no doubt about what they declare. -/
structure IsClear (entries : List (String × Operand)) : Prop where
  /-- The number of pixels in a row. -/
  width : Agrees entries "Width" "W"
  /-- The number of rows. -/
  height : Agrees entries "Height" "H"
  /-- The number of bits of a sample. -/
  bits : Agrees entries "BitsPerComponent" "BPC"
  /-- The color space. -/
  space : Agrees entries "ColorSpace" "CS"
  /-- The filters. -/
  filter : Agrees entries "Filter" "F"
  /-- Whether the image is a stencil. -/
  stencil : Agrees entries "ImageMask" "IM"

/-- The last entry under a key counts, in the dictionary as in the entries that it is made of. -/
theorem get?_objectEntries (key : String) (entries : List (String × Operand))
    (read : List (String × Object)) :
    Entries.get? key (Operand.objectEntries read entries) =
      (((entries.filter (·.1 = key)).getLast?).map (·.2.object)).or (Entries.get? key read) := by
  induction entries generalizing read with
  | nil => rfl
  | cons entry entries ih =>
    obtain ⟨name, value⟩ := entry
    rw [Operand.objectEntries, ih]
    by_cases hname : name = key
    · subst hname
      rw [List.filter_cons_of_pos (by simp), Entries.get?_insert_self, List.getLast?_cons]
      cases (entries.filter (·.1 = name)).getLast? <;> rfl
    · rw [List.filter_cons_of_neg (by simpa using hname), Entries.get?_insert_of_ne _ _ hname]

/-- A dictionary made of entries has under a key the object of the last entry with that key. -/
theorem get?_dictionaryOf (key : String) (entries : List (String × Operand)) :
    (dictionaryOf entries).get? key =
      ((entries.filter (·.1 = key)).getLast?).map (·.2.object) := by
  rw [Dictionary.get?, dictionaryOf, get?_objectEntries]
  exact Option.or_none

/-- What is given once is clear: the first spelling that is found is the only one, so both readers
take the same entry. -/
theorem agrees_of_once {entries : List (String × Operand)} {key short : String}
    (h : (entries.filter fun entry => [short, key].contains entry.1).length ≤ 1) :
    Agrees entries key short := by
  have hfirst : firstOf? [short, key] entries =
      (entries.filter fun entry => [short, key].contains entry.1).head?.map (·.2) := by
    rw [firstOf?, List.head?_filter]
  -- what stands under one of the two spellings is among what stands under either
  have hfilter (name : String) (hname : name ∈ [short, key]) :
      entries.filter (·.1 = name) =
        (entries.filter fun entry => [short, key].contains entry.1).filter (·.1 = name) := by
    rw [List.filter_filter]
    refine List.filter_congr fun entry _ => ?_
    by_cases heq : entry.1 = name
    · simpa [heq] using hname
    · simp [heq]
  rw [Agrees, hfirst, Dictionary.getAny?, List.findSome?_cons, List.findSome?_cons,
    get?_dictionaryOf, get?_dictionaryOf, hfilter key (by simp), hfilter short (by simp)]
  have hmem : ∀ entry ∈ entries.filter fun entry => [short, key].contains entry.1,
      entry.1 = short ∨ entry.1 = key := by
    intro entry hentry
    simpa using (List.mem_filter.mp hentry).2
  generalize (entries.filter fun entry => [short, key].contains entry.1) = given at h hmem
  -- at most one entry is left, so there is no choice in which the readers could differ
  match given with
  | [] => rfl
  | [entry] =>
    by_cases hkey : entry.1 = key
    · simp [hkey]
    · have hshort : entry.1 = short := (hmem entry List.mem_cons_self).resolve_right hkey
      simp [hshort, hshort ▸ hkey]

/-- The spellings of the keys that say how long the data are. -/
def spellings : List (List String) :=
  [["W", "Width"], ["H", "Height"], ["BPC", "BitsPerComponent"], ["CS", "ColorSpace"],
    ["F", "Filter"], ["IM", "ImageMask"]]

/-- Entries are clear if no key and no spelling of it is repeated. -/
theorem isClear_of_once {entries : List (String × Operand)}
    (h : ∀ keys ∈ spellings,
      (entries.filter fun entry => keys.contains entry.1).length ≤ 1) : IsClear entries where
  width := agrees_of_once (h _ (by decide))
  height := agrees_of_once (h _ (by decide))
  bits := agrees_of_once (h _ (by decide))
  space := agrees_of_once (h _ (by decide))
  filter := agrees_of_once (h _ (by decide))
  stencil := agrees_of_once (h _ (by decide))

/-! ## Readings of one key -/

variable {entries : List (String × Operand)} {key short : String} {n : Nat}

/-- The size that the reader of content takes from an operand is the one that the decoder takes from
the object, for positive sizes below 32 bits. -/
theorem toNat64_of_integer? {operand : Operand} {x : Float} {value : Int}
    (hnumber : operand.number? = some x) (hvalue : operand.object.integer? = some value)
    (hpos : 0 < value) (hlt : value < 0x100000000) : toNat64 x = value.toNat := by
  cases operand with
  | integer whole =>
    cases hnumber
    obtain rfl : whole = value := Option.some.inj hvalue
    obtain ⟨whole, rfl⟩ := Int.eq_ofNat_of_zero_le (Int.le_of_lt hpos)
    exact toNat64_ofInt (by omega) (by omega)
  | real y =>
    cases hnumber
    rw [Operand.object, Object.integer?] at hvalue
    split at hvalue
    case isFalse => cases hvalue
    case isTrue => exact toNat64_eq_of_toInt64 (Option.some.inj hvalue) hpos (by omega)
  | _ => cases hnumber

/-- Only an infinity is a number to the reader and none to the decoder. -/
theorem toNat64_of_integer?_eq_none {operand : Operand} {x : Float}
    (hnumber : operand.number? = some x) (hone : 1.0 ≤ x)
    (hvalue : operand.object.integer? = none) : toNat64 x = 0xFFFFFFFFFFFFFFFF := by
  cases operand with
  | integer whole => cases hvalue
  | real y =>
    cases hnumber
    rw [Operand.object, Object.integer?] at hvalue
    split at hvalue
    case isTrue => cases hvalue
    case isFalse hfinite => exact toNat64_of_not_isFinite (by simpa using hfinite) hone
  | _ => cases hnumber

/-- A size is found under the first spelling that is there, as a number of at least one. -/
theorem size?_eq_some {keys : List String} (h : size? keys entries = some n) :
    ∃ operand x, firstOf? keys entries = some operand ∧ operand.number? = some x ∧ 1.0 ≤ x ∧
      toNat64 x = n := by
  obtain ⟨operand, hfirst, h⟩ := Option.bind_eq_some_iff.mp h
  obtain ⟨x, hnumber, h⟩ := Option.bind_eq_some_iff.mp h
  split at h
  case isTrue hone => exact ⟨operand, x, hfirst, hnumber, hone, Option.some.inj h⟩
  case isFalse => cases h

/-- A dimension of the decoder is the same to the reader. -/
theorem size?_of_dimension (hagree : Agrees entries key short)
    (hsize : size? [short, key] entries = some n) {m : Nat}
    (hdimension : Image.dimension (dictionaryOf entries) key short = .ok m) : n = m := by
  obtain ⟨operand, x, hfirst, hnumber, -, rfl⟩ := size?_eq_some hsize
  rw [Image.dimension, hagree, hfirst] at hdimension
  cases hvalue : operand.object.integer? with
  | none => simp [hvalue] at hdimension
  | some value =>
    simp only [Option.map_some, Option.bind_some, hvalue] at hdimension
    split at hdimension
    case isFalse => cases hdimension
    case isTrue hrange =>
      cases hdimension
      exact toNat64_of_integer? hnumber hvalue hrange.1 hrange.2

/-- Eight bits of the decoder are eight to the reader, or without limit. -/
theorem size?_of_sampleBits (hagree : Agrees entries "BitsPerComponent" "BPC")
    (hsize : size? ["BPC", "BitsPerComponent"] entries = some n)
    (hbits : Image.sampleBits (dictionaryOf entries) = 8) : n = 8 ∨ n = 0xFFFFFFFFFFFFFFFF := by
  obtain ⟨operand, x, hfirst, hnumber, hone, rfl⟩ := size?_eq_some hsize
  rw [Image.sampleBits, hagree, hfirst] at hbits
  cases hvalue : operand.object.integer? with
  | none => exact .inr (toNat64_of_integer?_eq_none hnumber hone hvalue)
  | some value =>
    obtain rfl : value = 8 := by simpa [hvalue] using hbits
    exact .inl (toNat64_of_integer? hnumber hvalue (by decide) (by decide))

/-- Samples of a pixel that the decoder knows are the same to the reader. -/
theorem components?_of_channels (hagree : Agrees entries "ColorSpace" "CS") {operand : Operand}
    (hfirst : firstOf? ["CS", "ColorSpace"] entries = some operand)
    (hcomponents : components? operand = some n) {m : Nat}
    (hchannels : Image.channels (dictionaryOf entries) = .ok m) : n = m ∧ (m = 1 ∨ m = 3) := by
  rw [Image.channels, hagree, hfirst, Option.map_some] at hchannels
  -- only names are known to both, two of them for gray and two for color
  cases operand with
  | name space =>
    simp only [Operand.object] at hchannels
    split at hchannels
    case isTrue hgray =>
      cases hchannels
      obtain rfl | rfl := hgray <;> cases hcomponents <;> exact ⟨rfl, .inl rfl⟩
    case isFalse =>
      split at hchannels
      case isTrue hcolor =>
        cases hchannels
        obtain rfl | rfl := hcolor <;> cases hcomponents <;> exact ⟨rfl, .inr rfl⟩
      case isFalse => cases hchannels
  | _ => simp [Operand.object] at hchannels

/-- What declares no filter to the reader declares none to the decoder. -/
theorem filters_of_isFiltered (hagree : Agrees entries "Filter" "F")
    (h : isFiltered entries = false) : Image.filters (dictionaryOf entries) = [] := by
  rw [Image.filters, hagree]
  rw [isFiltered] at h
  split at h
  case h_1 hfirst => rw [hfirst]; rfl
  case h_2 hfirst => rw [hfirst]; rfl
  case h_3 hfirst => rw [hfirst]; rfl
  case h_4 => cases h

theorem product64?_eq_some {m m' : Nat} (h : product64? m m' = some n) : m * m' = n := by
  rw [product64?] at h
  split at h
  case isTrue => exact Option.some.inj h
  case isFalse => cases h

/-- What entries declare that determine a length: no filter, both dimensions, and either a mask or
the bits and the channels of a sample. -/
theorem dataLength?_eq_some (h : dataLength? entries = some n) :
    isFiltered entries = false ∧ ∃ width height,
      size? ["W", "Width"] entries = some width ∧ size? ["H", "Height"] entries = some height ∧
        (firstOf? ["IM", "ImageMask"] entries = some (.boolean true) ∨
          ∃ bits space components, size? ["BPC", "BitsPerComponent"] entries = some bits ∧
            firstOf? ["CS", "ColorSpace"] entries = some space ∧
            components? space = some components ∧
            n = (width * components * bits + 7) / 8 * height) := by
  rw [dataLength?] at h
  split at h
  case isTrue => cases h
  case isFalse hfiltered =>
    obtain ⟨width, hwidth, h⟩ := Option.bind_eq_some_iff.mp h
    obtain ⟨height, hheight, h⟩ := Option.bind_eq_some_iff.mp h
    refine ⟨by simpa using hfiltered, width, height, hwidth, hheight, ?_⟩
    dsimp only at h
    split at h
    case h_1 hstencil => exact .inl hstencil
    case h_2 =>
      obtain ⟨bits, hbits, h⟩ := Option.bind_eq_some_iff.mp h
      obtain ⟨space, hspace, h⟩ := Option.bind_eq_some_iff.mp h
      obtain ⟨components, hcomponents, h⟩ := Option.bind_eq_some_iff.mp h
      -- each of the three products was checked, so none of them wrapped
      obtain ⟨_, ⟨⟩, h⟩ := Option.bind_eq_some_iff.mp h
      obtain ⟨rowSamples, hcount, h⟩ := Option.bind_eq_some_iff.mp h
      obtain ⟨rowBits, hrow, hproduct⟩ := Option.bind_eq_some_iff.mp h
      rw [← product64?_eq_some hproduct, ← product64?_eq_some hrow, ← product64?_eq_some hcount]
      exact .inr ⟨bits, space, components, hbits, hspace, hcomponents, rfl⟩

end InlineImage

namespace Image

open InlineImage

/-! ## Decoding -/

variable {d : Dictionary} {width height : Nat} {samples : Bytes}

/-- Whether an image is refused, but not for its data. -/
def Refused (decoded : Except ImageError Raster) : Prop :=
  ∃ e, decoded = .error e ∧ e.kind ≠ .corrupt

/-- A dimension that is missing or wrong is never reported as corrupt data. -/
theorem kind_of_dimension {key short : String} {e : ImageError}
    (h : dimension d key short = .error e) : e.kind ≠ .corrupt := by
  rw [dimension] at h
  split at h
  case h_1 => cases h; rintro ⟨⟩
  case h_2 =>
    split at h
    case isTrue => cases h
    case isFalse => cases h; rintro ⟨⟩

theorem pos_of_dimension {key short : String} {size : Nat}
    (h : dimension d key short = .ok size) : 0 < size :=
  (dimension_eq_ok_iff.mp h).2.1

theorem kind_of_channels {e : ImageError} (h : channels d = .error e) : e.kind ≠ .corrupt := by
  rw [channels] at h
  split at h
  case h_1 =>
    split at h
    case isTrue => cases h
    case isFalse =>
      split at h
      case isTrue => cases h
      case isFalse => cases h; rintro ⟨⟩
  case h_2 => cases h; rintro ⟨⟩
  case h_3 => cases h; rintro ⟨⟩

/-- How data without a filter are decoded, once the dimensions are known. -/
theorem decode_of_dimensions (hfilters : filters d = [])
    (hwidth : dimension d "Width" "W" = .ok width) (hheight : dimension d "Height" "H" = .ok height)
    (data : Bytes) (options : RenderOptions) :
    decode d data options =
      if options.maxImagePixels < width * height then
        .error (.tooManyPixels (width * height) options.maxImagePixels)
      else if isStencil d then .error .stencil
      else
        (predictor? d).elim (ofSamples d width height data) fun code =>
          .error (.predictor code) := by
  rw [decode, hwidth, hheight, hfilters]
  refine ite_congr rfl (fun _ => rfl) fun _ => ite_congr rfl (fun _ => rfl) fun _ => ?_
  cases predictor? d <;> rfl

/-- Data without a filter are samples, or the image is refused unread. -/
theorem decode_of_unfiltered (hfilters : filters d = []) (data : Bytes) (options : RenderOptions) :
    Refused (decode d data options) ∨ isStencil d = false ∧ ∃ width height,
      dimension d "Width" "W" = .ok width ∧ dimension d "Height" "H" = .ok height ∧
        decode d data options = ofSamples d width height data := by
  cases hwidth : dimension d "Width" "W" with
  | error e => exact .inl ⟨e, by rw [decode, hwidth]; rfl, kind_of_dimension hwidth⟩
  | ok width =>
    cases hheight : dimension d "Height" "H" with
    | error e => exact .inl ⟨e, by rw [decode, hwidth, hheight]; rfl, kind_of_dimension hheight⟩
    | ok height =>
      have hdecode := decode_of_dimensions hfilters hwidth hheight data options
      -- in the order of the decoder: the limit, a mask, a predictor, and what is left are samples
      by_cases hpixels : options.maxImagePixels < width * height
      case pos => exact .inl ⟨_, hdecode.trans (if_pos hpixels), by rintro ⟨⟩⟩
      by_cases hstencil : isStencil d = true
      case pos =>
        exact .inl ⟨_, hdecode.trans ((if_neg hpixels).trans (if_pos hstencil)), by rintro ⟨⟩⟩
      rw [if_neg hpixels, if_neg hstencil] at hdecode
      cases hpredictor : predictor? d with
      | some code =>
        rw [hpredictor] at hdecode
        exact .inl ⟨_, hdecode, by rintro ⟨⟩⟩
      | none =>
        rw [hpredictor] at hdecode
        exact .inr ⟨by simpa using hstencil, width, height, rfl, rfl, hdecode⟩

/-- As many samples as the image needs are all shown, or the image is refused unread. -/
theorem ofSamples_of_length
    (hlength : ∀ count, sampleBits d = 8 → channels d = .ok count →
      samples.length = width * height * count ∧ (count = 1 ∨ count = 3))
    (hlt : samples.length < 2 ^ 61) :
    Refused (ofSamples d width height samples) ∨ ∃ count pixels, channels d = .ok count ∧
      samples.length = width * height * count ∧
      Samples.expand? samples count (width * height) = some pixels ∧
      ofSamples d width height samples = .ok ⟨width, height, .rgba pixels⟩ := by
  by_cases hbits : sampleBits d = 8
  case neg => exact .inl ⟨_, if_pos hbits, by rintro ⟨⟩⟩
  cases hchannels : channels d with
  | error e =>
    refine .inl ⟨e, ?_, kind_of_channels hchannels⟩
    rw [ofSamples, hchannels]
    exact if_neg (not_not_intro hbits)
  | ok count =>
    obtain ⟨hsamples, hcount⟩ := hlength count hbits hchannels
    obtain ⟨space, hspace, rfl⟩ := exists_hasSpace hchannels
    have hsmall : width * height * space.channels < Raster.sizeLimit :=
      hsamples ▸ Nat.lt_trans hlt (by decide)
    -- so few samples leave the size of the raster, four bytes for each pixel, within 64 bits
    have hpixels : width * height * 4 < Raster.sizeLimit := by
      have : width * height ≤ width * height * space.channels :=
        Nat.le_mul_of_pos_right _ (by omega)
      change _ < 2 ^ 64
      omega
    refine .inr ⟨space.channels, space.expand samples, rfl, hsamples,
      expand?_channels hsamples hsmall, ?_⟩
    rw [ofSamples_of_hasSpace hbits hspace hsamples.ge hpixels, ← hsamples, List.take_length]

/-- The length that entries declare is that of the samples which the decoder needs. -/
theorem length_of_channels {entries : List (String × Operand)} (hclear : IsClear entries)
    {length : Nat} (hlength : dataLength? entries = some length) (hlt : length < 2 ^ 61)
    (hwidth : dimension (dictionaryOf entries) "Width" "W" = .ok width)
    (hheight : dimension (dictionaryOf entries) "Height" "H" = .ok height)
    (hstencil : isStencil (dictionaryOf entries) = false) {count : Nat}
    (hbits : sampleBits (dictionaryOf entries) = 8)
    (hchannels : channels (dictionaryOf entries) = .ok count) :
    length = width * height * count ∧ (count = 1 ∨ count = 3) := by
  obtain ⟨-, rowPixels, rows, hrow, hrows, hdata⟩ := dataLength?_eq_some hlength
  obtain rfl := size?_of_dimension hclear.width hrow hwidth
  obtain rfl := size?_of_dimension hclear.height hrows hheight
  obtain hmask | ⟨bits, space, components, hdepth, hspace, hcomponents, hproduct⟩ := hdata
  · rw [isStencil, hclear.stencil, hmask] at hstencil
    cases hstencil
  · obtain ⟨rfl, hknown⟩ := components?_of_channels hclear.space hspace hcomponents hchannels
    refine ⟨?_, hknown⟩
    obtain rfl | rfl := size?_of_sampleBits hclear.bits hdepth hbits
    · have hrowBytes : (rowPixels * components * 8 + 7) / 8 = rowPixels * components := by omega
      rw [hproduct, hrowBytes, Nat.mul_right_comm]
    · -- no data are as long as samples without limit
      have hpos : 0 < rowPixels * components := Nat.mul_pos (pos_of_dimension hwidth) (by omega)
      have hlong : 2 ^ 61 ≤ (rowPixels * components * 0xFFFFFFFFFFFFFFFF + 7) / 8 := by omega
      have := Nat.le_mul_of_pos_right ((rowPixels * components * 0xFFFFFFFFFFFFFFFF + 7) / 8)
        (pos_of_dimension hheight)
      omega

/-- **The reader and the decoder agree on the length of the data.** -/
theorem decode_dictionaryOf {entries : List (String × Operand)} (hclear : IsClear entries)
    {data : Bytes} (hlength : dataLength? entries = some data.length)
    (hlt : data.length < 2 ^ 61) (options : RenderOptions) :
    Refused (decode (dictionaryOf entries) data options) ∨ ∃ width height channels pixels,
      Image.channels (dictionaryOf entries) = .ok channels ∧
      data.length = width * height * channels ∧
      Samples.expand? data channels (width * height) = some pixels ∧
      decode (dictionaryOf entries) data options = .ok ⟨width, height, .rgba pixels⟩ := by
  have hfilters := filters_of_isFiltered hclear.filter (dataLength?_eq_some hlength).1
  obtain hrefused | ⟨hstencil, width, height, hwidth, hheight, hdecode⟩ :=
    decode_of_unfiltered hfilters data options
  · exact .inl hrefused
  rw [hdecode]
  obtain hrefused | ⟨count, pixels, hchannels, hsamples, hexpand, hok⟩ :=
    ofSamples_of_length (fun _ => length_of_channels hclear hlength hlt hwidth hheight hstencil) hlt
  · exact .inl hrefused
  · exact .inr ⟨width, height, count, pixels, hchannels, hsamples, hexpand, hok⟩

/-- One gray sample. -/
theorem decode_dictionaryOf_gray :
    ∃ width height channels pixels, 1 = width * height * channels ∧
      Samples.expand? [97] channels (width * height) = some pixels ∧
      decode (dictionaryOf [("W", .integer 1), ("Height", .integer 1), ("BPC", .integer 8),
        ("CS", .name "G")]) [97] {} = .ok ⟨width, height, .rgba pixels⟩ := by
  have hclear : IsClear [("W", .integer 1), ("Height", .integer 1), ("BPC", .integer 8),
      ("CS", .name "G")] := isClear_of_once (by decide)
  have hlength : dataLength? [("W", .integer 1), ("Height", .integer 1), ("BPC", .integer 8),
      ("CS", .name "G")] = some ([97] : Bytes).length := by decide +kernel
  have hshown : decode (dictionaryOf [("W", .integer 1), ("Height", .integer 1),
      ("BPC", .integer 8), ("CS", .name "G")]) [97] {} = .ok ⟨1, 1, .rgba [97, 97, 97, 255]⟩ := by
    rfl
  obtain ⟨e, herror, -⟩ | ⟨width, height, channels, pixels, -, hlength, hexpand, hok⟩ :=
    decode_dictionaryOf hclear hlength (by decide) {}
  · rw [hshown] at herror
    cases herror
  · exact ⟨width, height, channels, pixels, hlength, hexpand, hok⟩

/-- A width that is given in both spellings: the reader takes one byte, the decoder needs two. -/
theorem not_decode_dictionaryOf :
    ¬ ∀ (entries : List (String × Operand)) (data : Bytes) (options : RenderOptions),
        dataLength? entries = some data.length →
          Refused (decode (dictionaryOf entries) data options) ∨
            ∃ width height channels pixels, data.length = width * height * channels ∧
              decode (dictionaryOf entries) data options = .ok ⟨width, height, .rgba pixels⟩ := by
  intro h
  have hdecode : decode (dictionaryOf [("W", .integer 1), ("Width", .integer 2),
      ("H", .integer 1), ("BPC", .integer 8), ("CS", .name "G")]) [97] {} =
        .error (.tooFewSamples 1 2 1 1) := by
    rfl
  obtain ⟨e, herror, hkind⟩ | ⟨_, _, _, _, -, hok⟩ := h [("W", .integer 1), ("Width", .integer 2),
    ("H", .integer 1), ("BPC", .integer 8), ("CS", .name "G")] [97] {} (by decide +kernel)
  · rw [hdecode] at herror
    cases herror
    exact hkind rfl
  · rw [hdecode] at hok
    cases hok

end Image

end PdfDisplay
