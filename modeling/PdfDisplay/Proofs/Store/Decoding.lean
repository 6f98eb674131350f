import PdfDisplay.Image.Basic
import PdfDisplay.Proofs.Object.Reading
import PdfDisplay.Store.Basic

/-!
# What decoded streams are

An object table hands out the data of a stream with their filters removed. Where a dictionary
declares nothing but names as filters, and no predictor in an array, the table answers exactly
for the streams that `StoredObject.Decodes` describes, and with the data it describes
(`ObjectTable.decoded_eq_ok_iff`): data that went through no filter are handed out as they are,
and data that went through `FlateDecode` alone, without a predictor, are decompressed. All others
are refused.

The two conditions cannot be left out. A filter that is no name counts as none, so that data behind
a filter which is declared by a reference are handed out compressed; and a predictor counts only in
a dictionary, while images know it in an array too (`ObjectTable.not_decoded`).
-/

namespace PdfDisplay

namespace StoredObject

/-! ## Declarations -/

/-- Whether a dictionary declares that the data went through no filter. -/
def DeclaresNone (d : Dictionary) : Prop :=
  d.get? "Filter" = none ∨ d.get? "Filter" = some .null ∨ d.get? "Filter" = some (.array [])

/-- Whether a dictionary declares that the data went through `FlateDecode` alone. -/
def DeclaresFlate (d : Dictionary) : Prop :=
  ∃ name ∈ ["FlateDecode", "Fl"],
    d.get? "Filter" = some (.name name) ∨ d.get? "Filter" = some (.array [.name name])

/-- Whether the decoding parameters ask for a predictor, in one of the forms that images know. -/
def AsksPredictor (d : Dictionary) : Prop :=
  ∃ value parameters, d.get? "DecodeParms" = some value ∧
    Image.firstParameters? value = some parameters ∧ predicts parameters

/-- What the data behind a dictionary are with their filters removed. -/
inductive Decodes (d : Dictionary) (data : Bytes) : Bytes → Prop where
  /-- The data as they are. -/
  | plain (h : DeclaresNone d) : Decodes d data data
  /-- Compressed data. -/
  | inflated {bytes : Bytes} (h : DeclaresFlate d) (hplain : ¬ AsksPredictor d)
    (hinflate : Flate.inflate data = .ok bytes) : Decodes d data bytes

/-- Whether a dictionary declares its filters by names, and no predictor in an array. -/
structure IsPlain (d : Dictionary) : Prop where
  /-- The filters are absent, null, a name or names. -/
  filter : d.get? "Filter" = none ∨ d.get? "Filter" = some .null ∨
    (∃ name, d.get? "Filter" = some (.name name)) ∨
    ∃ names : List String, d.get? "Filter" = some (.array (names.map .name))
  /-- An array of parameters does not begin with some that ask for a predictor. -/
  parameters : ∀ parameters rest,
    d.get? "DecodeParms" = some (.array (.dictionary parameters :: rest)) → ¬ predicts ⟨parameters⟩

end StoredObject

/-! ## Names of filters -/

namespace Filter

/-- Two names stand for the one filter that is decoded, the long one and its abbreviation. -/
theorem canonical_eq_flate_iff (name : String) :
    canonical name = "FlateDecode" ↔ name ∈ ["FlateDecode", "Fl"] := by
  rw [List.mem_cons, List.mem_singleton]
  constructor
  · intro h
    rw [canonical.eq_def] at h
    split at h
    case h_1 => exact .inr rfl
    case h_8 => exact .inl h
    all_goals exact absurd h (by decide)
  · rintro (rfl | rfl) <;> rfl

/-- The filters that an array of names declares, in their order and by their long names. -/
theorem names_array (items : List String) :
    names (some (.array (items.map .name))) = items.map canonical := by
  have hname : Object.name? ∘ Object.name = some := rfl
  rw [names, List.filterMap_map, hname, List.filterMap_some]

end Filter

namespace StoredObject

variable {d : Dictionary} {data bytes : Bytes}

/-- No filters are named exactly if none is declared: the entry is absent, null or an empty array.
-/
theorem names_eq_nil_iff (hd : IsPlain d) :
    Filter.names (d.get? "Filter") = [] ↔ DeclaresNone d := by
  rw [DeclaresNone]
  obtain h | h | ⟨name, h⟩ | ⟨names, h⟩ := hd.filter
  · simp [h, Filter.names]
  · simp [h, Filter.names]
  · simp [h, Filter.names]
  · simp [h, Filter.names_array]

/-- The filter alone is named exactly if it is declared alone, be it as a name or as an array of
one. -/
theorem names_eq_flate_iff (hd : IsPlain d) :
    Filter.names (d.get? "Filter") = ["FlateDecode"] ↔ DeclaresFlate d := by
  rw [DeclaresFlate]
  obtain h | h | ⟨name, h⟩ | ⟨names, h⟩ := hd.filter
  · simp [h, Filter.names]
  · simp [h, Filter.names]
  · simp [h, Filter.names, Filter.canonical_eq_flate_iff]
  · have hitems (name : String) : names.map Object.name = [.name name] ↔ names = [name] := by
      rw [List.map_eq_singleton_iff]
      simp
    simp only [h, Filter.names_array, List.map_eq_singleton_iff, Filter.canonical_eq_flate_iff,
      Option.some.injEq, Object.array.injEq, hitems, reduceCtorEq, false_or]
    exact exists_congr fun name => and_comm

/-! ## Decoding -/

/-- When data are decoded, by the names of the filters and a predictor in a dictionary. -/
theorem decodeData_eq_ok_iff (target : ObjectRef) (d : Dictionary) (data bytes : Bytes) :
    decodeData target d data = .ok bytes ↔
      Filter.names (d.get? "Filter") = [] ∧ data = bytes ∨
        Filter.names (d.get? "Filter") = ["FlateDecode"] ∧
          (∀ parameters, d.dictionary? "DecodeParms" = some parameters → ¬ predicts parameters) ∧
          Flate.inflate data = .ok bytes := by
  rw [decodeData.eq_def]
  split
  case h_1 hnames => simp [hnames]
  case h_2 hnames =>
    rw [hnames]
    cases hparameters : d.dictionary? "DecodeParms" with
    | none => cases hinflate : Flate.inflate data <;> simp
    | some parameters =>
      cases hpredicts : predicts parameters <;> cases hinflate : Flate.inflate data <;>
        simp [hpredicts]
  case h_3 hnil hflate =>
    refine iff_of_false nofun ?_
    rintro (⟨hnames, -⟩ | ⟨hnames, -⟩)
    · exact hnil hnames
    · exact hflate hnames

/-- Where no array of parameters asks for a predictor, the dictionary alone says it. -/
theorem asksPredictor_iff (hd : IsPlain d) :
    AsksPredictor d ↔
      ∃ parameters, d.dictionary? "DecodeParms" = some parameters ∧ predicts parameters := by
  constructor
  · rintro ⟨value, parameters, hvalue, hfirst, hpredicts⟩
    refine ⟨parameters, ?_, hpredicts⟩
    rw [Image.firstParameters?.eq_def] at hfirst
    split at hfirst
    case h_1 entries =>
      rw [Dictionary.dictionary?, hvalue]
      exact hfirst
    case h_2 items =>
      -- the first item of an array would be a dictionary that asks for one
      obtain ⟨first, hitems, hfirst⟩ := Option.bind_eq_some_iff.mp hfirst
      obtain ⟨rest, rfl⟩ := List.head?_eq_some_iff.mp hitems
      cases first with
      | dictionary entries =>
        cases hfirst
        exact absurd hpredicts (hd.parameters entries rest hvalue)
      | _ => cases hfirst
    case h_3 => cases hfirst
  · rintro ⟨parameters, hdictionary, hpredicts⟩
    obtain ⟨value, hvalue, hdictionary⟩ := Option.bind_eq_some_iff.mp hdictionary
    cases value with
    | dictionary entries =>
      cases hdictionary
      exact ⟨_, _, hvalue, rfl, hpredicts⟩
    | _ => cases hdictionary

/-- **Data are decoded as declared**: the cases of the declaration are those of the decoder, for
dictionaries that declare no parameters of other kinds. -/
theorem decodes_iff_decodeData (target : ObjectRef) (hd : IsPlain d) :
    decodeData target d data = .ok bytes ↔ Decodes d data bytes := by
  rw [decodeData_eq_ok_iff, names_eq_nil_iff hd, names_eq_flate_iff hd]
  have hplain : (∀ parameters, d.dictionary? "DecodeParms" = some parameters →
      ¬ predicts parameters) ↔ ¬ AsksPredictor d := by
    rw [asksPredictor_iff hd, not_exists]
    exact forall_congr' fun parameters => not_and.symm
  rw [hplain]
  constructor
  · rintro (⟨h, rfl⟩ | ⟨h, hplain, hinflate⟩)
    · exact .plain h
    · exact .inflated h hplain hinflate
  · rintro (h | ⟨h, hplain, hinflate⟩)
    · exact .inl ⟨h, rfl⟩
    · exact .inr ⟨h, hplain, hinflate⟩

end StoredObject

namespace ObjectTable

open StoredObject
open Lexeme (Scans)

/-- A stored object is found in the table it was put into. -/
theorem objects_insert_self (table : ObjectTable) (target : ObjectRef) (stored : StoredObject) :
    (table.insert target stored).objects[target]? = some stored :=
  Std.HashMap.getElem?_insert_self

/-- **The table hands out data with their filters removed, or none.** It answers exactly for the
streams whose data went through no filter or through `FlateDecode` alone, and without a predictor,
if filters are declared by names and no predictor in an array. -/
theorem decoded_eq_ok_iff {table : ObjectTable} {target : ObjectRef}
    (h : ∀ stored, table.objects[target]? = some stored → IsPlain stored.dictionary)
    (bytes : Bytes) :
    table.decoded target = .ok bytes ↔
      ∃ stored data, table.objects[target]? = some stored ∧ stored.data? = some data ∧
        Decodes stored.dictionary data bytes := by
  rw [decoded, find]
  cases hstored : table.objects[target]? with
  | none => simp [bind, Except.bind]
  | some stored =>
    cases hdata : stored.data? with
    | none => simp [bind, Except.bind, hdata, throw, throwThe, MonadExceptOf.throw]
    | some data =>
      have hdecodes : decodeData target stored.dictionary data = .ok bytes ↔ _ :=
        decodes_iff_decodeData target (h stored hstored)
      simpa [bind, Except.bind, hdata] using hdecodes

/-- A stream behind `/Fl` alone is handed out decompressed, the abbreviation being as good as the
name. -/
theorem decoded_eq_ok_iff_flate :
    (empty.insert ⟨1, 0⟩ ⟨"<< /Filter /Fl >>",
      some [120, 1, 1, 1, 0, 254, 255, 65, 0, 66, 0, 66]⟩).decoded ⟨1, 0⟩ = .ok [65] := by
  let stored : StoredObject :=
    ⟨"<< /Filter /Fl >>", some [120, 1, 1, 1, 0, 254, 255, 65, 0, 66, 0, 66]⟩
  have hscans : Scans (Utf8.encode stored.text)
      [.dictionaryStart, .name "Filter", .name "Fl", .dictionaryEnd] [] := by decide +kernel
  have hdictionary : stored.dictionary = ⟨[("Filter", .name "Fl")]⟩ := by
    rw [StoredObject.dictionary, Dictionary.parse?_of_scans_nil hscans rfl]
    rfl
  refine (decoded_eq_ok_iff (fun other hother => ?_) [65]).mpr
    ⟨stored, _, objects_insert_self _ _ _, rfl, ?_⟩
  · rw [objects_insert_self, Option.some.injEq] at hother
    rw [← hother, hdictionary]
    refine ⟨.inr (.inr (.inl ⟨"Fl", rfl⟩)), fun _ _ hparameters => ?_⟩
    cases hparameters
  · rw [hdictionary]
    exact .inflated ⟨"Fl", by decide, .inl rfl⟩ (by rintro ⟨_, _, ⟨⟩, _⟩) rfl

/-- A predictor in an array is passed over, and the data are handed out with it. -/
theorem not_decoded :
    ¬ ∀ (table : ObjectTable) (target : ObjectRef) (bytes : Bytes),
        table.decoded target = .ok bytes →
          ∃ stored data, table.objects[target]? = some stored ∧ stored.data? = some data ∧
            Decodes stored.dictionary data bytes := by
  intro h
  -- the predictor stands in an array, where the store does not look for it
  let stored : StoredObject :=
    ⟨"<< /Filter /FlateDecode /DecodeParms [<< /Predictor 12 /Columns 4 >>] >>",
      some [120, 1, 1, 5, 0, 250, 255, 2, 1, 1, 1, 1, 0, 25, 0, 7]⟩
  have hscans : Scans (Utf8.encode stored.text)
      [.dictionaryStart, .name "Filter", .name "FlateDecode", .name "DecodeParms", .arrayStart,
        .dictionaryStart, .name "Predictor", .integer 12, .name "Columns", .integer 4,
        .dictionaryEnd, .arrayEnd, .dictionaryEnd] [] := by
    decide +kernel
  have hdictionary : stored.dictionary =
      ⟨[("Filter", .name "FlateDecode"), ("DecodeParms",
        .array [.dictionary [("Predictor", .integer 12), ("Columns", .integer 4)]])]⟩ := by
    rw [StoredObject.dictionary, Dictionary.parse?_of_scans_nil hscans rfl]
    rfl
  have hdecoded : (empty.insert ⟨1, 0⟩ stored).decoded ⟨1, 0⟩ = .ok [2, 1, 1, 1, 1] := by
    rw [decoded, find, objects_insert_self]
    change decodeData _ stored.dictionary _ = _
    rw [hdictionary]
    rfl
  obtain ⟨found, data, hfound, -, hdecodes⟩ := h _ _ _ hdecoded
  rw [objects_insert_self, Option.some.injEq] at hfound
  rw [← hfound, hdictionary] at hdecodes
  cases hdecodes with
  | plain hnone => simp [DeclaresNone, Dictionary.get?, Entries.get?] at hnone
  | inflated _ hplain _ => exact hplain ⟨_, _, rfl, rfl, by decide⟩

end ObjectTable

end PdfDisplay
