import PdfDisplay.CommandLine.Session
import PdfDisplay.Proofs.Lists

/-!
# What can be read back from printed items

The lines about the items of a page are printed one below the other, and their columns stand between
tabs (`RenderedPage.printed`). Names, families and texts come from the document and are printed as
they are, so they may hold what separates lines and columns. `RenderedPage.rows_printed_iff` says
that the printed text is read back (`CommandLine.rows`, `CommandLine.fields`) exactly if they do
not; `RenderedPage.not_rows_printed` is a page where one does.
-/

namespace PdfDisplay

/-! ## Rows and fields -/

namespace CommandLine

/-- The rows of a printed text: what stands in front of a line feed. -/
def rows (printed : String) : List String :=
  (printed.toList.splitOn '\n').dropLast.map String.ofList

/-- The fields of a row: what stands between tabs. -/
def fields (row : String) : List String := (row.toList.splitOn '\t').map String.ofList

/-- A printed text has as many rows as line feeds, since its last line is ended too. -/
theorem length_rows (printed : String) : (rows printed).length = printed.toList.count '\n' := by
  rw [rows, List.length_map, List.length_dropLast, length_splitOn, Nat.add_sub_cancel]

/-- The text of lines is the first line, a line feed, and the text of the others. -/
theorem toList_lines_cons (line : String) (lines : List String) :
    (Output.lines (line :: lines)).text.toList =
      line.toList ++ '\n' :: (Output.lines lines).text.toList := by
  simp [Output.text]

/-- **Lines stay the rows of what is printed exactly if none of them holds a line feed**, by
induction over the lines: each adds a row for itself and one for each line feed in it. -/
theorem length_rows_lines_eq_iff {lines : List String} :
    (rows (Output.lines lines).text).length = lines.length ↔
      ∀ line ∈ lines, '\n' ∉ line.toList := by
  have hcount : (Output.lines lines).text.toList.count '\n' =
      lines.length + (lines.map (·.toList.count '\n')).sum := by
    induction lines with
    | nil => rfl
    | cons line lines ih =>
      rw [toList_lines_cons, List.count_append, List.count_cons_self, ih, List.map_cons,
        List.sum_cons, List.length_cons]
      omega
  rw [length_rows, hcount, Nat.add_eq_left, List.sum_eq_zero_iff_forall_eq_nat]
  simp only [List.mem_map, forall_exists_index, and_imp, forall_apply_eq_imp_iff₂,
    List.count_eq_zero]

/-- Lines without a line feed are read back as the rows of the text. -/
theorem rows_lines {lines : List String} (h : ∀ line ∈ lines, '\n' ∉ line.toList) :
    rows (Output.lines lines).text = lines := by
  induction lines with
  | nil => rfl
  | cons line lines ih =>
    obtain ⟨hline, hlines⟩ := List.forall_mem_cons.mp h
    rw [rows, toList_lines_cons, List.splitOn_append_cons_self_of_not_mem hline,
      List.dropLast_cons_of_ne_nil (List.splitOn_ne_nil _ _), List.map_cons, String.ofList_toList]
    exact congrArg (line :: ·) (ih hlines)

/-- Lines are read back if none of them holds a line feed. -/
theorem rows_lines_eq_iff {lines : List String} :
    rows (Output.lines lines).text = lines ↔ ∀ line ∈ lines, '\n' ∉ line.toList :=
  ⟨fun h => length_rows_lines_eq_iff.mp (congrArg List.length h), rows_lines⟩

theorem tab_notMem_of_mem_fields {row field : String} (h : field ∈ fields row) :
    '\t' ∉ field.toList := by
  obtain ⟨piece, hpiece, rfl⟩ := List.mem_map.mp h
  rw [String.toList_ofList]
  exact notMem_of_mem_splitOn hpiece

/-- Columns are read back if none of them holds a tab. -/
theorem fields_tabulated_eq_iff {columns : List String} (hne : columns ≠ []) :
    fields (tabulated columns) = columns ↔ ∀ column ∈ columns, '\t' ∉ column.toList := by
  constructor
  · intro h column hcolumn
    rw [← h] at hcolumn
    exact tab_notMem_of_mem_fields hcolumn
  · intro h
    have hpieces : ∀ piece ∈ columns.map String.toList, '\t' ∉ piece := List.forall_mem_map.mpr h
    have hsplit := List.splitOn_intercalate '\t' hpieces (List.map_eq_nil_iff.not.mpr hne)
    rw [fields, tabulated, String.toList_intercalate]
    exact (congrArg (List.map String.ofList) hsplit).trans (by simp)

/-- A character other than the tab is in a row exactly if it is in one of the columns. -/
theorem mem_tabulated_iff {columns : List String} {c : Char} (hc : c ≠ '\t') :
    c ∈ (tabulated columns).toList ↔ ∃ column ∈ columns, c ∈ column.toList := by
  rw [tabulated]
  induction columns with
  | nil => simp
  | cons column columns ih =>
    by_cases hne : columns = []
    case pos => simp [hne]
    case neg =>
      rw [String.intercalate_cons_of_ne_nil hne, String.toList_append, List.mem_append, ih]
      simp [hc]

end CommandLine

/-! ## Columns without separators -/

/-- Whether a text holds neither tabs nor line feeds. -/
def IsPlain (text : String) : Prop := ∀ c ∈ text.toList, c ≠ '\t' ∧ c ≠ '\n'

instance : DecidablePred IsPlain := fun text =>
  List.decidableBAll (fun c => c ≠ '\t' ∧ c ≠ '\n') text.toList

theorem IsPlain.append {first second : String} (hfirst : IsPlain first) (hsecond : IsPlain second) :
    IsPlain (first ++ second) := by
  intro c hc
  rw [String.toList_append, List.mem_append] at hc
  exact hc.elim (hfirst c) (hsecond c)

theorem ne_separator_of_isDigit {c : Char} (h : c.isDigit = true) : c ≠ '\t' ∧ c ≠ '\n' := by
  constructor <;> rintro rfl <;> cases h

theorem isPlain_ofNat (n : Nat) : IsPlain (toString n) := by
  intro c hc
  rw [Nat.toString_eq_repr, Nat.repr_eq_ofList_toDigits, String.toList_ofList] at hc
  exact ne_separator_of_isDigit (Nat.isDigit_of_mem_toDigits (by decide) (by decide) hc)

theorem Decimal.mem_point {digits : List Char} {whole : Int} {c : Char}
    (h : c ∈ point digits whole) : c ∈ digits ∨ c = '0' ∨ c = '.' := by
  have hpadded {count : Nat} (h : c ∈ digits ++ List.replicate count '0') :
      c ∈ digits ∨ c = '0' ∨ c = '.' :=
    (List.mem_append.mp h).imp id fun h => .inl (List.eq_of_mem_replicate h)
  -- the point stands behind the padded digits, within them, or in front behind zeros
  rw [point.eq_def] at h
  split at h
  case h_1 =>
    obtain h | h := List.mem_append.mp h
    · exact hpadded (List.mem_of_mem_take h)
    · split at h
      case isTrue => cases h
      case isFalse =>
        obtain rfl | h := List.mem_cons.mp h
        · exact .inr (.inr rfl)
        · exact hpadded (List.mem_of_mem_drop h)
  case h_2 =>
    simp only [List.mem_cons] at h
    tauto
  case h_3 =>
    simp only [List.mem_cons, List.mem_append, List.mem_replicate] at h
    tauto

theorem IsPlain.signed {text : String} (h : IsPlain text) (negative : Bool) :
    IsPlain (signed negative text) := by
  rw [PdfDisplay.signed]
  split
  case isTrue => exact .append (by decide) h
  case isFalse => exact h

/-- **A number never breaks a row**: it is written in digits, a point and a sign. -/
theorem isPlain_columnText (x : Float) : IsPlain (columnText x) := by
  rw [columnText, fixedText]
  split
  case h_1 b _ =>
    refine .signed (fun c hc => ?_) _
    rw [String.toList_ofList] at hc
    obtain hc | rfl | rfl := Decimal.mem_point hc
    · refine ne_separator_of_isDigit ?_
      obtain hc | hc := List.mem_append.mp hc
      · exact List.eq_of_mem_replicate hc ▸ rfl
      · exact Nat.isDigit_of_mem_toDigits (by decide) (by decide) hc
    · decide
    · decide
  case h_2 =>
    split
    case isTrue => decide
    case isFalse => exact .signed (by decide) _

theorem isPlain_hex (color : Color) : IsPlain color.hex := by
  have hdigit (n : Nat) : Nat.digitChar n ≠ '\t' ∧ Nat.digitChar n ≠ '\n' :=
    ⟨Nat.digitChar_ne _ rfl, Nat.digitChar_ne _ rfl⟩
  intro c hc
  simp only [Color.hex, Color.hexByte, String.toList_ofList, List.cons_append, List.nil_append,
    List.mem_cons, List.not_mem_nil, or_false] at hc
  obtain rfl | rfl | rfl | rfl | rfl | rfl | rfl := hc
  · decide
  all_goals exact hdigit _

/-! ## The columns of an item -/

namespace DisplayItem

/-- The texts that an item has from the document: a name, or a family and a text. -/
def borrowed : DisplayItem → List String
  | path _ => []
  | text item => [item.family, item.text]
  | image item => [item.name]

/-- Whether a character stands in none of the texts that an item has from the document. -/
def IsFreeOf (item : DisplayItem) (c : Char) : Prop := ∀ text ∈ item.borrowed, c ∉ text.toList

theorem isPlain_bounds (b : Bounds) : ∀ column ∈ b.columns, IsPlain column :=
  List.forall_mem_map.mpr fun x _ => isPlain_columnText x

/-- What an item does not have from the document is printed without separators. -/
theorem isPlain_or_borrowed (item : DisplayItem) :
    ∀ column ∈ item.columns, IsPlain column ∨ column ∈ item.borrowed := by
  -- numbers, words and colours are plain; what is borrowed is a text or a name of the document
  cases item with
  | path item =>
    have hword : IsPlain item.mode.word := by cases item.mode <;> decide
    have hbounds : ∀ column ∈ item.bounds?.elim (List.replicate 4 "-") Bounds.columns,
        IsPlain column := by
      cases item.bounds? with
      | none => decide
      | some b => exact isPlain_bounds b
    refine fun column hcolumn => .inl ?_
    revert column
    simp only [columns, PathItem.columns, List.forall_mem_append, List.forall_mem_cons]
    exact ⟨⟨⟨by decide, hword, List.forall_mem_nil _⟩, hbounds⟩, isPlain_hex _, isPlain_hex _,
      isPlain_columnText _, List.forall_mem_nil _⟩
  | text item =>
    have hmark : ∀ column ∈ (if item.invisible then ["(invisible)"] else []), IsPlain column := by
      split <;> decide
    simp only [columns, TextItem.columns, borrowed, List.forall_mem_append, List.forall_mem_cons]
    exact ⟨⟨.inl (by decide), .inl (isPlain_columnText _), .inl (isPlain_columnText _),
      .inl (isPlain_columnText _), .inl (isPlain_columnText _), .inr (.head _),
      .inl (isPlain_hex _), .inr (.tail _ (.head _)), List.forall_mem_nil _⟩,
      fun column h => .inl (hmark column h)⟩
  | image item =>
    have hsize : IsPlain (toString item.pixelWidth ++ "x" ++ toString item.pixelHeight) :=
      .append (.append (isPlain_ofNat _) (by decide)) (isPlain_ofNat _)
    have htype : IsPlain item.raster.mediaType := by
      rw [Raster.mediaType]
      split <;> decide
    simp only [columns, ImageItem.columns, borrowed, List.forall_mem_append, List.forall_mem_cons]
    exact ⟨⟨⟨.inl (by decide), .inr (.head _), List.forall_mem_nil _⟩,
      fun column h => .inl (isPlain_bounds _ column h)⟩, .inl hsize, .inl htype,
      List.forall_mem_nil _⟩

/-- The texts that a row takes over from the page are columns of the row. -/
theorem mem_columns_of_borrowed {item : DisplayItem} :
    ∀ text ∈ item.borrowed, text ∈ item.columns := by
  cases item with
  | path item => exact nofun
  | text item => simp [borrowed, columns, TextItem.columns]
  | image item => simp [borrowed, columns, ImageItem.columns]

/-- The columns of a line hold a separator if the texts do that the item has from the document. -/
theorem columns_free_iff (number : Nat) {item : DisplayItem} {c : Char}
    (hc : c = '\t' ∨ c = '\n') :
    (∀ column ∈ toString number :: item.columns, c ∉ column.toList) ↔ item.IsFreeOf c := by
  have hplain {text : String} (h : IsPlain text) : c ∉ text.toList := fun hmem => by
    have hne := h c hmem
    tauto
  constructor
  · exact fun h text htext => h text (.tail _ (mem_columns_of_borrowed text htext))
  · intro h column hcolumn
    obtain rfl | hcolumn := List.mem_cons.mp hcolumn
    · exact hplain (isPlain_ofNat number)
    · exact (item.isPlain_or_borrowed column hcolumn).elim hplain (h column)

/-- **A row is free of line feeds exactly if the texts that it takes over are**, since all its other
columns are numbers and words of its own. -/
theorem lineFeed_notMem_line_iff {number : Nat} {item : DisplayItem} :
    '\n' ∉ (item.line number).toList ↔ item.IsFreeOf '\n' := by
  rw [← columns_free_iff number (.inr rfl), line, CommandLine.mem_tabulated_iff (by decide)]
  simp

/-- The columns of a line are read back if the texts of the item hold no tab. -/
theorem fields_line_eq_iff (number : Nat) (item : DisplayItem) :
    CommandLine.fields (item.line number) = toString number :: item.columns ↔
      item.IsFreeOf '\t' := by
  rw [← columns_free_iff number (.inl rfl), line,
    CommandLine.fields_tabulated_eq_iff (List.cons_ne_nil _ _)]

end DisplayItem

/-! ## Pages -/

namespace RenderedPage

open CommandLine

/-- What is printed about a page. -/
def printed (number : Nat) (page : RenderedPage) : String := (Output.lines (page.lines number)).text

/-- The text form of several pages is what is printed about each of them. -/
theorem text_pages (pages : List (Nat × RenderedPage)) :
    (Output.lines (pages.flatMap fun (number, page) => page.lines number)).text =
      String.join (pages.map fun (number, page) => page.printed number) := by
  induction pages with
  | nil => rfl
  | cons page pages ih =>
    rw [List.flatMap_cons, List.map_cons, String.join_cons, ← ih]
    simp only [printed, Output.text, List.map_append, String.join_append]

/-- So the rows of a page are free of them exactly if the texts of all its items are. -/
theorem lines_free_iff (number : Nat) {page : RenderedPage} :
    (∀ line ∈ page.lines number, '\n' ∉ line.toList) ↔
      ∀ item ∈ page.items, item.IsFreeOf '\n' := by
  simp only [lines, List.forall_mem_map, DisplayItem.lineFeed_notMem_line_iff]

/-- A page is printed with a row for each of its items exactly if no text of an item holds a line
feed. -/
theorem length_rows_printed_iff (number : Nat) (page : RenderedPage) :
    (rows (page.printed number)).length = page.items.length ↔
      ∀ item ∈ page.items, item.IsFreeOf '\n' := by
  rw [← lines_free_iff number, ← length_rows_lines_eq_iff, lines, List.length_map]
  rfl

/-- **What can be read back from a printed page.** There is a row for each item, in the order in
which they are painted, if no name, family or text holds a line feed. The fields of the row of a run
of text are its columns, among them its family and its text, if neither of these holds a tab. -/
theorem rows_printed_iff (number : Nat) (page : RenderedPage) :
    ((rows (page.printed number)).length = page.items.length ↔
      ∀ item ∈ page.items, item.IsFreeOf '\n') ∧
    (rows (page.printed number) = page.items.map (DisplayItem.line number) ↔
      ∀ item ∈ page.items, item.IsFreeOf '\n') ∧
    ∀ item : TextItem,
      (fields (DisplayItem.line number (.text item)) =
          [toString number, "text", columnText item.position.x, columnText item.position.y,
            columnText item.size, columnText item.rotation, item.family, item.color.hex,
            item.text] ++ (if item.invisible then ["(invisible)"] else []) ↔
        '\t' ∉ item.family.toList ∧ '\t' ∉ item.text.toList) ∧
      ((fields (DisplayItem.line number (.text item)))[6]? = some item.family ∧
          (fields (DisplayItem.line number (.text item)))[8]? = some item.text ↔
        '\t' ∉ item.family.toList ∧ '\t' ∉ item.text.toList) := by
  refine ⟨length_rows_printed_iff number page, ?_, fun item => ?_⟩
  · rw [← lines_free_iff number, ← rows_lines_eq_iff]
    rfl
  · have hfree : DisplayItem.IsFreeOf (.text item) '\t' ↔
        '\t' ∉ item.family.toList ∧ '\t' ∉ item.text.toList := by
      simp [DisplayItem.IsFreeOf, DisplayItem.borrowed]
    have hfields := DisplayItem.fields_line_eq_iff number (.text item)
    rw [← hfree]
    refine ⟨hfields, fun ⟨hfamily, htext⟩ => ?_, fun h => ?_⟩
    · rw [hfree]
      exact ⟨tab_notMem_of_mem_fields (List.mem_of_getElem? hfamily),
        tab_notMem_of_mem_fields (List.mem_of_getElem? htext)⟩
    · rw [hfields.mpr h]
      exact ⟨rfl, rfl⟩

/-- A text with a line feed is printed in two rows. -/
theorem not_rows_printed :
    ¬ ∀ (store : ObjectStore Id) (options : RenderOptions) (input : PageInput) (number : Nat),
        (rows (printed number (input.render store options).value)).length =
          (input.render store options).value.items.length := by
  intro h
  let rendered : Diagnosed RenderedPage :=
    Id.run (PageInput.render ObjectTable.empty.store {}
      ⟨100, "", Utf8.encode "BT /F 1 Tf (A\nB) Tj ET"⟩)
  have hfree := (length_rows_printed_iff 1 rendered.value).mp (h ..)
  have hborrowed : ∃ item ∈ rendered.value.items, "A\nB" ∈ item.borrowed := by decide +kernel
  obtain ⟨item, hitem, htext⟩ := hborrowed
  exact hfree item hitem "A\nB" htext (by decide)

end RenderedPage

end PdfDisplay
