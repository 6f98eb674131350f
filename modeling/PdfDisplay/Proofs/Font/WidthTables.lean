import Mathlib.Data.List.Forall2
import PdfDisplay.WidthTable

/-!
# Lists of declared widths

A composite font declares widths in a list of entries of two forms (`WidthEntry`). A list makes a
table exactly if it is divided into entries (`WidthTable.exists_ofComposite_iff`). The table then
gives a code the width that the last of the entries with widths of single codes gives it, or else
that of the last range that the code lies in (`WidthTable.ofComposite_of_declares`).

A simple font declares a first code and an array with one width per code from it on
(`WidthTable.ofSimple_of_numbers`). The array makes a table exactly if it holds numbers only and
ends at the greatest code or in front of it (`WidthTable.exists_ofSimple_iff`).
-/

namespace PdfDisplay

/-- An entry of the list in which a composite font declares widths. -/
inductive WidthEntry where
  /-- Widths of single codes, one after another. -/
  | list (first : Nat) (widths : List Float)
  /-- One width for a range of codes. -/
  | range (range : WidthRange)
  deriving DecidableEq, Repr

namespace WidthEntry

/-- The width that an entry gives a code as a single one. -/
def listWidth? (code : Nat) : WidthEntry → Option Float
  | list first widths => if first ≤ code then widths[code - first]? else none
  | range _ => none

/-- The width that an entry gives a code in a range. -/
def rangeWidth? (code : Nat) : WidthEntry → Option Float
  | list _ _ => none
  | range r => if r.first ≤ code ∧ code ≤ r.last then some r.width else none

/-- The width that the last list of widths with a code gives it, or else the last range. -/
def lastWidth? (entries : List WidthEntry) (code : Nat) : Option Float :=
  (entries.reverse.findSome? (listWidth? code)).or (entries.reverse.findSome? (rangeWidth? code))

end WidthEntry

namespace WidthTable

/-- Whether an object is a number that, without its fraction, is a code. -/
def IsCode (object : Object) (code : Nat) : Prop :=
  object.integer? = some (code : Int) ∧ code ≤ maxCode

instance (object : Object) (code : Nat) : Decidable (IsCode object code) :=
  inferInstanceAs (Decidable (_ ∧ _))

/-- Whether objects are the numbers with some values. -/
abbrev AreNumbers : List Object → List Float → Prop :=
  List.Forall₂ fun object value => object.number? = some value

/-- Whether a list is divided into entries. -/
inductive Declares : List Object → List WidthEntry → Prop where
  /-- An empty list. -/
  | nil : Declares [] []
  /-- Widths of single codes, of which there may be none. -/
  | list {code : Object} {first : Nat} {items rest : List Object} {widths : List Float}
    {entries : List WidthEntry} (hcode : IsCode code first) (hwidths : AreNumbers items widths)
    (hlast : first + widths.length ≤ maxCode + 1) (hrest : Declares rest entries) :
    Declares (code :: .array items :: rest) (.list first widths :: entries)
  /-- A range and its width. -/
  | range {first last width : Object} {r : WidthRange} {rest : List Object}
    {entries : List WidthEntry} (hfirst : IsCode first r.first) (hlast : IsCode last r.last)
    (hle : r.first ≤ r.last) (hwidth : width.number? = some r.width)
    (hrest : Declares rest entries) :
    Declares (first :: last :: width :: rest) (.range r :: entries)

variable {table table' : WidthTable} {object last : Object} {items : List Object}
  {entries : List WidthEntry} {code first : Nat}

/-! ## Reading entries -/

/-- An object is read as a code exactly if it is a number whose whole part is one. -/
theorem codeOf_eq_ok_iff : codeOf object = .ok code ↔ IsCode object code := by
  rw [codeOf, IsCode]
  cases object.integer? with
  | none => simp
  | some value =>
    dsimp only
    split
    case isTrue h =>
      rw [Except.ok.injEq, Option.some.injEq]
      omega
    case isFalse h =>
      simp only [reduceCtorEq, Option.some.injEq, false_iff]
      omega

/-- A code is no array, which is how the two forms of entries are told apart. -/
theorem IsCode.ne_array (h : IsCode object code) : object ≠ .array items := by
  rintro rfl
  cases h.1

/-- The table with widths for single codes, one after another. -/
def addWidths (table : WidthTable) (code : Nat) : List Float → WidthTable
  | [] => table
  | width :: widths => addWidths (table.addSingle code width) (code + 1) widths

section

variable {notNumber overflow : WidthError}

/-- **A list of numbers sets one width to each code from its first on**, if the last of these codes
is one. -/
theorem addList_of_numbers {widths : List Float} (hwidths : AreNumbers items widths)
    (hlast : widths ≠ [] → code + widths.length ≤ maxCode + 1) :
    addList notNumber overflow table code items = .ok (table.addWidths code widths) := by
  induction hwidths generalizing table code with
  | nil => rfl
  | @cons item width items widths hitem hitems ih =>
    have hcode := hlast (List.cons_ne_nil width widths)
    rw [List.length_cons] at hcode
    simp only [addList, hitem]
    rw [if_neg (by omega), ih fun _ => by omega]
    rfl

/-- Conversely, a list that is accepted consists of numbers, ends within the codes, and sets nothing
else. -/
theorem exists_numbers_of_addList
    (h : addList notNumber overflow table code items = .ok table') :
    ∃ widths, AreNumbers items widths ∧ (widths ≠ [] → code + widths.length ≤ maxCode + 1) ∧
      table' = table.addWidths code widths := by
  fun_induction addList notNumber overflow table code items with
  | case1 table code =>
    cases h
    exact ⟨[], .nil, nofun, rfl⟩
  | case2 | case3 => cases h
  | case4 table code item items width hitem hcode ih =>
    obtain ⟨widths, hwidths, hlast, rfl⟩ := ih h
    -- the bound of the last code is the reader's own check at the last width
    refine ⟨width :: widths, .cons hitem hwidths, fun _ => ?_, rfl⟩
    rw [List.length_cons]
    cases widths with
    | nil => simp only [List.length_nil]; omega
    | cons =>
      have hlast := hlast (List.cons_ne_nil _ _)
      omega

end

/-- A range is accepted exactly if its bounds are codes in order and its width is a number. -/
theorem rangeOf_eq_ok_iff {width? : Option Object} {r : WidthRange} :
    rangeOf first last width? = .ok r ↔ r.first = first ∧ IsCode last r.last ∧
      r.first ≤ r.last ∧ width?.bind Object.number? = some r.width := by
  rw [rangeOf]
  cases hlast : codeOf last with
  | error e =>
    refine iff_of_false nofun fun ⟨_, hcode, _⟩ => ?_
    rw [codeOf_eq_ok_iff.mpr hcode] at hlast
    cases hlast
  | ok code =>
    have hcode : IsCode last r.last ↔ code = r.last := by
      rw [← codeOf_eq_ok_iff, hlast, Except.ok.injEq]
    rw [hcode]
    cases hwidth : width?.bind Object.number? with
    | none => exact iff_of_false nofun fun ⟨_, _, _, hsome⟩ => nomatch hsome
    | some width =>
      simp only [bind, Except.bind, pure, Except.pure]
      -- bounds out of order are the only numbers that are refused
      split
      case isTrue hless =>
        refine iff_of_false nofun ?_
        rintro ⟨rfl, rfl, hle, -⟩
        omega
      case isFalse hle =>
        rw [Except.ok.injEq, Option.some.injEq]
        constructor
        · rintro rfl
          exact ⟨rfl, rfl, by dsimp only; omega, rfl⟩
        · rintro ⟨rfl, rfl, -, rfl⟩
          rfl

/-- The table with the widths of an entry. -/
def addEntry (table : WidthTable) : WidthEntry → WidthTable
  | .list first widths => table.addWidths first widths
  | .range r => table.addRange r

/-- **What the objects declare is entered**, entry by entry, by induction on how they make up the
entries. -/
theorem addEntries_of_declares (h : Declares items entries) (table : WidthTable) :
    addEntries table items = .ok (entries.foldl addEntry table) := by
  induction h generalizing table with
  | nil => rfl
  | list hcode hwidths hlast _ ih =>
    simp only [addEntries, codeOf_eq_ok_iff.mpr hcode,
      addList_of_numbers hwidths fun _ => hlast, ih]
    rfl
  | @range _ last width r _ _ hfirst hlast hle hwidth _ ih =>
    have hrange : rangeOf r.first last (some width) = .ok r :=
      rangeOf_eq_ok_iff.mpr ⟨rfl, hlast, hle, hwidth⟩
    rw [addEntries, codeOf_eq_ok_iff.mpr hfirst]
    · simp only [hrange, ih]
      rfl
    · exact fun widths => hlast.ne_array

/-- What is entered was declared: objects that are accepted make up entries, and these are what the
table has more. -/
theorem exists_declares_of_addEntries (h : addEntries table items = .ok table') :
    ∃ entries, Declares items entries ∧ table' = entries.foldl addEntry table := by
  -- along the reader: of its cases, three succeed, namely the end, a list and a range
  fun_induction addEntries table items with
  | case1 table =>
    cases h
    exact ⟨[], .nil, rfl⟩
  | case6 table code items rest first hcode table hlist ih =>
    obtain ⟨entries, hentries, rfl⟩ := ih h
    obtain ⟨widths, hwidths, hlast, rfl⟩ := exists_numbers_of_addList hlist
    have hcode := codeOf_eq_ok_iff.mp hcode
    refine ⟨.list first widths :: entries, .list hcode hwidths ?_ hentries, rfl⟩
    cases widths with
    | nil => exact Nat.le_succ_of_le hcode.2
    | cons => exact hlast (List.cons_ne_nil _ _)
  | case9 table code last hsingle first hcode r hrange =>
    cases (rangeOf_eq_ok_iff.mp hrange).2.2.2
  | case12 table code last width rest hsingle first hcode r hrange ih =>
    obtain ⟨entries, hentries, rfl⟩ := ih h
    obtain ⟨rfl, hlast, hle, hwidth⟩ := rangeOf_eq_ok_iff.mp hrange
    exact ⟨.range r :: entries, .range (codeOf_eq_ok_iff.mp hcode) hlast hle hwidth hentries, rfl⟩
  | _ => cases h

/-! ## Widths of codes -/

theorem ranges_addWidths (table : WidthTable) (first : Nat) (widths : List Float) :
    (table.addWidths first widths).ranges = table.ranges := by
  induction widths generalizing table first with
  | nil => rfl
  | cons width widths ih => exact ih _ _

theorem default_addWidths (table : WidthTable) (first : Nat) (widths : List Float) :
    (table.addWidths first widths).default = table.default := by
  induction widths generalizing table first with
  | nil => rfl
  | cons width widths ih => exact ih _ _

/-- **A list of widths covers the codes it reaches and leaves the others as they were**, by
induction over the list. -/
theorem getElem?_singles_addWidths (table : WidthTable) (first : Nat) (widths : List Float)
    (code : Nat) :
    (table.addWidths first widths).singles[code]? =
      ((WidthEntry.list first widths).listWidth? code).or table.singles[code]? := by
  induction widths generalizing table first with
  | nil => simp [addWidths, WidthEntry.listWidth?]
  | cons width widths ih =>
    rw [addWidths, ih, addSingle, Std.HashMap.getElem?_insert]
    simp only [WidthEntry.listWidth?]
    -- a code in front of the list, at its first width, or behind that
    obtain hless | rfl | hgreater := Nat.lt_trichotomy code first
    · simp [Nat.not_le.mpr hless, Nat.not_le.mpr (Nat.lt_succ_of_lt hless), Nat.ne_of_gt hless]
    · rw [if_neg (Nat.not_succ_le_self code)]
      simp
    · obtain ⟨n, rfl⟩ := Nat.exists_eq_add_of_lt hgreater
      have hnext : first + n + 1 - (first + 1) = n := by omega
      have hfirst : first + n + 1 - first = n + 1 := by omega
      simp [hnext, hfirst, show first ≤ first + n + 1 by omega,
        show first ≠ first + n + 1 by omega]

/-- The width of the first of some ranges that a code lies in. -/
def widthIn? (ranges : List WidthRange) (code : Nat) : Option Float :=
  (ranges.find? fun range => range.first ≤ code && code ≤ range.last).map (·.width)

/-- Of the ranges that hold a code the first one in the list counts. -/
theorem widthIn?_cons (r : WidthRange) (ranges : List WidthRange) (code : Nat) :
    widthIn? (r :: ranges) code =
      ((WidthEntry.range r).rangeWidth? code).or (widthIn? ranges code) := by
  rw [widthIn?, List.find?_cons, WidthEntry.rangeWidth?]
  by_cases h : r.first ≤ code ∧ code ≤ r.last
  · simp [h]
  · rw [if_neg h, ← Bool.decide_and, decide_eq_false h]
    rfl

/-- A width of its own comes before a width from a range. -/
theorem explicit?_eq_or (table : WidthTable) (code : Nat) :
    table.explicit? code = table.singles[code]?.or (widthIn? table.ranges code) := by
  rw [explicit?, widthIn?, Option.orElse_eq_or]

/-- An entry of either form adds to the single widths what its list says, which is nothing for a
range. -/
theorem singles_addEntry (table : WidthTable) (entry : WidthEntry) (code : Nat) :
    (table.addEntry entry).singles[code]? = (entry.listWidth? code).or table.singles[code]? := by
  cases entry with
  | list first widths => exact getElem?_singles_addWidths table first widths code
  | range r => rfl

/-- It adds to the ranges what its range says, in front of those that are there, which is why later
ranges count. -/
theorem ranges_addEntry (table : WidthTable) (entry : WidthEntry) (code : Nat) :
    widthIn? (table.addEntry entry).ranges code =
      (entry.rangeWidth? code).or (widthIn? table.ranges code) := by
  cases entry with
  | list first widths => rw [addEntry, ranges_addWidths]; rfl
  | range r => exact widthIn?_cons r table.ranges code

/-- **The width of a code is that of the last entry that covers it**, lists coming before ranges. -/
theorem explicit?_foldl_addEntry (default : Float) (entries : List WidthEntry) (code : Nat) :
    (entries.foldl addEntry (uniform default)).explicit? code =
      WidthEntry.lastWidth? entries code := by
  have hsingles : (entries.foldl addEntry (uniform default)).singles[code]? =
      (entries.reverse.findSome? (·.listWidth? code)).or (uniform default).singles[code]? :=
    Entries.lookup_foldl (fun table : WidthTable => table.singles[code]?)
      (fun table entry => singles_addEntry table entry code) entries _
  have hranges : widthIn? (entries.foldl addEntry (uniform default)).ranges code =
      (entries.reverse.findSome? (·.rangeWidth? code)).or
        (widthIn? (uniform default).ranges code) :=
    Entries.lookup_foldl (fun table : WidthTable => widthIn? table.ranges code)
      (fun table entry => ranges_addEntry table entry code) entries _
  rw [explicit?_eq_or, hsingles, hranges]
  simp [uniform, widthIn?, WidthEntry.lastWidth?]

theorem default_foldl_addEntry (table : WidthTable) (entries : List WidthEntry) :
    (entries.foldl addEntry table).default = table.default := by
  induction entries generalizing table with
  | nil => rfl
  | cons entry entries ih =>
    rw [List.foldl_cons, ih]
    cases entry with
    | list first widths => exact default_addWidths table first widths
    | range r => rfl

/-! ## Tables -/

variable {default? : Option Float}

/-- A list that is divided into entries makes a table, in which the last entries count. -/
theorem ofComposite_of_declares (h : Declares items entries) (default? : Option Float) :
    ∃ table, ofComposite items default? = .ok table ∧ table.default = default?.getD standard ∧
      ∀ code, table.explicit? code = WidthEntry.lastWidth? entries code :=
  ⟨_, addEntries_of_declares h _, default_foldl_addEntry _ entries,
    explicit?_foldl_addEntry _ entries⟩

theorem exists_ofComposite_iff :
    (∃ table, ofComposite items default? = .ok table) ↔ ∃ entries, Declares items entries := by
  constructor
  · rintro ⟨table, htable⟩
    obtain ⟨entries, hentries, -⟩ := exists_declares_of_addEntries htable
    exact ⟨entries, hentries⟩
  · rintro ⟨entries, hentries⟩
    obtain ⟨table, htable, -⟩ := ofComposite_of_declares hentries default?
    exact ⟨table, htable⟩

/-- The default width is the one that is given, or the standard one, whatever the entries are. -/
theorem default_of_ofComposite (h : ofComposite items default? = .ok table) :
    table.default = default?.getD standard := by
  obtain ⟨entries, -, rfl⟩ := exists_declares_of_addEntries h
  exact default_foldl_addEntry _ entries

/-! ## Simple fonts -/

/-- **An array of numbers gives consecutive codes their widths.** The item at index `i` is the width
of the code `first + i`, and no other code has a width of its own; codes without one have the
default. -/
theorem ofSimple_of_numbers {widths : List Float} (hwidths : AreNumbers items widths)
    (hlast : widths ≠ [] → first + widths.length ≤ maxCode + 1) (default? : Option Float) :
    ∃ table, ofSimple first items default? = .ok table ∧ table.default = default?.getD standard ∧
      ∀ code, table.explicit? code = if first ≤ code then widths[code - first]? else none := by
  refine ⟨_, addList_of_numbers hwidths hlast, default_addWidths _ first widths, fun code => ?_⟩
  rw [explicit?_eq_or, getElem?_singles_addWidths, ranges_addWidths]
  simp [uniform, widthIn?, WidthEntry.listWidth?]

/-- **An array that holds anything but numbers is refused as a whole**, and so is one that goes on
behind the greatest code. -/
theorem exists_ofSimple_iff :
    (∃ table, ofSimple first items default? = .ok table) ↔
      ∃ widths, AreNumbers items widths ∧
        (widths ≠ [] → first + widths.length ≤ maxCode + 1) := by
  constructor
  · rintro ⟨table, htable⟩
    obtain ⟨widths, hwidths, hlast, -⟩ := exists_numbers_of_addList htable
    exact ⟨widths, hwidths, hlast⟩
  · rintro ⟨widths, hwidths, hlast⟩
    obtain ⟨table, htable, -⟩ := ofSimple_of_numbers hwidths hlast default?
    exact ⟨table, htable⟩

/-- A width that is no number refuses the numbers beside it, too. -/
example : (ofSimple 65 [.integer 500, .name "wide"] none).toOption.isNone := by
  decide +kernel

/-- A table of a simple font has the widths of its whole array. -/
theorem explicit?_of_ofSimple (h : ofSimple first items default? = .ok table) :
    ∃ widths, AreNumbers items widths ∧
      ∀ code, table.explicit? code = if first ≤ code then widths[code - first]? else none := by
  obtain ⟨widths, hwidths, hlast⟩ := exists_ofSimple_iff.mp ⟨table, h⟩
  obtain ⟨table', htable', -, hcodes⟩ := ofSimple_of_numbers hwidths hlast default?
  obtain rfl : table' = table := Except.ok.inj (htable'.symm.trans h)
  exact ⟨widths, hwidths, hcodes⟩

theorem default_of_ofSimple (h : ofSimple first items default? = .ok table) :
    table.default = default?.getD standard := by
  obtain ⟨widths, -, -, rfl⟩ := exists_numbers_of_addList h
  exact default_addWidths _ first widths

end WidthTable

end PdfDisplay
