import Mathlib.Data.List.Basic
import PdfDisplay.Encoding

/-!
# Differences of an encoding

A list of differences gives its names the positions that follow its numbers, and each code gets the
character of the last known name at its position (`Encoding.decode?_applyDifferences`). A position
is told from the items in front of a name alone (`Encoding.position?`). The reader has a running
code instead, of 32 bits, and starts over at zero where a position would not fit
(`Encoding.decode?_applyFrom`); there the characters of a list are not those of its positions.

The induction is on the items that are left, for any items in front of them; the running code is
the position modulo `2 ^ 32`.
-/

namespace PdfDisplay

namespace Encoding

/-! ## Positions -/

/-- The number that an item is. -/
def number? : Object → Option Int
  | .integer value => some value
  | _ => none

/-- The position of a name behind some items: the number nearest to it, if 32 bits hold it, and one
more for each name between them. -/
def position? (before : List Object) : Option Nat := do
  let start ← before.reverse.findSome? number?
  let between := before.reverse.takeWhile fun item => (number? item).isNone
  if 0 ≤ start ∧ start < 0x100000000 then
    some (start.toNat + between.countP fun item => item.name?.isSome)
  else none

theorem position?_nil : position? [] = none := rfl

theorem position?_number (before : List Object) (value : Int) :
    position? (before ++ [.integer value]) =
      if 0 ≤ value ∧ value < 0x100000000 then some value.toNat else none := by
  rw [position?, List.reverse_append]
  rfl

theorem position?_name (before : List Object) (name : String) :
    position? (before ++ [.name name]) = (position? before).map (· + 1) := by
  rw [position?, position?, List.reverse_append]
  cases hstart : before.reverse.findSome? number? with
  | none =>
    simp only [List.reverse_singleton, List.singleton_append, List.findSome?_cons, number?, hstart]
    rfl
  | some start =>
    simp only [List.reverse_singleton, List.singleton_append, List.findSome?_cons, number?, hstart,
      List.takeWhile_cons, Option.isNone_none, if_true, List.countP_cons, Object.name?,
      Option.isSome_some, Option.bind_eq_bind, Option.bind_some]
    split <;> rfl

theorem position?_other (before : List Object) {item : Object} (hnumber : number? item = none)
    (hname : item.name? = none) : position? (before ++ [item]) = position? before := by
  simp only [position?, List.reverse_append, List.reverse_singleton, List.singleton_append,
    List.findSome?_cons, hnumber, List.takeWhile_cons, Option.isNone_none, if_true,
    List.countP_cons, hname, Option.isSome_none, Bool.false_eq_true, if_false, Nat.add_zero]

/-- A name of a list of differences, with its position. -/
structure PlacedName where
  /-- The position, if there is a number that gives one. -/
  position? : Option Nat
  /-- The name. -/
  name : String
  deriving DecidableEq, Repr

/-- The names among some items, in their order, with the items in front of them all. -/
def placedFrom (before : List Object) : List Object → List PlacedName
  | [] => []
  | .name name :: rest => ⟨position? before, name⟩ :: placedFrom (before ++ [.name name]) rest
  | item :: rest => placedFrom (before ++ [item]) rest

/-- The names of a list of differences with their positions. -/
def placedNames (items : List Object) : List PlacedName := placedFrom [] items

/-- The character of the last known name at a position. -/
def characterAt? (items : List Object) (position : Nat) : Option Char :=
  (placedNames items).reverse.findSome? fun placed =>
    if placed.position? = some position then GlyphName.char? placed.name else none

/-! ## The running code -/

theorem startCode?_eq (before : List Object) (value : Int) :
    startCode? value = (position? (before ++ [.integer value])).map UInt32.ofNat := by
  rw [position?_number, startCode?]
  split <;> rfl

theorem eq_toUInt32_iff {wide : UInt32} {code : UInt8} (h : wide < 256) :
    wide = code.toUInt32 ↔ code = wide.toUInt8 := by
  have hwide : wide.toNat < 256 := h
  rw [← UInt32.toNat_inj, ← UInt8.toNat_inj, UInt8.toNat_toUInt32, UInt32.toNat_toUInt8,
    Nat.mod_eq_of_lt hwide]
  exact eq_comm

/-- A name in a code's place gives it a character, if it is known, and all other codes keep
theirs. -/
theorem decode?_differ (encoding : Encoding) (wide : UInt32) (name : String) (code : UInt8) :
    (encoding.differ wide name).decode? code =
      (if wide = code.toUInt32 then GlyphName.char? name else none).or (encoding.decode? code) := by
  rw [differ]
  cases hname : GlyphName.char? name with
  | none => simp
  | some c =>
    dsimp only
    by_cases hwide : wide < 256
    · rw [if_pos hwide, decode?, List.lookup_cons]
      by_cases hcode : code = wide.toUInt8
      · rw [if_pos ((eq_toUInt32_iff hwide).mpr hcode), hcode, BEq.rfl]
        rfl
      · rw [if_neg (mt (eq_toUInt32_iff hwide).mp hcode), beq_false_of_ne hcode]
        rfl
    -- a code that is no byte is never looked up
    · have hne : wide ≠ code.toUInt32 := by
        rintro rfl
        exact hwide code.toNat_lt
      rw [if_neg hwide, if_neg hne, Option.none_or]

/-- The character that a name gives a code where positions count modulo `2 ^ 32`. -/
def PlacedName.given? (code : UInt8) (placed : PlacedName) : Option Char :=
  if placed.position?.map UInt32.ofNat = some code.toUInt32 then GlyphName.char? placed.name
  else none

/-- The reader of a list gives each code the character of the last known name whose position is the
code modulo `2 ^ 32`. -/
theorem decode?_applyFrom (encoding : Encoding) (before items : List Object) (code : UInt8) :
    (encoding.applyFrom ((position? before).map UInt32.ofNat) items).decode? code =
      ((placedFrom before items).reverse.findSome? (PlacedName.given? code)).or
        (encoding.decode? code) := by
  induction items generalizing encoding before with
  | nil => rfl
  | cons item items ih =>
    cases item with
    | integer value =>
      rw [applyFrom, startCode?_eq before, ih]
      rfl
    | name name =>
      rw [placedFrom, List.reverse_cons, List.findSome?_append, Option.or_assoc]
      -- the name counts for its code, and the next one for the code behind it
      have hbehind (encoding : Encoding) := ih encoding (before ++ [.name name])
      rw [position?_name] at hbehind
      cases hposition : position? before with
      | none =>
        rw [hposition] at hbehind
        exact hbehind encoding
      | some position =>
        rw [hposition, Option.map_some, Option.map_some, UInt32.ofNat_add] at hbehind
        refine (hbehind (encoding.differ (UInt32.ofNat position) name)).trans ?_
        rw [decode?_differ]
        simp [PlacedName.given?]
    -- anything else is passed over and leaves the position as it is
    | _ =>
      rw [applyFrom, placedFrom, ← ih, position?_other before rfl rfl]
      all_goals nofun

/-! ## Lists whose positions fit -/

theorem given?_eq {placed : PlacedName}
    (h : ∀ position ∈ placed.position?, position < 0x100000000) (code : UInt8) :
    placed.given? code =
      if placed.position? = some code.toNat then GlyphName.char? placed.name else none := by
  have hiff : placed.position?.map UInt32.ofNat = some code.toUInt32 ↔
      placed.position? = some code.toNat := by
    cases hposition : placed.position? with
    | none => simp
    | some position =>
      have hposition : position < 2 ^ 32 := h position hposition
      rw [Option.map_some, Option.some.injEq, Option.some.injEq, ← UInt32.toNat_inj,
        UInt32.toNat_ofNat', Nat.mod_eq_of_lt hposition, UInt8.toNat_toUInt32]
  rw [PlacedName.given?]
  simp only [hiff]

/-- **A list of differences gives each code the character of the last known name at its position**,
where the positions of its names have 32 bits. All other codes keep the character that they had,
or have that of the base encoding. -/
theorem decode?_applyDifferences (encoding : Encoding) {items : List Object}
    (h : ∀ placed ∈ placedNames items, ∀ position ∈ placed.position?, position < 0x100000000)
    (code : UInt8) :
    (encoding.applyDifferences items).decode? code =
      (characterAt? items code.toNat).or
        ((encoding.differences.lookup code).or (encoding.base.decode? code)) := by
  have hall : (placedNames items).reverse.findSome? (PlacedName.given? code) =
      characterAt? items code.toNat := by
    rw [characterAt?, ← List.head?_filterMap, ← List.head?_filterMap]
    refine congrArg List.head? (List.filterMap_congr fun placed hplaced => ?_)
    exact given?_eq (h placed (List.mem_reverse.mp hplaced)) code
  have hread := decode?_applyFrom encoding [] items code
  rw [position?_nil, Option.map_none] at hread
  rw [applyDifferences, hread, ← hall, decode?]
  cases encoding.differences.lookup code <;> rfl

/-- A name in front of every number, one that is not known, one beyond the codes, and two for one
code. -/
def mixed : List Object :=
  [.name "A", .integer 65, .name "B", .null, .name "nowhere", .name "C", .integer 300, .name "D",
    .integer 65, .name "bullet"]

theorem decode?_applyDifferences_mixed :
    (∀ placed ∈ placedNames mixed, ∀ position ∈ placed.position?, position < 0x100000000) ∧
      ((ofBase .winAnsi).applyDifferences mixed).decode? 65 = some '\u2022' ∧
      ((ofBase .winAnsi).applyDifferences mixed).decode? 66 = some 'B' ∧
      ((ofBase .winAnsi).applyDifferences mixed).decode? 67 = some 'C' := by
  have h : ∀ placed ∈ placedNames mixed, ∀ position ∈ placed.position?, position < 0x100000000 := by
    decide +kernel
  refine ⟨h, ?_, ?_, ?_⟩
  · exact (decode?_applyDifferences _ h 65).trans (by decide +kernel)
  · exact (decode?_applyDifferences _ h 66).trans (by decide +kernel)
  · exact (decode?_applyDifferences _ h 67).trans (by decide +kernel)

/-- Behind the greatest code a name goes to the code zero, which is not its position. -/
theorem not_decode?_applyDifferences :
    ¬ ∀ (encoding : Encoding) (items : List Object) (code : UInt8),
      (encoding.applyDifferences items).decode? code =
        (characterAt? items code.toNat).or
          ((encoding.differences.lookup code).or (encoding.base.decode? code)) := by
  intro h
  have hzero := h unspecified [.integer 0xFFFFFFFF, .name "A", .name "B"] 0
  revert hzero
  decide +kernel

end Encoding

end PdfDisplay
