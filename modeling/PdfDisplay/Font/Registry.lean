import PdfDisplay.Font.Program
import Std.Data.TreeMap

/-!
# The font registry

A registry keeps font programs under the names of their families. Parts of one face that
different fonts embed share a family name and differ in their bytes; the second one is kept
under a numbered alias.

Of the names `f`, `f#2`, `f#3`, … the first that is free or already holds the program is
taken. The numbers have 32 bits and a sign: behind the greatest one they go on with the least.
One of the first `n + 1` names is taken, where `n` is the number of programs kept, so looking at
these is enough, unless there are more programs than names.
-/

namespace PdfDisplay

/-- Font programs by the names of their families. -/
structure FontRegistry where
  /-- The programs. -/
  programs : Std.TreeMap String FontProgram

/-- What became of a program that was registered. -/
inductive Registration where
  /-- It is kept under its family name. -/
  | registered
  /-- It was there already. -/
  | duplicate
  /-- It is kept under an alias. -/
  | renamed (name : String)
  deriving DecidableEq, Repr

namespace FontRegistry

/-- No programs. -/
def empty : FontRegistry := ⟨∅⟩

instance : EmptyCollection FontRegistry := ⟨empty⟩

/-- The program with a name. -/
def get? (registry : FontRegistry) (name : String) : Option FontProgram :=
  registry.programs[name]?

/-- Whether there is a program with a name. -/
def contains (registry : FontRegistry) (name : String) : Bool := registry.programs.contains name

/-- The number of programs. -/
def size (registry : FontRegistry) : Nat := registry.programs.size

/-- Whether there are no programs. -/
def isEmpty (registry : FontRegistry) : Bool := registry.programs.isEmpty

/-- The names in alphabetical order. -/
def families (registry : FontRegistry) : List String := registry.programs.keys

/-- The alias of a family with a number. -/
def numbered (family : String) (suffix : Int32) : String := family ++ "#" ++ toString suffix

/-- The registry with a program under a free name. -/
def insert (registry : FontRegistry) (name : String) (program : FontProgram) : FontRegistry :=
  ⟨registry.programs.insert name program⟩

/-- Registers a program under the first name that is free or holds the program already: `name`,
whose number is `suffix`, or an alias with one of the next numbers. At most `tries` names are looked
at. -/
def registerFrom (registry : FontRegistry) (family : String) (program : FontProgram)
    (name : String) (suffix : Int32) : (tries : Nat) → FontRegistry × Registration
  | 0 => (registry, .duplicate)
  | tries + 1 =>
    match registry.get? name with
    | none =>
      (registry.insert name program, if suffix = 1 then .registered else .renamed name)
    | some kept =>
      if kept = program then (registry, .duplicate)
      else registerFrom registry family program (numbered family (suffix + 1)) (suffix + 1) tries

/-- Registers a program under the name of its family, or under an alias of it. -/
def register (registry : FontRegistry) (family : String) (program : FontProgram) :
    FontRegistry × Registration :=
  registerFrom registry family program family 1 (registry.size + 1)

end FontRegistry

end PdfDisplay
