/-!
# Warnings

What went wrong without stopping the work: the affected part of a page degraded to an absent
or default value. A warning has a category, a description, and optionally the operator, the
font and the object it concerns.
-/

namespace PdfDisplay

/-- The category of a warning. -/
inductive WarningCode where
  /-- A reference or a named resource leads nowhere. -/
  | missingReference
  /-- A key is absent, or its value has the wrong shape. -/
  | malformedDictionary
  /-- A color space, filter or sample depth is not supported. -/
  | unsupportedEncoding
  /-- A stream cannot be decoded. -/
  | corruptStream
  /-- A limit was reached. -/
  | resourceLimitReached
  /-- Page contents cannot be read to their end. -/
  | truncatedContent
  /-- Anything else. -/
  | other (detail : String)
  deriving DecidableEq, Repr

/-- The word for a category in a text. -/
def WarningCode.text : WarningCode → String
  | missingReference => "MISSING_REFERENCE"
  | malformedDictionary => "MALFORMED_DICTIONARY"
  | unsupportedEncoding => "UNSUPPORTED_ENCODING"
  | corruptStream => "CORRUPT_STREAM"
  | resourceLimitReached => "RESOURCE_LIMIT_REACHED"
  | truncatedContent => "TRUNCATED_CONTENT"
  | other _ => "OTHER"

/-- Something that went wrong without stopping the work. -/
structure Warning where
  /-- The category. -/
  code : WarningCode
  /-- What happened. -/
  description : String
  /-- The index of the operator that was executed. -/
  operatorIndex? : Option Nat := none
  /-- The name of the font resource. -/
  fontName? : Option String := none
  /-- The object, as a reference or a name. -/
  object? : Option String := none
  deriving DecidableEq, Repr

namespace Warning

/-- The warning with the operator it belongs to. -/
def atOperator (w : Warning) (index : Nat) : Warning := { w with operatorIndex? := some index }

/-- The warning with the font it concerns. -/
def withFont (w : Warning) (name : String) : Warning := { w with fontName? := some name }

/-- A labelled part of a warning's text. -/
def note (label : String) : Option String → String
  | some value => " [" ++ label ++ value ++ "]"
  | none => ""

/-- The warning as one line. -/
def text (w : Warning) : String :=
  "[" ++ w.code.text ++ "] " ++ w.description ++ note "font " w.fontName? ++
    note "object " w.object? ++ note "operator #" (w.operatorIndex?.map toString)

end Warning

/-- A value with the warnings about what went wrong on the way to it. -/
structure Diagnosed (α : Type) where
  /-- The value. -/
  value : α
  /-- The warnings, in the order in which they came up. -/
  warnings : List Warning
  deriving Inhabited

namespace Diagnosed

variable {α β : Type}

/-- A value without warnings. -/
def clean (value : α) : Diagnosed α := ⟨value, []⟩

/-- Whether there are no warnings. -/
def isClean (d : Diagnosed α) : Bool := d.warnings.isEmpty

/-- The value changed by a function, the warnings kept. -/
def map (f : α → β) (d : Diagnosed α) : Diagnosed β := ⟨f d.value, d.warnings⟩

end Diagnosed

/-- Work that gives warnings: each step puts its own behind those of the steps before. -/
abbrev Diagnosing (m : Type → Type) : Type → Type := StateT (List Warning) m

namespace Diagnosing

variable {m : Type → Type} [Monad m] {α : Type}

/-- Gives a warning. -/
def warn (warning : Warning) : Diagnosing m Unit := modify (· ++ [warning])

/-- Does the work and collects the warnings. -/
def collect (work : Diagnosing m α) : m (Diagnosed α) := do
  let (value, warnings) ← work.run []
  return ⟨value, warnings⟩

end Diagnosing

end PdfDisplay
