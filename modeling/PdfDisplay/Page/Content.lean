import PdfDisplay.Graphics.Machine

/-!
# Page contents

Page contents are executed operator by operator, up to a limit. Contents that cannot be read
to their end show what comes in front of the damage; what stopped the execution is told, and
reported as the last warning.
-/

namespace PdfDisplay

/-- Why page contents are cut short. -/
inductive Truncation where
  /-- There are more bytes than are read. -/
  | byteLimit (size limit : Nat)
  /-- There are more operators than are executed. -/
  | operatorLimit (limit : Nat)
  /-- The contents cannot be read on. -/
  | unreadable (e : ContentError)
  deriving DecidableEq, Repr

namespace Truncation

/-- The wording of the reason. -/
def text : Truncation → String
  | byteLimit size limit =>
    "content stream of " ++ toString size ++ " bytes exceeds the limit of " ++ toString limit
  | operatorLimit limit => "operator limit of " ++ toString limit ++ " reached"
  | unreadable e => "content stream truncated: " ++ (Failure.failed .interpreter e.message).detail

/-- The category of the warning. -/
def code : Truncation → WarningCode
  | byteLimit _ _ | operatorLimit _ => .resourceLimitReached
  | unreadable _ => .truncatedContent

/-- The warning about the reason. -/
def warning (t : Truncation) : Warning := { code := t.code, description := t.text }

end Truncation

namespace Content

/-- Why the execution of a reading stops early, and at which operator. -/
def stop? (reading : Operator.Reading) (limit : Nat) : Option (Truncation × Nat) :=
  if limit < reading.operators.length then some (.operatorLimit limit, limit)
  else reading.stopped?.map fun e => (.unreadable e, reading.operators.length)

variable {m : Type → Type} [Monad m]

/-- What the execution of page contents leaves behind. -/
structure Run where
  /-- The items, with their text normalized. -/
  items : DisplayList
  /-- The warnings, in the order in which they were given. -/
  warnings : List Warning
  /-- The fonts. -/
  fonts : FontCache
  /-- Why the execution stopped early, if it did. -/
  stopped? : Option Truncation

/-- The machine after the operators that the limit admits. -/
def finalMachine (page : PageContext m) (fonts : FontCache) (reading : Operator.Reading) :
    m Machine :=
  Machine.executeAll page 0 { fonts } (reading.operators.take page.options.maxOperators)

/-- Executes page contents. -/
def run (page : PageContext m) (fonts : FontCache) (content : Bytes) : m Run := do
  let reading := Operator.readAll content
  let stop? := stop? reading page.options.maxOperators
  let machine ← finalMachine page fonts reading
  let warned := stop?.elim machine fun (reason, index) => machine.warn index reason.warning
  return {
    items := machine.items.normalized page.options.normalForm
    warnings := warned.warnings.reverse
    fonts := machine.fonts
    stopped? := stop?.map (·.1) }

/-- The display list of page contents and the fonts afterwards. -/
def render (page : PageContext m) (fonts : FontCache) (content : Bytes) :
    m (Diagnosed DisplayList × FontCache) := do
  let done ← run page fonts content
  return (⟨done.items, if page.options.collectWarnings then done.warnings else []⟩, done.fonts)

end Content

end PdfDisplay
