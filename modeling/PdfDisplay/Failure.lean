/-!
# Failures

What a caller is told when a job as a whole fails. A failure names the part of the work it
comes from; `Failure.message` is the wording for callers, and `Failure.detail` the wording
inside warnings, which says more plainly that a parse error concerns the document.
-/

namespace PdfDisplay

/-- The part of the work that failed. -/
inductive Area where
  /-- The structure of a document or of a table in it. -/
  | parse
  /-- Access to a file. -/
  | access
  /-- A font as a whole. -/
  | font
  /-- The interpretation of page contents. -/
  | interpreter
  /-- The source of objects. -/
  | store
  /-- Anything else. -/
  | other
  deriving DecidableEq, Repr

/-- A failure of a job. -/
inductive Failure where
  /-- A part of the work failed. -/
  | failed (area : Area) (message : String)
  /-- A limit was exceeded. -/
  | limitExceeded (name : String) (limit actual : Nat)
  deriving DecidableEq, Repr

namespace Failure

/-- The wording for callers. -/
def message : Failure → String
  | failed .parse text => "parse error: " ++ text
  | failed .access text => "I/O error: " ++ text
  | failed .font text => "font error: " ++ text
  | failed .interpreter text => "interpreter error: " ++ text
  | failed .store text => "object store error: " ++ text
  | failed .other text => text
  | limitExceeded name limit actual =>
    "resource limit exceeded: " ++ name ++ " (limit: " ++ toString limit ++ ", actual: " ++
      toString actual ++ ")"

/-- The wording inside warnings. -/
def detail : Failure → String
  | failed .parse text => "PDF parse error: " ++ text
  | failed .store text => text
  | failure => failure.message

end Failure

end PdfDisplay
