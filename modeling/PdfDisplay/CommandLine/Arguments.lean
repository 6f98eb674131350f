import PdfDisplay.Number.Word
import PdfDisplay.Options

/-!
# Command-line arguments

There are two commands: `render` prints what pages show, `fonts` lists their fonts. Each
takes a file and options, in any order; the value of an option is attached by an equals sign
or is the next argument, and behind a lone `--` everything is a file.

Arguments are read one after another. An option or file is not looked at until the next
argument is accepted: it stays pending, so that an argument that is not known at all is what
is complained about first.
-/

namespace PdfDisplay.CommandLine

/-! ## Commands -/

/-- What is printed: lines of text or JSON. -/
inductive OutputFormat where
  /-- Lines of columns. -/
  | text
  /-- One JSON value. -/
  | json
  deriving DecidableEq, Repr, Inhabited

/-- The format with a name. -/
def OutputFormat.ofName? : String → Option OutputFormat
  | "text" => some .text
  | "json" => some .json
  | _ => none

/-- The normalization with a name. -/
def normalFormOfName? : String → Option NormalForm
  | "nfc" => some .nfc
  | "nfd" => some .nfd
  | "nfkc" => some .nfkc
  | "nfkd" => some .nfkd
  | _ => none

/-- What both commands are told. -/
structure Request where
  /-- The path of the file. -/
  file : String
  /-- The selection of pages; all pages without one. -/
  pages? : Option String
  /-- What is printed. -/
  format : OutputFormat
  /-- Whether warnings are printed. -/
  showWarnings : Bool
  deriving DecidableEq, Repr

/-- A command. -/
inductive Command where
  /-- Prints what pages show. -/
  | render (request : Request) (options : RenderOptions)
  /-- Lists the fonts of pages. -/
  | fonts (request : Request)

/-- The name of a command. -/
inductive CommandName where
  /-- `render`. -/
  | render
  /-- `fonts`. -/
  | fonts
  deriving DecidableEq, Repr

/-- The command with a name. -/
def CommandName.ofText? : String → Option CommandName
  | "render" => some .render
  | "fonts" => some .fonts
  | _ => none

/-! ## Refusals -/

/-- Why arguments are no command: a text is asked for, or something is wrong. -/
inductive UsageError where
  /-- Help is asked for. -/
  | helpWanted
  /-- The version is asked for. -/
  | versionWanted
  /-- There are no arguments; help is shown instead. -/
  | nothingGiven
  /-- There is no file. -/
  | missingFile
  /-- There is no such command. -/
  | unknownCommand
  /-- There is no such option, or there are too many files. -/
  | unknownArgument
  /-- An option has no value, or none that it admits. -/
  | badValue
  /-- The value of an option is not a number. -/
  | badNumber
  /-- An option is given twice. -/
  | repeated
  /-- An option that takes no value has one. -/
  | surplusValue
  deriving DecidableEq, Repr

/-- The exit code after a refusal: zero if a text was asked for. -/
def UsageError.exitCode : UsageError → Nat
  | helpWanted | versionWanted => 0
  | _ => 2

/-- How the program is used. -/
def usage : String := "\n".intercalate [
  "Prints the display lists and embedded fonts of PDF pages.",
  "",
  "Usage:",
  "  render FILE [--pages RANGE] [--format text|json] [--unicode-norm nfc|nfd|nfkc|nfkd]",
  "              [--max-operators N] [--decode-jpeg] [--warnings]",
  "  fonts FILE [--pages RANGE] [--format text|json] [--warnings]"]

/-- What is printed after a refusal. -/
def UsageError.text : UsageError → String
  | helpWanted | nothingGiven => usage
  | versionWanted => "0.1.0"
  | missingFile => "error: a file is required"
  | unknownCommand => "error: there is no such command"
  | unknownArgument => "error: there is no such option, or more than one file"
  | badValue => "error: an option or the file has no value that is admitted"
  | badNumber => "error: the value of an option is not a number"
  | repeated => "error: an option is given twice"
  | surplusValue => "error: an option that takes no value has one"

/-! ## Arguments by their look -/

/-- An argument by its look. -/
inductive Argument where
  /-- A lone `--`. -/
  | separator
  /-- A name behind `--`, with a value behind an equals sign. -/
  | long (name : String) (value? : Option String)
  /-- A letter behind a single hyphen, with whatever follows it. -/
  | short (letter : Char)
  /-- Anything else. -/
  | word (text : String)
  deriving DecidableEq, Repr

/-- The look of an argument. -/
def Argument.ofString (text : String) : Argument :=
  match text.toList with
  | ['-', '-'] => .separator
  | '-' :: '-' :: name =>
    match name.dropWhile (· != '=') with
    | [] => .long (String.ofList name) none
    | _ :: value => .long (String.ofList (name.takeWhile (· != '='))) (some (String.ofList value))
  | '-' :: letter :: _ => .short letter
  | _ => .word text

/-! ## Options -/

/-- An option that takes a value. -/
inductive ValueOption where
  /-- `--pages`. -/
  | pages
  /-- `--format`. -/
  | format
  /-- `--unicode-norm`. -/
  | normalForm
  /-- `--max-operators`. -/
  | maxOperators
  deriving DecidableEq, Repr

/-- An option that takes no value. -/
inductive Switch where
  /-- `--decode-jpeg`. -/
  | decodeJpeg
  /-- `--warnings`. -/
  | warnings
  /-- `--help`. -/
  | help
  deriving DecidableEq, Repr

/-- An option of either kind. -/
abbrev OptionName := ValueOption ⊕ Switch

/-- The option of a command with a name. -/
def CommandName.option? : CommandName → String → Option OptionName
  | _, "pages" => some (.inl .pages)
  | _, "format" => some (.inl .format)
  | .render, "unicode-norm" => some (.inl .normalForm)
  | .render, "max-operators" => some (.inl .maxOperators)
  | .render, "decode-jpeg" => some (.inr .decodeJpeg)
  | _, "warnings" => some (.inr .warnings)
  | _, "help" => some (.inr .help)
  | _, _ => none

/-- What has been accepted. -/
structure Given where
  /-- The file. -/
  file? : Option String := none
  /-- The value of `--pages`. -/
  pages? : Option String := none
  /-- The value of `--format`. -/
  format? : Option OutputFormat := none
  /-- The value of `--unicode-norm`. -/
  normalForm? : Option NormalForm := none
  /-- The value of `--max-operators`. -/
  maxOperators? : Option Nat := none
  /-- Whether there is `--decode-jpeg`. -/
  decodeJpeg : Bool := false
  /-- Whether there is `--warnings`. -/
  warnings : Bool := false
  deriving DecidableEq, Repr

namespace Given

/-- A value that may be given once. -/
def once {α : Type} (earlier? : Option α) (value? : Option α) (e : UsageError) :
    Except UsageError (Option α) :=
  if earlier?.isSome then .error .repeated
  else if value?.isSome then .ok value?
  else .error e

/-- Accepts a file. -/
def setFile (given : Given) (path : String) : Except UsageError Given :=
  if path = "" then .error .badValue else .ok { given with file? := some path }

/-- Accepts an option with its value. -/
def setOption (given : Given) (value : String) : ValueOption → Except UsageError Given
  | .pages => do
    return { given with pages? := ← once given.pages? (some value) .badValue }
  | .format => do
    return { given with format? := ← once given.format? (OutputFormat.ofName? value) .badValue }
  | .normalForm => do
    return { given with
      normalForm? := ← once given.normalForm? (normalFormOfName? value) .badValue }
  | .maxOperators => do
    return { given with
      maxOperators? := ← once given.maxOperators? (Word.parse? value.toList) .badNumber }

/-- Accepts an option without value. -/
def setSwitch (given : Given) : Switch → Except UsageError Given
  | .decodeJpeg =>
    if given.decodeJpeg then .error .repeated else .ok { given with decodeJpeg := true }
  | .warnings => if given.warnings then .error .repeated else .ok { given with warnings := true }
  | .help => .error .helpWanted

/-- The command that the accepted arguments make. -/
def command (given : Given) (name : CommandName) : Except UsageError Command :=
  match given.file? with
  | none => .error .missingFile
  | some file =>
    let request : Request :=
      ⟨file, given.pages?, given.format?.getD .text, given.warnings⟩
    let defaults : RenderOptions := {}
    match name with
    | .fonts => .ok (.fonts request)
    | .render => .ok (.render request { defaults with
        normalForm := given.normalForm?.getD .none
        maxOperators := given.maxOperators?.getD defaults.maxOperators
        decodeJpeg := given.decodeJpeg })

end Given

/-! ## Reading -/

/-- An argument that has been read but not looked at. -/
inductive Pending where
  /-- A file. -/
  | file (path : String)
  /-- An option, with its value if that has been read. -/
  | option (name : ValueOption) (value? : Option String)
  deriving DecidableEq, Repr

/-- What has been read. -/
structure Reading where
  /-- What has been accepted. -/
  given : Given := {}
  /-- What has not been looked at. -/
  pending? : Option Pending := none
  /-- Whether a file has been read. -/
  hasFile : Bool := false
  deriving DecidableEq, Repr

namespace Reading

/-- Accepts what is pending. -/
def settle (r : Reading) : Except UsageError Reading :=
  match r.pending? with
  | none => .ok r
  | some (.file path) => do return { r with given := ← r.given.setFile path, pending? := none }
  | some (.option _ none) => .error .badValue
  | some (.option name (some value)) => do
    return { r with given := ← r.given.setOption value name, pending? := none }

/-- Reads a file. -/
def takeFile (r : Reading) (path : String) : Except UsageError Reading :=
  if r.hasFile then .error .unknownArgument
  else do return { ← r.settle with pending? := some (.file path), hasFile := true }

/-- Reads an argument that is no option: the value that is awaited, or a file. -/
def takeWord (r : Reading) (text : String) : Except UsageError Reading :=
  match r.pending? with
  | some (.option name none) => .ok { r with pending? := some (.option name (some text)) }
  | _ => r.takeFile text

/-- Reads an option. -/
def takeOption (r : Reading) : OptionName → (value? : Option String) → Except UsageError Reading
  | .inl name, none => do return { ← r.settle with pending? := some (.option name none) }
  -- an attached value is complete, so nothing stays pending
  | .inl name, some value => do
    let r ← r.settle
    return { r with given := ← r.given.setOption value name }
  | .inr switch, none => do
    let r ← r.settle
    return { r with given := ← r.given.setSwitch switch }
  | .inr _, some _ => .error .surplusValue

/-- Reads the arguments of a command. -/
def readAll (name : CommandName) (r : Reading) : List String → Except UsageError Reading
  | [] => r.settle
  | text :: rest =>
    match Argument.ofString text with
    -- behind the separator everything is a file
    | .separator => do (← rest.foldlM takeFile r).settle
    | .long option value? =>
      match name.option? option with
      | some option => do readAll name (← r.takeOption option value?) rest
      | none => .error .unknownArgument
    | .short 'h' => do readAll name (← r.takeOption (.inr .help) none) rest
    | .short _ => .error .unknownArgument
    | .word text => do readAll name (← r.takeWord text) rest

end Reading

/-! ## Whole command lines -/

/-- What is said about the arguments behind `help`, which name commands. -/
def helpAbout : List String → UsageError
  | [] => .helpWanted
  | [name] =>
    if name = "help" ∨ (CommandName.ofText? name).isSome then .helpWanted else .unknownCommand
  | _ => .unknownCommand

/-- What is said about the arguments behind a separator that comes before any command. -/
def afterSeparator : List String → UsageError
  | [] => .nothingGiven
  | name :: _ =>
    if name = "help" ∨ (CommandName.ofText? name).isSome then .unknownArgument
    else .unknownCommand

/-- The command that arguments give. -/
def Command.parse : List String → Except UsageError Command
  | [] => .error .nothingGiven
  | text :: rest =>
    match Argument.ofString text with
    | .word "help" => .error (helpAbout rest)
    | .word text =>
      match CommandName.ofText? text with
      | some name => do (← Reading.readAll name {} rest).given.command name
      | none => .error .unknownCommand
    | .separator => .error (afterSeparator rest)
    | .long "help" none | .short 'h' => .error .helpWanted
    | .long "version" none | .short 'V' => .error .versionWanted
    | .long "help" (some _) | .long "version" (some _) => .error .surplusValue
    | .long _ _ | .short _ => .error .unknownArgument

end PdfDisplay.CommandLine
