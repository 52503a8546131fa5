import SteadyFetch.Command
import SteadyFetch.Text.Blank
import SteadyFetch.Text.Numeral

set_option autoImplicit false

/-! # Arguments

Reads a command line. The first argument names the command; options may stand before, between and
after its positional arguments. A value is checked when the next argument shows that it is complete,
so of two mistakes the one that comes to light first is reported, and an unknown argument before a
value that is still open. After `--` everything is positional. -/

namespace SteadyFetch

/-- What is wrong with a command line. -/
inductive ArgumentError where
  /-- A positional argument is missing. -/
  | missingArgument
  /-- There is no such command. -/
  | unknownCommand
  /-- An option that is not known, or a positional argument too many. -/
  | unknownArgument
  /-- A value that is no number of its kind. -/
  | badNumber
  /-- A value that is missing or must not be empty. -/
  | missingValue
  /-- An option that was given before. -/
  | repeated
  /-- A value for an option that takes none. -/
  | unexpectedValue
  /-- Help was asked for. -/
  | help
  /-- Nothing was asked for. -/
  | nothing
  deriving DecidableEq, Repr

/-- What a value has to be. -/
inductive ValueKind where
  | text
  /-- A text that is not empty. -/
  | path
  /-- A number of sixty-four bits with a sign. -/
  | integer
  /-- A number of sixty-four bits without one. -/
  | size
  deriving DecidableEq, Repr

/-- Checks a value. -/
def ValueKind.check (kind : ValueKind) (value : List Char) : Except ArgumentError Unit :=
  match kind with
  | .text => .ok ()
  | .path => if value.isEmpty then .error .missingValue else .ok ()
  | .integer => if (Numeral.i64? value).isSome then .ok () else .error .badNumber
  | .size => if (Numeral.u64? value).isSome then .ok () else .error .badNumber

/-- An option of a command. -/
structure OptionSpec where
  name : String
  /-- The letter that stands for it after a single dash. -/
  letter : Option Char := none
  /-- What its value has to be; none if it takes none. -/
  kind : Option ValueKind

/-- The arguments of a command. -/
structure ArgumentSpec where
  /-- Names and kinds of the positional arguments, all of which are needed. -/
  positionals : List (String × ValueKind)
  options : List OptionSpec

/-- A value that is not checked yet, or an option that still waits for its value. -/
structure PendingValue where
  name : String
  kind : ValueKind
  value : Option (List Char)

/-- What was read of the arguments of a command. -/
structure ArgumentState where
  /-- Checked values by name, latest first; options without values have an empty one. -/
  values : List (String × List Char) := []
  pending : Option PendingValue := none
  /-- Positional arguments so far. -/
  count : Nat := 0
  /-- Whether everything from here on is positional. -/
  positionalOnly : Bool := false

namespace ArgumentState

/-- Takes up a checked value; a name has only one. -/
def store (s : ArgumentState) (name : String) (value : List Char) :
    Except ArgumentError ArgumentState :=
  if (s.values.lookup name).isSome then .error .repeated
  else .ok { s with values := (name, value) :: s.values }

/-- Checks a value and takes it up. -/
def accept (s : ArgumentState) (name : String) (kind : ValueKind) (value : List Char) :
    Except ArgumentError ArgumentState := do
  let s ← s.store name value
  kind.check value
  return s

/-- Checks the value that is pending, if there is one. -/
def settle (s : ArgumentState) : Except ArgumentError ArgumentState :=
  match s.pending with
  | none => .ok s
  | some p =>
    match p.value with
    | none => .error .missingValue
    | some value => ({ s with pending := none } : ArgumentState).accept p.name p.kind value

/-- Reads an option, perhaps with a value attached. -/
def option (s : ArgumentState) (o : OptionSpec) (attached : Option (List Char)) :
    Except ArgumentError ArgumentState :=
  match o.kind, attached with
  | none, some _ => .error .unexpectedValue
  | none, none => do (← s.settle).store o.name []
  | some kind, some value => do (← s.settle).accept o.name kind value
  | some kind, none => do
    let s ← s.settle
    return { s with pending := some ⟨o.name, kind, none⟩ }

/-- Splits an option from a value after an equals sign. -/
def splitAttached (cs : List Char) : List Char × Option (List Char) :=
  match splitOnce '=' cs with
  | some (name, value) => (name, some value)
  | none => (cs, none)

/-- Reads what follows two dashes. -/
def long (spec : ArgumentSpec) (s : ArgumentState) (cs : List Char) :
    Except ArgumentError ArgumentState :=
  let (name, attached) := splitAttached cs
  if name = "help".toList then
    match attached with
    | some _ => .error .unexpectedValue
    | none => do
      let _ ← s.settle
      throw .help
  else
    match spec.options.find? fun o => o.name.toList == name with
    | none => .error .unknownArgument
    | some o => s.option o attached

/-- Reads what follows one dash: a letter, and perhaps a value. -/
def short (spec : ArgumentSpec) (s : ArgumentState) (letter : Char) (rest : List Char) :
    Except ArgumentError ArgumentState :=
  if letter = 'h' then do
    let _ ← s.settle
    throw .help
  else
    match spec.options.find? fun o => o.letter == some letter with
    | none => .error .unknownArgument
    | some o =>
      match rest with
      | [] => s.option o none
      | '=' :: value => s.option o (some value)
      | value => s.option o (some value)

/-- Reads a positional argument. -/
def positional (spec : ArgumentSpec) (s : ArgumentState) (value : List Char) :
    Except ArgumentError ArgumentState :=
  match spec.positionals[s.count]? with
  | none => .error .unknownArgument
  | some (name, kind) => do
    let s ← s.settle
    return { s with pending := some ⟨name, kind, some value⟩, count := s.count + 1 }

/-- Gives a waiting option its value, or reads a positional argument. -/
def plain (spec : ArgumentSpec) (s : ArgumentState) (value : List Char) :
    Except ArgumentError ArgumentState :=
  match s.pending with
  | some ⟨name, kind, none⟩ => .ok { s with pending := some ⟨name, kind, some value⟩ }
  | _ => s.positional spec value

/-- Reads one argument. -/
def step (spec : ArgumentSpec) (s : ArgumentState) (arg : String) :
    Except ArgumentError ArgumentState :=
  if s.positionalOnly then s.positional spec arg.toList
  else
    match arg.toList with
    | ['-', '-'] => .ok { s with positionalOnly := true }
    | '-' :: '-' :: rest => s.long spec rest
    | '-' :: letter :: rest => s.short spec letter rest
    | value => s.plain spec value

/-- The value of a name. -/
def text? (s : ArgumentState) (name : String) : Option String :=
  (s.values.lookup name).map String.ofList

/-- The value of a positional argument. -/
def text (s : ArgumentState) (name : String) : String := (s.text? name).getD ""

end ArgumentState

/-- Reads the arguments of a command. -/
def ArgumentSpec.read (spec : ArgumentSpec) (args : List String) :
    Except ArgumentError ArgumentState := do
  let s ← args.foldlM (ArgumentState.step spec) {}
  let s ← s.settle
  if s.count < spec.positionals.length then throw .missingArgument
  return s

namespace Command

/-- The arguments of a download. -/
def downloadSpec : ArgumentSpec where
  positionals := [("bucket", .text), ("object", .text)]
  options := [⟨"output", some 'o', some .path⟩, ⟨"generation", none, some .integer⟩,
    ⟨"user-project", none, some .text⟩, ⟨"encryption-key", none, some .text⟩,
    ⟨"resume", none, none⟩]

/-- The arguments of segmenting. -/
def segmentSpec : ArgumentSpec where
  positionals := [("path", .path)]
  options := [⟨"max-segment-size", none, some .size⟩, ⟨"buffer-size", none, some .size⟩,
    ⟨"no-crc32c", none, none⟩]

/-- The arguments of a checksum. -/
def checksumSpec : ArgumentSpec where
  positionals := [("path", .path)]
  options := []

/-- A download from its arguments. -/
def ofDownload (s : ArgumentState) : Command := .download {
  bucket := s.text "bucket"
  object := s.text "object"
  output := s.text? "output"
  generation := (s.values.lookup "generation").bind Numeral.i64?
  userProject := s.text? "user-project"
  encryptionKey := s.text? "encryption-key"
  resume := (s.values.lookup "resume").isSome }

/-- Segmenting from its arguments. -/
def ofSegment (s : ArgumentState) : Command := .segment {
  path := s.text "path"
  maxSegmentSize := (s.values.lookup "max-segment-size").bind Numeral.u64?
  bufferSize := ((s.values.lookup "buffer-size").bind Numeral.u64?).getD 65536
  withoutChecksums := (s.values.lookup "no-crc32c").isSome }

/-- What follows the name of a command, if it is one. -/
def reader? (name : String) : Option (List String → Except ArgumentError Command) :=
  match name with
  | "download" => some fun args => (downloadSpec.read args).map ofDownload
  | "segment" => some fun args => (segmentSpec.read args).map ofSegment
  | "checksum" => some fun args =>
    (checksumSpec.read args).map fun s => .checksum (s.text "path")
  | _ => none

/-- Whether a word names a command; asking for help is one. -/
def isName (word : String) : Bool := word == "help" || (reader? word).isSome

/-- What asking for help about something comes to: at most one command can be named. -/
def helpAbout : List String → ArgumentError
  | [] => .help
  | [word] => if isName word then .help else .unknownCommand
  | _ => .unknownCommand

/-- What an option in the place of a command comes to. -/
def misplacedOption (s : List Char) : ArgumentError :=
  match s with
  | '-' :: rest =>
    let (name, attached) := ArgumentState.splitAttached rest
    if name = "help".toList then
      if attached.isSome then .unexpectedValue else .help
    else .unknownArgument
  | letter :: _ => if letter = 'h' then .help else .unknownArgument
  | [] => .unknownCommand

/-- Reads a command line. -/
def parse (args : List String) : Except ArgumentError Command :=
  match args with
  | [] => .error .nothing
  | "--" :: [] => .error .nothing
  | "--" :: word :: _ => .error (if isName word then .unknownArgument else .unknownCommand)
  | "help" :: words => .error (helpAbout words)
  | word :: rest =>
    match reader? word with
    | some read => read rest
    | none =>
      match word.toList with
      | '-' :: cs => .error (misplacedOption cs)
      | _ => .error .unknownCommand

end Command

end SteadyFetch
