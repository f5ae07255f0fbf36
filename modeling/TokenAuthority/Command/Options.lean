import TokenAuthority.Number.Decimal

/-!
# Options of a command line

Arguments are options and plain words. An option is written `--name value`, `--name=value`,
`-n value`, `-nvalue` or `-n=value`; one without a value is written `--name`. What follows `--` is
plain. An argument that starts with a hyphen is never taken for the value of an option, unless it is
the hyphen alone.

## Main definitions

* `OptionKind`, `OptionSpec` — the options that are known at a place.
* `Interrupt` — why reading arguments ends early.
* `Given` — the options and the plain words that were given.
* `Level.read` — reads arguments, up to a subcommand where there may be one.
-/

set_option autoImplicit false

namespace TokenAuthority.Command

/-- What an option may be given. -/
inductive OptionKind where
  /-- Nothing: the option is a switch. -/
  | switch
  | text
  /-- The name of a file, which is not empty. -/
  | path
  /-- An integer of 64 bits. -/
  | integer
  /-- One of some words. -/
  | choice (words : List String)
  /-- Nothing: the option asks for the help text. -/
  | help
  /-- Nothing: the option asks for the version. -/
  | version
deriving DecidableEq

/-- An option: `name` with two hyphens, `letter` with one. -/
structure OptionSpec where
  name : String
  letter : Option Char := none
  kind : OptionKind := .text

/-- Why reading arguments ends early. -/
inductive Interrupt where
  /-- The arguments are not understood. -/
  | misuse
  | help
  | version
deriving DecidableEq

/-- What was given: options by name, and plain words. -/
structure Given where
  options : List (String × String) := []
  words : List String := []

/-- The value that an option was given. -/
def Given.value? (g : Given) (name : String) : Option String := g.options.lookup name

/-- An option was given. -/
def Given.has (g : Given) (name : String) : Bool := (g.value? name).isSome

/-- The form of an argument. -/
inductive Form where
  /-- Two hyphens alone. -/
  | divider
  /-- The name of an option, and the value behind an equals sign. -/
  | long (name : String) (value : Option String)
  /-- The letter of an option, and what stands behind it. -/
  | short (letter : Char) (more : List Char)
  | plain

/-- The text behind the first equals sign. -/
def attachedValue? (cs : List Char) : Option String :=
  match cs.dropWhile (· != '=') with
  | [] => none
  | _ :: value => some (String.ofList value)

/-- The form of an argument. -/
def formOf (arg : String) : Form :=
  match arg.toList with
  | ['-', '-'] => .divider
  | '-' :: '-' :: cs => .long (String.ofList (cs.takeWhile (· != '='))) (attachedValue? cs)
  | '-' :: c :: more => .short c more
  | _ => .plain

/-- The value that stands directly behind the letter of an option; an equals sign may come first. -/
def valueBehind? : List Char → Option String
  | [] => none
  | '=' :: more => some (String.ofList more)
  | more => some (String.ofList more)

/-- A value is one that an option of a kind may have. -/
def OptionKind.accepts (kind : OptionKind) (value : String) : Bool :=
  match kind with
  | .text => true
  | .path => !value.isEmpty
  | .integer => (word? value.toList).isSome
  | .choice words => words.contains value
  | .switch | .help | .version => false

/-- Options of a kind have values. -/
def OptionKind.takesValue : OptionKind → Bool
  | .switch | .help | .version => false
  | _ => true

/-- What the plain words at a place are. -/
inductive WordUse where
  /-- The first one is a subcommand, and what follows is read at its place. -/
  | subcommand
  /-- At most so many are arguments. -/
  | arguments (limit : Nat)

/-- A place in a command line: the options that are known there, and the use of plain words. -/
structure Level where
  options : List OptionSpec
  wordUse : WordUse

namespace Level

/-- The option of a name. -/
def named? (level : Level) (name : String) : Option OptionSpec :=
  level.options.find? fun o => o.name == name

/-- The option of a letter. -/
def lettered? (level : Level) (letter : Char) : Option OptionSpec :=
  level.options.find? fun o => o.letter == some letter

/-- Notes an option with its value; no option may be given twice. -/
def note (g : Given) (option : OptionSpec) (value : String) : Except Interrupt Given :=
  if g.has option.name || !option.kind.accepts value then .error .misuse
  else .ok { g with options := (option.name, value) :: g.options }

/-- Notes an option without a value. -/
def noteBare (g : Given) (option : OptionSpec) : Except Interrupt Given :=
  match option.kind with
  | .help => .error .help
  | .version => .error .version
  | _ =>
    if g.has option.name then .error .misuse
    else .ok { g with options := (option.name, "") :: g.options }

/-- Notes plain words, of which there must not be too many. -/
def noteWords (level : Level) (g : Given) (words : List String) : Except Interrupt Given :=
  let g := { g with words := g.words ++ words }
  match level.wordUse with
  | .subcommand => if g.words.isEmpty then .ok g else .error .misuse
  | .arguments limit => if g.words.length ≤ limit then .ok g else .error .misuse

/-- Reads arguments after what was given. The arguments that are left start with a subcommand. -/
def read (level : Level) (g : Given) : List String → Except Interrupt (Given × List String)
  | [] => .ok (g, [])
  | arg :: rest =>
    let form := formOf arg
    let found : Option (OptionSpec × Option String) :=
      match form with
      | .long name value => (level.named? name).map fun o => (o, value)
      | .short letter more => (level.lettered? letter).map fun o =>
        (o, if o.kind.takesValue then valueBehind? more else none)
      | _ => none
    match form, found with
    | .divider, _ => (level.noteWords g rest).map fun g => (g, [])
    | .plain, _ =>
      match level.wordUse with
      | .subcommand => .ok (g, arg :: rest)
      | .arguments _ => do read level (← level.noteWords g [arg]) rest
    | _, none => .error .misuse
    | _, some (option, some value) =>
      if option.kind.takesValue then do read level (← note g option value) rest
      else .error .misuse
    | _, some (option, none) =>
      if option.kind.takesValue then
        match rest with
        | [] => .error .misuse
        | value :: rest =>
          match formOf value with
          | .plain => do read level (← note g option value) rest
          | _ => .error .misuse
      else do read level (← noteBare g option) rest

end Level

end TokenAuthority.Command
