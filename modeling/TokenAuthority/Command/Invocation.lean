import TokenAuthority.Command.Options

/-!
# The commands

## Main definitions

* `Command` — the three commands with their arguments.
* `Invocation` — a command and the format of its output.
* `Invocation.ofArguments` — reads the arguments of the program.
* `usage` — the help text.
-/

set_option autoImplicit false

namespace TokenAuthority

/-- The format of output. -/
inductive OutputFormat where
  | json
  | table
deriving DecidableEq

/-- The arguments for verifying a token. -/
structure DecodeArgs where
  /-- The compact token; a hyphen asks for reading it from the input. -/
  token : String
  /-- The file of the public key. -/
  publicKey : String
  /-- Expired tokens are accepted, and tokens without an expiry. -/
  noExpiryCheck : Bool
  /-- The issuer that the token has to name. -/
  issuer : Option String

/-- The arguments for issuing a token to a client. -/
structure IssueArgs where
  /-- The file of the settings. -/
  config : Option String
  clientId : String
  scope : String
  /-- The file of the private key. -/
  privateKey : String
  /-- The name of the key in tokens. -/
  keyId : String
  /-- The lifetime of access tokens of this client. -/
  tokenExpiration : Option Int

/-- The arguments for publishing a key. -/
structure PublishArgs where
  /-- The file of the key, which may be a public or a private one. -/
  key : String
  /-- The name of the key. -/
  keyId : String

/-- A command with its arguments. -/
inductive Command where
  | decode (args : DecodeArgs)
  | clientCredentials (args : IssueArgs)
  | jwks (args : PublishArgs)

/-- A command and the format of its output. -/
structure Invocation where
  command : Command
  format : OutputFormat

namespace Command

/-- The name of the program. -/
def programName : String := "authserver-token"

/-- The line that tells name and version. -/
def versionLine : String := programName ++ " 0.1.0\n"

/-- The help text. -/
def usage : String := String.intercalate "\n" [
  "Issue and inspect authserver tokens",
  "",
  "Usage: " ++ programName ++ " [OPTIONS] <COMMAND>",
  "",
  "Commands:",
  "  decode              Verify a token and print its claims",
  "  client-credentials  Issue a client-credentials token response",
  "  jwks                Print the JWKS of a signing key",
  "  help                Print this message",
  "",
  "Options:",
  "      --log-level <LOG_LEVEL>  Log filter [default: warn]",
  "  -f, --format <FORMAT>        Output format [possible values: json, table]",
  "  -h, --help                   Print help",
  "  -V, --version                Print version",
  ""]

/-! ## Options -/

/-- The options that may stand before a command and behind it. -/
def globalOptions : List OptionSpec :=
  [⟨"log-level", none, .text⟩, ⟨"format", some 'f', .choice ["json", "table"]⟩,
    ⟨"help", some 'h', .help⟩]

/-- The place before a command. -/
def rootLevel : Level := ⟨globalOptions ++ [⟨"version", some 'V', .version⟩], .subcommand⟩

/-- The place behind `decode`. -/
def decodeLevel : Level :=
  ⟨globalOptions ++ [⟨"public-key", none, .path⟩, ⟨"no-exp-check", none, .switch⟩,
    ⟨"issuer", none, .text⟩], .arguments 1⟩

/-- The place behind `client-credentials`. -/
def issueLevel : Level :=
  ⟨globalOptions ++ [⟨"config", some 'c', .path⟩, ⟨"client-id", none, .text⟩,
    ⟨"scope", none, .text⟩, ⟨"private-key", none, .path⟩, ⟨"key-id", none, .text⟩,
    ⟨"token-expiration", none, .integer⟩], .arguments 0⟩

/-- The place behind `jwks`. -/
def publishLevel : Level :=
  ⟨globalOptions ++ [⟨"key", none, .path⟩, ⟨"key-id", none, .text⟩], .arguments 0⟩

/-- The name that keys have unless another one is given. -/
def defaultKeyId : String := "default"

/-! ## Reading arguments -/

/-- The value of an option that has to be given. -/
def required (g : Given) (name : String) : Except Interrupt String :=
  match g.value? name with
  | some value => .ok value
  | none => .error .misuse

/-- Reads the arguments of `decode`. -/
def decodeArgs (g : Given) : Except Interrupt Command :=
  match g.words with
  | [token] => do
    let publicKey ← required g "public-key"
    pure (.decode ⟨token, publicKey, g.has "no-exp-check", g.value? "issuer"⟩)
  | _ => .error .misuse

/-- Reads the arguments of `client-credentials`. -/
def issueArgs (g : Given) : Except Interrupt Command := do
  let clientId ← required g "client-id"
  let scope ← required g "scope"
  let privateKey ← required g "private-key"
  pure (.clientCredentials {
    config := g.value? "config"
    clientId := clientId
    scope := scope
    privateKey := privateKey
    keyId := (g.value? "key-id").getD defaultKeyId
    tokenExpiration := (g.value? "token-expiration").bind fun n => word? n.toList })

/-- Reads the arguments of `jwks`. -/
def publishArgs (g : Given) : Except Interrupt Command := do
  let key ← required g "key"
  pure (.jwks ⟨key, (g.value? "key-id").getD defaultKeyId⟩)

/-- The commands by name, with the place behind each of them and the reader of its arguments. -/
def commands : List (String × Level × (Given → Except Interrupt Command)) :=
  [("decode", decodeLevel, decodeArgs), ("client-credentials", issueLevel, issueArgs),
    ("jwks", publishLevel, publishArgs)]

/-- The format that was asked for. -/
def formatOf? (g : Given) : Option OutputFormat :=
  (g.value? "format").map fun name => if name == "table" then .table else .json

end Command

open Command in
/-- Reads the arguments of the program. A format behind the command counts more than one before
it. -/
def Invocation.ofArguments (args : List String) : Except Interrupt Invocation := do
  let (before, rest) ← rootLevel.read {} args
  match rest with
  | [] => throw .misuse
  | name :: rest =>
    if name == "help" then throw .help
    let some (level, readArgs) := commands.lookup name | throw .misuse
    let (given, _) ← level.read {} rest
    let command ← readArgs given
    pure ⟨command, ((formatOf? given).or (formatOf? before)).getD .json⟩

end TokenAuthority
