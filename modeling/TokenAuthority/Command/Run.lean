import TokenAuthority.Command.Invocation
import TokenAuthority.Grant.Issue
import TokenAuthority.Jwt.Verification
import TokenAuthority.Settings.Load

/-!
# Running a command

A run depends on the arguments and on what surrounds the program, and ends in two texts and a
status.

## Main definitions

* `Surroundings` — files, input, environment, time, and the identifier of a token to be issued.
* `CommandError` — why a command fails, with its wording.
* `Outcome` — what a run leaves behind.
* `claimsTable` — claims as lines of name and value.
* `Command.run` — runs the program.
-/

set_option autoImplicit false

namespace TokenAuthority

open Json

/-- Why a file cannot be read. -/
inductive FileFault where
  | missing
  | directory
  | notText
  | other (text : String)
deriving DecidableEq

/-- The wording of a fault. -/
def FileFault.message : FileFault → String
  | .missing => "No such file or directory (os error 2)"
  | .directory => "Is a directory (os error 21)"
  | .notText => "stream did not contain valid UTF-8"
  | .other text => text

/-- What surrounds a run. -/
structure Surroundings where
  /-- The content of a file. -/
  file : String → Except FileFault String
  /-- The standard input. -/
  input : String
  /-- The environment variables. -/
  environment : List (String × String)
  now : Instant
  /-- The identifier of a token that is issued. -/
  jti : String

/-- Why a command fails. -/
inductive CommandError where
  | settings (cause : SettingsError)
  | keyFile (path : String) (fault : FileFault)
  | publicKey (cause : JwtError)
  | privateKey (cause : JwtError)
  | rsaKey (cause : JwtError)
  | verification (cause : JwtError)
  | issuer (expected found : String)
  | grant (cause : AuthError)
  /-- The token that was just issued does not verify. -/
  | issued (cause : JwtError)

/-- The wording of an error. -/
def CommandError.message : CommandError → String
  | .settings cause => "Failed to load settings: " ++ cause.message
  | .keyFile path fault => "Failed to read key " ++ path ++ ": " ++ fault.message
  | .publicKey cause => "Invalid public key: " ++ cause.message
  | .privateKey cause => "Invalid private key: " ++ cause.message
  | .rsaKey cause => "Invalid RSA key: " ++ cause.message
  | .verification cause => "Token verification failed: " ++ cause.message
  | .issuer expected found => "Issuer mismatch: expected " ++ expected ++ ", got " ++ found
  | .grant cause => cause.message
  | .issued cause => "Issued token failed verification: " ++ cause.message

/-- What a run leaves behind. -/
structure Outcome where
  /-- The exit status. -/
  status : Nat := 0
  /-- The standard output. -/
  output : String := ""
  /-- The standard error output. -/
  notes : String := ""
deriving DecidableEq

namespace Command

/-! ## Output -/

/-- A JSON value on several lines. -/
def jsonLines (v : Value) : String := v.indentedText ++ "\n"

/-- The value of a claim: a text as it is, anything else as JSON. -/
def claimText : Value → String
  | .str s => s
  | v => v.text

/-- A name with blanks up to a width. -/
def padded (width : Nat) (name : String) : String :=
  name ++ String.ofList (List.replicate (width - name.length) ' ')

/-- Claims as lines of name and value. The values stand in one column, to the right of a name with
as many characters as the longest one has bytes. -/
def claimsTable (claims : List (String × Value)) : String :=
  let width := (claims.map fun c => c.1.utf8ByteSize).foldl max 0
  String.join (claims.map fun c => padded width c.1 ++ "  " ++ claimText c.2 ++ "\n")

/-- The claims of a token in a format. -/
def claimsText (t : Jwt) : OutputFormat → String
  | .json => jsonLines (.obj t.claims)
  | .table => if t.isEmpty then "(empty token)\n" else claimsTable t.claims

/-! ## Commands -/

/-- The text of a key file. -/
def readKey (s : Surroundings) (path : String) : Except CommandError String :=
  (s.file path).mapError (.keyFile path)

/-- What a token is called by its type. -/
def kindText (type : String) : String := if type.isEmpty then "untyped" else type

/-- Verifies a token and shows its claims. -/
def runDecode (args : DecodeArgs) (format : OutputFormat) (s : Surroundings) :
    Except CommandError Outcome := do
  let token := trimBlank (if args.token == "-" then s.input else args.token)
  let pem ← readKey s args.publicKey
  let key ← (verificationKeyOfPem pem).mapError .publicKey
  let t ← (decodeToken token key (!args.noExpiryCheck) s.now).mapError .verification
  match args.issuer with
  | none => pure ()
  | some issuer =>
    if !t.isEmpty && !t.isIssuedBy issuer then throw (.issuer issuer (t.string "iss"))
  pure {
    output := claimsText t format
    notes := if t.isEmpty then "" else "✓ Signature valid (" ++ kindText t.type ++ " token)\n" }

/-- The file of settings, if there is one of the name. -/
def configFile (s : Surroundings) (path : Option String) :
    Except SettingsError (Option Config.File) :=
  match path with
  | none => .ok none
  | some path =>
    match s.file path with
    | .ok content => .ok (some ⟨path, content⟩)
    | .error .missing => .ok none
    | .error _ => .error .unreadable

/-- The settings of a run. -/
def loadSettings (s : Surroundings) (path : Option String) : Except SettingsError Settings := do
  Settings.load (← configFile s path) s.environment

/-- Issues a token to a client in its own name. -/
def runIssue (args : IssueArgs) (format : OutputFormat) (s : Surroundings) :
    Except CommandError Outcome := do
  let settings ← (loadSettings s args.config).mapError .settings
  let pem ← readKey s args.privateKey
  let pair : KeyPair := ⟨1, args.keyId, pem, ""⟩
  let key ← pair.verificationKey.mapError .privateKey
  let client : Client := {
    id := 1, identifier := args.clientId, tokenExpiration := args.tokenExpiration.getD 0 }
  let store := (({} : Store).insertClient client).setSigningKey pair
  let response ←
    (TokenAuthority.clientCredentials store settings s.now s.jti client args.scope).mapError .grant
  match format with
  | .json => pure { output := jsonLines (TokenResponse.record.codec.write response) }
  | .table =>
    let decoded ← (decodeResponse response key s.now).mapError .issued
    pure { output := (decoded.access.map fun t => claimsText t format).getD "" }

/-- The text holds a word. -/
def mentions (text word : String) : Bool := (text.splitOn word).length != 1

/-- Publishes a key. -/
def runPublish (args : PublishArgs) (s : Surroundings) : Except CommandError Outcome := do
  let pem ← readKey s args.key
  let pair : KeyPair :=
    if mentions pem "PRIVATE KEY" then ⟨0, args.keyId, pem, ""⟩ else ⟨0, args.keyId, "", pem⟩
  let jwk ← pair.toJwk.mapError .rsaKey
  pure { output := jsonLines (Jwks.record.codec.write ⟨[jwk]⟩) }

/-- Runs a command. -/
def perform (invocation : Invocation) (s : Surroundings) : Except CommandError Outcome :=
  match invocation.command with
  | .decode args => runDecode args invocation.format s
  | .clientCredentials args => runIssue args invocation.format s
  | .jwks args => runPublish args s

/-- What an early end of reading arguments leaves behind. -/
def interrupted : Interrupt → Outcome
  | .misuse => { status := 2, notes := usage }
  | .help => { output := usage }
  | .version => { output := versionLine }

/-- What a failed command leaves behind. -/
def failed (e : CommandError) : Outcome := { status := 1, notes := "✗ " ++ e.message ++ "\n" }

/-- What a command leaves behind. -/
def outcomeOf (invocation : Invocation) (s : Surroundings) : Outcome :=
  match perform invocation s with
  | .error e => failed e
  | .ok outcome => outcome

/-- Runs the program on its arguments. -/
def run (args : List String) (s : Surroundings) : Outcome :=
  match Invocation.ofArguments args with
  | .error e => interrupted e
  | .ok invocation => outcomeOf invocation s

/-! ## What a run reads -/

/-- The files that a command may read. -/
def files : Command → List String
  | .decode args => [args.publicKey]
  | .clientCredentials args => args.config.toList ++ [args.privateKey]
  | .jwks args => [args.key]

/-- The command reads the input. -/
def readsInput : Command → Bool
  | .decode args => args.token == "-"
  | _ => false

end Command

end TokenAuthority
