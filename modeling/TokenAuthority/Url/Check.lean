import TokenAuthority.Url.Host

/-!
# Absolute URLs

Whether a text is an absolute URL, and if not, what is wrong with it.

## Main definitions

* `Url.fault?` — the first fault of a text as an absolute URL.

## Implementation notes

Controls and blanks at the ends of the text, and tabs and line breaks anywhere, do not count. After
the scheme a well-known scheme has a host behind any number of slashes of either kind; another one
has a host only behind two slashes. Paths, queries and fragments have no faults.
-/

set_option autoImplicit false

namespace TokenAuthority.Url

/-- The kinds of schemes. -/
inductive SchemeKind where
  /-- Web schemes, which have a host. -/
  | web
  /-- Files, which may have one. -/
  | file
  | other
deriving DecidableEq

/-- The kind of a scheme in lower case. -/
def SchemeKind.ofScheme (scheme : String) : SchemeKind :=
  if ["http", "https", "ws", "wss", "ftp"].contains scheme then .web
  else if scheme == "file" then .file
  else .other

/-- A slash; in URLs of a well-known scheme also a backslash. -/
def isSlash (kind : SchemeKind) (c : Char) : Bool := c == '/' || (kind != .other && c == '\\')

/-- A character that ends the authority. -/
def endsAuthority (kind : SchemeKind) (c : Char) : Bool := isSlash kind c || c == '?' || c == '#'

/-- The text without what does not count: controls and blanks at its ends, tabs and line breaks. -/
def significant (s : String) : List Char :=
  let outer (c : Char) : Bool := c.toNat ≤ 0x20
  let cs := ((s.toList.dropWhile outer).reverse.dropWhile outer).reverse
  cs.filter fun c => c != '\t' && c != '\n' && c != '\r'

/-- A character of a scheme after the first. -/
def isSchemeChar (c : Char) : Bool := c.isAlphanum || c == '+' || c == '-' || c == '.'

/-- The scheme of a text, in lower case, and what follows its colon. -/
def scheme? (cs : List Char) : Option (String × List Char) :=
  match cs with
  | [] => none
  | c :: _ =>
    if !c.isAlpha then none
    else
      match cs.dropWhile isSchemeChar with
      | ':' :: rest => some (String.ofList ((cs.takeWhile isSchemeChar).map Char.toLower), rest)
      | _ => none

/-- The host at the start of a text: up to a slash, a query, a fragment, or a colon outside
brackets. -/
def takeHost (kind : SchemeKind) : Bool → List Char → List Char × List Char
  | _, [] => ([], [])
  | bracketed, c :: rest =>
    if endsAuthority kind c || (c == ':' && !bracketed) then ([], c :: rest)
    else
      let bracketed := c == '[' || (bracketed && c != ']')
      let (host, after) := takeHost kind bracketed rest
      (c :: host, after)

/-- The fault of what stands behind the colon of a host. -/
def portFault? (kind : SchemeKind) : Nat → List Char → Option UrlFault
  | _, [] => none
  | port, c :: rest =>
    if c.isDigit then
      let port := port * 10 + (c.toNat - 0x30)
      if 65535 < port then some .invalidPort else portFault? kind port rest
    else if c == '/' || c == '\\' || c == '?' || c == '#' then none
    else some .invalidPort

/-- What a text has behind the last at-sign of its authority, and whether something other than
nothing stands in front of that sign. -/
def afterUserinfo (kind : SchemeKind) (cs : List Char) : Bool × Option (List Char) :=
  let authority := cs.takeWhile fun c => !endsAuthority kind c
  let userinfo := ((authority.reverse.dropWhile (· != '@')).drop 1).reverse
  if authority.contains '@' then (!userinfo.isEmpty, some (cs.drop (userinfo.length + 1)))
  else (false, none)

/-- The fault of an authority: user, host and port. -/
def authorityFault? (kind : SchemeKind) (cs : List Char) : Option UrlFault :=
  let (hasUser, after) := afterUserinfo kind cs
  let rest := after.getD cs
  if !hasUser && after.isSome && rest.head?.any (endsAuthority kind) then some .emptyHost
  else
    let (host, rest) := takeHost kind false rest
    let hostFault :=
      if kind == .web then if host.isEmpty then some .emptyHost else Host.check host
      else Host.checkOpaque host
    match hostFault with
    | some fault => some fault
    | none =>
      if host.isEmpty && rest.head? == some ':' then some .emptyHost
      else
        let portFault := match rest with
          | ':' :: port => portFault? kind 0 port
          | _ => none
        match portFault with
        | some fault => some fault
        | none => if host.isEmpty && hasUser then some .emptyHost else none

/-- A letter and a colon or a bar: the name of a drive. -/
def isDrive (cs : List Char) : Bool :=
  match cs with
  | [c, d] => c.isAlpha && (d == ':' || d == '|')
  | _ => false

/-- The fault of what follows the colon of a file URL: a host behind two slashes, unless it is empty
or the name of a drive. -/
def fileFault? (cs : List Char) : Option UrlFault :=
  match cs with
  | a :: b :: rest =>
    if isSlash .file a && isSlash .file b then
      let host := rest.takeWhile fun c => !endsAuthority .file c
      if host.isEmpty || isDrive host then none else Host.check host
    else none
  | _ => none

/-- The first fault of a text as an absolute URL; none if it is one. -/
def fault? (s : String) : Option UrlFault :=
  match scheme? (significant s) with
  | none => some .relativeWithoutBase
  | some (scheme, rest) =>
    match SchemeKind.ofScheme scheme with
    | .web => authorityFault? .web (rest.dropWhile (isSlash .web))
    | .file => fileFault? rest
    | .other =>
      match rest with
      | '/' :: '/' :: rest => authorityFault? .other rest
      | _ => none

end TokenAuthority.Url
