import TokenAuthority.Number.Digits
import TokenAuthority.Text.Unprintable
import TokenAuthority.Url.Punycode

/-!
# Hosts of URLs

## Main definitions

* `UrlFault` — what is wrong with a URL, with its wording.
* `Host.domain?` — the ASCII view of an international domain name, if it is one.
* `Host.isIpv4`, `Host.isIpv6` — texts of addresses.
* `Host.check` — the fault of a host in a URL of a well-known scheme; `Host.checkOpaque` for others.

## Implementation notes

A domain is judged after percent-decoding, reading as UTF-8, and mapping letters to lower case,
wide forms to ASCII and the invisible joiners to nothing. A domain whose last label is a number has
to be an IPv4 address.
-/

set_option autoImplicit false

namespace TokenAuthority

/-- What is wrong with a URL. -/
inductive UrlFault where
  | relativeWithoutBase
  | emptyHost
  | invalidPort
  | invalidIpv4
  | invalidIpv6
  | invalidDomain
  | invalidHostCharacter
deriving DecidableEq

/-- The wording of a fault. -/
def UrlFault.message : UrlFault → String
  | .relativeWithoutBase => "relative URL without a base"
  | .emptyHost => "empty host"
  | .invalidPort => "invalid port number"
  | .invalidIpv4 => "invalid IPv4 address"
  | .invalidIpv6 => "invalid IPv6 address"
  | .invalidDomain => "invalid international domain name"
  | .invalidHostCharacter => "invalid domain character"

namespace Host

/-! ## Domains -/

/-- The bytes of a text with the percent escapes resolved. -/
def percentDecode : List UInt8 → List UInt8
  | 0x25 :: a :: b :: rest =>
    match hexValue? (Char.ofNat a.toNat), hexValue? (Char.ofNat b.toNat) with
    | some x, some y => UInt8.ofNat (x * 16 + y) :: percentDecode rest
    | _, _ => 0x25 :: percentDecode (a :: b :: rest)
  | b :: rest => b :: percentDecode rest
  | [] => []

/-- Characters that a domain name drops. -/
def isDropped (c : Char) : Bool :=
  let n := c.toNat
  n == 0xAD || n == 0x34F || (0x180B ≤ n && n ≤ 0x180F) || n == 0x200B || n == 0x2060 ||
    n == 0x2064 || (0xFE00 ≤ n && n ≤ 0xFE0F) || n == 0xFEFF || (0x1BCA0 ≤ n && n ≤ 0x1BCA3) ||
    (0xE0100 ≤ n && n ≤ 0xE01EF)

/-- What a domain name holds for a character: ASCII letters in lower case, wide forms and
ideographic full stops as ASCII, dropped characters not at all. -/
def mapped (c : Char) : List Char :=
  let n := c.toNat
  if isDropped c then []
  else if n == 0x3002 || n == 0xFF61 then ['.']
  else if 0xFF01 ≤ n && n ≤ 0xFF5E then [(Char.ofNat (n - 0xFEE0)).toLower]
  else if n == 0xB2 || n == 0xB3 then [Char.ofNat (n - 0x80)]
  else if n == 0xB9 then ['1']
  else [c.toLower]

/-- The ASCII characters that no domain name holds: controls, the blank, and delimiters. -/
def isDenied (c : Char) : Bool :=
  c.toNat ≤ 0x20 || c.toNat == 0x7F || "%#/:<>?@[\\]^`\x7b|\x7d".toList.contains c

/-- Characters beyond ASCII that no domain name holds. The two joiners are let through. -/
def isForbidden (c : Char) : Bool :=
  0x80 ≤ c.toNat && isHidden c && c.toNat != 0x200C && c.toNat != 0x200D

/-- Letters and figures of scripts that are written from right to left. -/
def isRightToLeft (c : Char) : Bool :=
  let n := c.toNat
  !isMark c && ((0x590 ≤ n && n ≤ 0x8FF) || (0xFB1D ≤ n && n ≤ 0xFDFF) ||
    (0xFE70 ≤ n && n ≤ 0xFEFE) || (0x10800 ≤ n && n ≤ 0x10FFF) || (0x1E800 ≤ n && n ≤ 0x1EFFF))

/-- Figures of scripts that are written from right to left. No label with letters or figures of such
scripts starts with one. -/
def isRightToLeftFigure (c : Char) : Bool :=
  let n := c.toNat
  (0x600 ≤ n && n ≤ 0x605) || (0x660 ≤ n && n ≤ 0x669) || n == 0x66B || n == 0x66C || n == 0x6DD

/-- The direction of a label is one: it does not mix scripts of both directions. -/
def hasOneDirection (label : List Char) : Bool :=
  if label.any isRightToLeft then
    label.head?.all (fun c => isRightToLeft c && !isRightToLeftFigure c) &&
      !label.any fun c => c.isAlpha
  else true

/-- The label in characters, whether it is written so or encoded. -/
def unicodeLabel? (label : List Char) : Option (List Char) :=
  match label with
  | 'x' :: 'n' :: '-' :: '-' :: encoded => do
    guard (label.all fun c => c.toNat < 0x80)
    let cs ← Punycode.decode? encoded
    guard (cs.any (0x80 ≤ ·.toNat) && cs.all fun c =>
      mapped c == [c] && !isForbidden c && !(c.toNat < 0x80 && isDenied c))
    some cs
  | label => some label

/-- A label in characters is admissible. -/
def isLabel (label : List Char) : Bool :=
  !(label.any (0x80 ≤ ·.toNat) && label.head?.any isMark) && hasOneDirection label

/-- The mapped form of a domain name, if it is one. -/
def domain? (bytes : List UInt8) : Option (List Char) := do
  let s ← String.fromUTF8? ⟨(percentDecode bytes).toArray⟩
  let cs := s.toList.flatMap mapped
  guard (!cs.any fun c => isForbidden c || (c.toNat < 0x80 && isDenied c))
  let labels ← (cs.splitOn '.').mapM unicodeLabel?
  guard (labels.all isLabel)
  some cs

/-! ## Addresses -/

/-- A number of an IPv4 address: none if the text is no number, `some none` if it has more than 32
bits. -/
def ipv4Number? (cs : List Char) : Option (Option Nat) :=
  let (base, digits) := match cs with
    | '0' :: 'x' :: rest | '0' :: 'X' :: rest => (16, rest)
    | '0' :: c :: rest => (8, c :: rest)
    | cs => (10, cs)
  if cs.isEmpty then none
  else
    let value := digits.foldl (fun n c => do
      let d ← hexValue? c
      if d < base then some ((← n) * base + d) else none) (some 0)
    value.map fun n => if n < Nat.pow 2 32 then some n else none

/-- The last label that is not empty is a number. -/
def endsInNumber (cs : List Char) : Bool :=
  let parts := (cs.splitOn '.').reverse
  let last := match parts with
    | [] :: last :: _ => some last
    | [] :: [] => none
    | last :: _ => some last
    | [] => none
  match last with
  | none => false
  | some last => (!last.isEmpty && last.all Char.isDigit) || (ipv4Number? last).isSome

/-- The text of an IPv4 address: at most four numbers, of which the last one fills what the others
leave. -/
def isIpv4 (cs : List Char) : Bool :=
  let parts := cs.splitOn '.'
  let parts := if parts.getLast? == some [] then parts.dropLast else parts
  if 4 < parts.length then false
  else
    match parts.mapM fun part => (ipv4Number? part).bind id with
    | none => false
    | some numbers =>
      match numbers.reverse with
      | [] => false
      | last :: others => last < Nat.pow 2 (32 - 8 * others.length) && others.all (· ≤ 255)

/-- The rest of an IPv6 address from its IPv4 part on: four figures below 256. -/
def isIpv4Tail (cs : List Char) : Bool :=
  let parts := cs.splitOn '.'
  parts.length == 4 && parts.all fun part =>
    !part.isEmpty && part.all Char.isDigit && part.length ≤ 3 && digitsValue part ≤ 255 &&
      !(1 < part.length && part.head? == some '0')

/-- Reads the pieces of an IPv6 address: how many there are, and whether a gap has been met. -/
def ipv6Pieces : Nat → List Char → Nat → Bool → Bool
  | 0, _, _, _ => false
  | _ + 1, [], pieces, gap => gap || pieces == 8
  | fuel + 1, cs, pieces, gap =>
    if pieces == 8 then false
    else
      match cs with
      | ':' :: rest => if gap then false else ipv6Pieces fuel rest (pieces + 1) true
      | cs =>
        let digits := (cs.take 4).takeWhile fun c => (hexValue? c).isSome
        match cs.drop digits.length with
        | [] => ipv6Pieces fuel [] (pieces + 1) gap
        | '.' :: _ =>
          if digits.isEmpty || 6 < pieces then false
          else isIpv4Tail cs && (gap || pieces + 2 == 8)
        | ':' :: rest => if rest.isEmpty then false else ipv6Pieces fuel rest (pieces + 1) gap
        | _ => false

/-- The text of an IPv6 address, without its brackets. -/
def isIpv6 (cs : List Char) : Bool :=
  match cs with
  | [] | [_] => false
  | ':' :: ':' :: rest => ipv6Pieces (cs.length + 1) rest 1 true
  | ':' :: _ => false
  | cs => ipv6Pieces (cs.length + 1) cs 0 false

/-! ## Hosts -/

/-- The address between brackets is an IPv6 address. -/
def checkBracketed (cs : List Char) : Option UrlFault :=
  if cs.getLast? == some ']' && isIpv6 (cs.drop 1).dropLast then none else some .invalidIpv6

/-- The fault of a host in a URL of a well-known scheme. -/
def check (cs : List Char) : Option UrlFault :=
  match cs with
  | '[' :: _ => checkBracketed cs
  | cs =>
    match domain? (String.ofList cs).toUTF8.toList with
    | none => some .invalidDomain
    | some domain =>
      if domain.isEmpty then some .emptyHost
      else if endsInNumber domain && !isIpv4 domain then some .invalidIpv4
      else none

/-- The fault of a host in a URL of another scheme. -/
def checkOpaque (cs : List Char) : Option UrlFault :=
  match cs with
  | '[' :: _ => checkBracketed cs
  | cs =>
    if cs.any fun c => "\x00\t\n\r #/:<>?@[\\]^|".toList.contains c then some .invalidHostCharacter
    else none

end Host

end TokenAuthority
