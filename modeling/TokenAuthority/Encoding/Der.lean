import TokenAuthority.Encoding.Base64

/-!
# DER

## Main definitions

* `Der.Block` — a block of ASN.1, as far as it is looked at; `Der.blocks?` reads all blocks of some
  bytes, with lengths in any form.
* `Der.element?` — reads one element with its length in the shortest form; `Der.sequence?`,
  `Der.unsigned?` and their like read an element of one type.
-/

set_option autoImplicit false

namespace TokenAuthority.Der

/-- The number of some bytes, the first one most significant. -/
def number (bytes : Bytes) : Nat := bytes.foldl (fun n b => n * 256 + b.toNat) 0

/-! ## Blocks of any form -/

/-- A block of ASN.1. -/
inductive Block where
  | sequence (items : List Block)
  | objectId (arcs : List Nat)
  /-- The content of a string of bits or bytes. -/
  | string (content : Bytes)
  | other

/-- Reads a number in base 128, most significant first, whose last byte is below 128. -/
def base128? : Nat → Bytes → Option (Nat × Bytes)
  | _, [] => none
  | n, b :: rest =>
    let n := n * 128 + b.toNat % 128
    if b < 128 then some (n, rest) else base128? n rest

/-- Reads all numbers of an object identifier after the first two. -/
def arcs? : Nat → Bytes → Option (List Nat)
  | _, [] => some []
  | 0, _ => none
  | fuel + 1, bytes => do
    let (n, rest) ← base128? 0 bytes
    let ns ← arcs? fuel rest
    some (n :: ns)

/-- The numbers of an object identifier; the first byte holds two of them. -/
def objectId? : Bytes → Option (List Nat)
  | [] => none
  | b :: rest => do
    let n := b.toNat
    let ns ← arcs? rest.length rest
    let (first, second) := if n < 40 then (0, n) else if n < 80 then (1, n - 40) else (2, n - 80)
    some (first :: second :: ns)

/-- Reads a length in any form of at most eight bytes. -/
def anyLength? : Bytes → Option (Nat × Bytes)
  | [] => none
  | b :: rest =>
    if b < 128 then some (b.toNat, rest)
    else
      let count := b.toNat - 128
      if 8 < count || rest.length < count then none
      else some (number (rest.take count), rest.drop count)

/-- Reads a tag: its class, its number. -/
def anyTag? : Bytes → Option (Nat × Nat × Bytes)
  | [] => none
  | b :: rest =>
    let cls := b.toNat / 64
    if b.toNat % 32 = 31 then (base128? 0 rest).map fun (n, rest) => (cls, n, rest)
    else some (cls, b.toNat % 32, rest)

/-- Reads all blocks; there has to be one. The fuel bounds the depth and the count of blocks. -/
def blocksFrom? : Nat → Bytes → Option (List Block)
  | 0, _ => none
  | fuel + 1, bytes => do
    let (cls, tag, bytes) ← anyTag? bytes
    let (length, bytes) ← anyLength? bytes
    guard (length ≤ bytes.length)
    let body := bytes.take length
    let rest := bytes.drop length
    let block : Block ←
      if cls != 0 then some .other
      else if tag == 1 then if length = 1 then some .other else none
      else if tag == 3 then
        match body with
        | [] => some (.string [])
        | unused :: bits => if bits.length * 8 < unused.toNat then none else some (.string bits)
      else if tag == 4 then some (.string body)
      else if tag == 6 then (objectId? body).map .objectId
      else if tag == 16 then (blocksFrom? fuel body).map .sequence
      else if tag == 17 then (blocksFrom? fuel body).map fun _ => .other
      else some .other
    if rest.isEmpty then some [block]
    else
      let blocks ← blocksFrom? fuel rest
      some (block :: blocks)

/-- All blocks of some bytes. -/
def blocks? (bytes : Bytes) : Option (List Block) := blocksFrom? (bytes.length + 1) bytes

mutual

/-- The first object identifier of a block, searched through sequences, for which `f` answers. -/
def Block.findObjectId? {α : Type} (f : List Nat → Option α) : Block → Option α
  | .sequence items => findObjectIdIn? f items
  | .objectId arcs => f arcs
  | _ => none

/-- The same for a list of blocks. -/
def findObjectIdIn? {α : Type} (f : List Nat → Option α) : List Block → Option α
  | [] => none
  | b :: rest => (b.findObjectId? f).or (findObjectIdIn? f rest)

end

mutual

/-- The content of the first string of bits or bytes, searched through sequences. -/
def Block.firstString? : Block → Option Bytes
  | .sequence items => firstStringIn? items
  | .string content => some content
  | _ => none

/-- The same for a list of blocks. -/
def firstStringIn? : List Block → Option Bytes
  | [] => none
  | b :: rest => b.firstString?.or (firstStringIn? rest)

end

/-! ## Elements in their shortest form -/

/-- Reads a length in its shortest form. -/
def shortLength? : Bytes → Option (Nat × Bytes)
  | [] => none
  | b :: rest =>
    if b < 128 then some (b.toNat, rest)
    else
      let count := b.toNat - 128
      if count = 0 || 4 < count || rest.length < count then none
      else
        let n := number (rest.take count)
        if n < 128 || n < Nat.pow 256 (count - 1) then none else some (n, rest.drop count)

/-- Reads one element: its tag, its content, and what follows. -/
def element? : Bytes → Option (UInt8 × Bytes × Bytes)
  | [] => none
  | tag :: rest => do
    let (length, rest) ← shortLength? rest
    guard (tag.toNat % 32 != 31 && length ≤ rest.length)
    some (tag, rest.take length, rest.drop length)

/-- Reads an element of a given tag. -/
def tagged? (tag : UInt8) (bytes : Bytes) : Option (Bytes × Bytes) := do
  let (t, content, rest) ← element? bytes
  if t = tag then some (content, rest) else none

/-- Reads a sequence. -/
def sequence? : Bytes → Option (Bytes × Bytes) := tagged? 0x30

/-- Reads a string of bytes. -/
def octets? : Bytes → Option (Bytes × Bytes) := tagged? 0x04

/-- Reads a string of bits that fills whole bytes. -/
def bits? (bytes : Bytes) : Option (Bytes × Bytes) := do
  let (content, rest) ← tagged? 0x03 bytes
  match content with
  | 0 :: bits => some (bits, rest)
  | _ => none

/-- Reads an integer that is not negative, without superfluous leading zeros. -/
def unsigned? (bytes : Bytes) : Option (Nat × Bytes) := do
  let (content, rest) ← tagged? 0x02 bytes
  match content with
  | [] => none
  | [b] => if b < 128 then some (b.toNat, rest) else none
  | 0 :: b :: more => if b < 128 then none else some (number (b :: more), rest)
  | b :: more => if b < 128 then some (number (b :: more), rest) else none

/-- Content that nothing follows. -/
def alone? {α : Type} (x : Option (α × Bytes)) : Option α :=
  match x with
  | some (a, []) => some a
  | _ => none

end TokenAuthority.Der
