import TokenAuthority.Store.Basic

/-!
# Rows of refresh tokens in the store

Rows are added and revoked, and never taken away. A row that names a predecessor is the only one
that does: which row replaced a row is kept in an index beside the rows.

## Main definitions

* `Store.createRow` — stores a row under the next number.
* `Store.successor?` — the row that replaced the row of a token.
* `Store.revoke`, `Store.revokeChain` — revoke one row, or all rows of a chain.
* `Store.chain` — the rows of a chain in the order of their numbers.
* `Store.verifyTip` — a row may be redeemed: it is the last of its chain and not revoked. A row that
  has been replaced gives its whole chain away, which is then revoked.
-/

set_option autoImplicit false

namespace TokenAuthority.Store

/-- The row of a token. -/
def row? (s : Store) (jti : String) : Option RefreshToken := s.rows.find? jti

/-- The row that replaced the row of a token. -/
def successor? (s : Store) (jti : String) : Option RefreshToken :=
  (s.successions.find? jti).bind fun next => s.row? next.jti

/-- Stores a row under the next number. No number is drawn if the predecessor has been replaced; one
is drawn, and the predecessor stays free, if the token has a row. -/
def createRow (s : Store) (row : RefreshToken) : Except AuthError RefreshToken × Store :=
  if !row.previousJti.isEmpty && s.successions.has row.previousJti then
    (.error (.alreadyRotated row.previousJti), s)
  else
    let row := { row with id := s.nextId }
    let s := { s with nextId := s.nextId + 1 }
    match s.rows.insertNew? row with
    | none => (.error (.tokenExists row.jti), s)
    | some rows =>
      let successions :=
        if row.previousJti.isEmpty then s.successions
        else s.successions.put ⟨row.previousJti, row.jti⟩
      (.ok row, { s with rows, successions })

/-- Revokes the row of a token, if there is one. -/
def revoke (s : Store) (jti : String) : Store :=
  { s with rows := s.rows.modify jti fun row => { row with revoked := true } }

/-- A row of a chain that is not revoked. -/
def isLiveIn (firstJti : String) (row : RefreshToken) : Bool :=
  row.firstJti == firstJti && !row.revoked

/-- Revokes all rows of a chain and counts those that were not revoked. -/
def revokeChain (s : Store) (firstJti : String) : Nat × Store :=
  ((s.rows.records.filter (isLiveIn firstJti)).length,
    { s with rows := ⟨s.rows.records.map fun row =>
      if row.firstJti == firstJti then { row with revoked := true } else row⟩ })

/-- The rows of a chain. Numbers rise with every row, so they are in the order of their numbers. -/
def chain (s : Store) (firstJti : String) : List RefreshToken :=
  s.rows.records.filter fun row => row.firstJti == firstJti

/-- The number of rows. -/
def rowCount (s : Store) : Nat := s.rows.size

/-- A row may be redeemed with a presented token. -/
def verifyTip (s : Store) (stored : RefreshToken) (presented : String) :
    Except AuthError Unit × Store :=
  if presented.isEmpty || stored.jti != presented then (.error .tokenMismatch, s)
  else if (s.successor? presented).isSome then
    (.error (.tokenReused presented), (s.revokeChain stored.firstJti).2)
  else if stored.revoked then (.error .tokenRevoked, s)
  else (.ok (), s)

end TokenAuthority.Store
