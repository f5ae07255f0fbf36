import Mathlib.Data.List.Basic
import Mathlib.Tactic.Lemma
import TokenAuthority.Grant.Issue

/-!
# A server at work

The grants and the operations of the store, carried out one after the other on one store under a
clock. What is proved of every run holds of every order in which requests arrive.

## Main definitions

* `TokenAuthority.RecordUpdate` — the operations on clients, users, groups, codes, sessions and the
  signing key.
* `TokenAuthority.Operation` — a grant, a revocation, a change of the clock or of a record.
* `TokenAuthority.Server.step` — the answer of an operation, and the server after it.
* `TokenAuthority.Run` — a run of a server: the operations with their answers, in order.
* `TokenAuthority.Event.IsRefresh` — an operation of a run is a refresh that has succeeded.
* `TokenAuthority.Server.Admits` — the identifier of the new refresh token is fresh, and the row
  that comes with a refresh is a copy of one that the store holds or has held.
* `TokenAuthority.Server.AdmitsCurrent` — moreover, the row is the one that the store holds.

## Main results

* `TokenAuthority.Run.invariant` — what an operation preserves, a run preserves.
* `TokenAuthority.Run.trans` — runs can be put one after the other.

## Design

A refresh does not read its row from the store: the caller does, and another request may come in
between. A server therefore remembers every row as it stood before every operation, so that a
request may carry a copy of any age.
-/

set_option autoImplicit false

namespace TokenAuthority

/-- An operation on the records beside the rows of refresh tokens. -/
inductive RecordUpdate where
  | insertClient (client : Client)
  | insertUser (user : User)
  | insertGroup (group : Group)
  | addUserToGroup (user group : Int)
  | setGroupAttributes (group : Int) (attributes : List Attribute)
  | setUserAttributes (user : Int) (attributes : List Attribute)
  | createCode (code : Code)
  | markCodeUsed (value : String)
  | insertSession (session : Session)
  | touchSession (identifier : String) (now : Instant)
  | setSigningKey (pair : KeyPair)

/-- What an operation answers when it succeeds. -/
inductive Reply where
  | done
  | found (there : Bool)
  | stored (code : Code)
  | revoked (count : Nat)
  | tokens (response : TokenResponse)

/-- The answer of an operation on the records, and the store after it. -/
def RecordUpdate.run (s : Store) : RecordUpdate → Except AuthError Reply × Store
  | insertClient client => (.ok .done, s.insertClient client)
  | insertUser user => (.ok .done, s.insertUser user)
  | insertGroup group => (.ok .done, s.insertGroup group)
  | addUserToGroup user group =>
    match s.addUserToGroup user group with
    | .error e => (.error e, s)
    | .ok t => (.ok .done, t)
  | setGroupAttributes group attributes => (.ok .done, s.setGroupAttributes group attributes)
  | setUserAttributes user attributes => (.ok .done, s.setUserAttributes user attributes)
  | createCode code => ((s.createCode code).1.map .stored, (s.createCode code).2)
  | markCodeUsed value =>
    match s.markCodeUsed value with
    | .error e => (.error e, s)
    | .ok t => (.ok .done, t)
  | insertSession session => (.ok .done, s.insertSession session)
  | touchSession identifier now =>
    match s.touchSession? identifier now with
    | none => (.ok (.found false), s)
    | some t => (.ok (.found true), t)
  | setSigningKey pair => (.ok .done, s.setSigningKey pair)

/-- An operation of a server. -/
inductive Operation where
  | exchange (settings : Settings) (ids : TokenIds) (code : Code)
  | refresh (settings : Settings) (ids : TokenIds) (request : RefreshRequest)
  | clientCredentials (settings : Settings) (jti : String) (client : Client) (scope : String)
  | revoke (jti : String)
  | revokeChain (firstJti : String)
  | setClock (now : Instant)
  | update (u : RecordUpdate)

namespace Operation

/-- The answer of an operation at an instant, and the store after it. -/
def run (s : Store) (now : Instant) : Operation → Except AuthError Reply × Store
  | exchange settings ids code =>
    let (answer, t) := exchangeCode s settings now ids code
    (answer.map .tokens, t)
  | refresh settings ids request =>
    let (answer, t) := TokenAuthority.refresh s settings now ids request
    (answer.map .tokens, t)
  | clientCredentials settings jti client scope =>
    ((TokenAuthority.clientCredentials s settings now jti client scope).map .tokens, s)
  | revoke jti => (.ok .done, s.revoke jti)
  | revokeChain firstJti => (.ok (.revoked (s.revokeChain firstJti).1), (s.revokeChain firstJti).2)
  | setClock _ => (.ok .done, s)
  | update u => u.run s

/-- An exchange hands out what it answers as tokens. -/
lemma run_exchange {s t : Store} {now : Instant} {settings : Settings} {ids : TokenIds}
    {code : Code} {answer : Except AuthError TokenResponse}
    (h : exchangeCode s settings now ids code = (answer, t)) :
    (exchange settings ids code).run s now = (answer.map .tokens, t) := by
  simp only [run, h]

/-- A refresh hands out what it answers as tokens. -/
lemma run_refresh {s t : Store} {now : Instant} {settings : Settings} {ids : TokenIds}
    {request : RefreshRequest} {answer : Except AuthError TokenResponse}
    (h : TokenAuthority.refresh s settings now ids request = (answer, t)) :
    (refresh settings ids request).run s now = (answer.map .tokens, t) := by
  simp only [run, h]

/-- The clock after an operation. -/
def clock (now : Instant) : Operation → Instant
  | setClock t => t
  | _ => now

end Operation

/-- A store under a clock. -/
structure Server where
  store : Store
  now : Instant
  /-- The rows as they stood before every operation so far. -/
  earlier : List RefreshToken

namespace Server

/-- A server with an empty store. -/
def start (now : Instant) : Server := ⟨{}, now, []⟩

/-- Every row that the store holds or has held, as it stands or stood. -/
def copies (w : Server) : List RefreshToken := w.store.rows.records ++ w.earlier

/-- The answer of an operation, and the server after it. -/
def step (w : Server) (op : Operation) : Except AuthError Reply × Server :=
  let (answer, store) := op.run w.store w.now
  (answer, ⟨store, op.clock w.now, w.copies⟩)

/-- A step in terms of what the operation does. -/
lemma step_of_run {w : Server} {op : Operation} {answer : Except AuthError Reply} {t : Store}
    (h : op.run w.store w.now = (answer, t)) :
    w.step op = (answer, ⟨t, op.clock w.now, w.copies⟩) := by
  rw [step, h]

/-- What an operation does in terms of a step. -/
lemma run_of_step {w v : Server} {op : Operation} {answer : Except AuthError Reply}
    (h : w.step op = (answer, v)) : op.run w.store w.now = (answer, v.store) := by
  cases hrun : op.run w.store w.now with
  | mk given t =>
    rw [step_of_run hrun] at h
    cases h
    rfl

/-- An identifier that may have been generated just now: it is not empty, and no row has it. -/
def Fresh (w : Server) (jti : String) : Prop := jti ≠ "" ∧ w.store.rows.has jti = false

/-- The identifier of the new refresh token is fresh, and the row that comes with a refresh is a
copy, of any age, of one that the store holds. -/
def Admits (w : Server) : Operation → Prop
  | .exchange _ ids _ => w.Fresh ids.refresh
  | .refresh _ ids request => w.Fresh ids.refresh ∧ request.stored ∈ w.copies
  | _ => True

/-- The identifier of the new refresh token is fresh, and the row that comes with a refresh is read
from the store at the time of the request. -/
def AdmitsCurrent (w : Server) : Operation → Prop
  | .exchange _ ids _ => w.Fresh ids.refresh
  | .refresh _ ids request => w.Fresh ids.refresh ∧ request.stored ∈ w.store.rows.records
  | _ => True

/-- A row that the store holds is a copy of itself. -/
lemma AdmitsCurrent.admits {w : Server} {op : Operation} (h : w.AdmitsCurrent op) :
    w.Admits op := by
  cases op with
  | refresh settings ids request => exact ⟨h.1, List.mem_append_left _ h.2⟩
  | _ => exact h

end Server

/-- An operation with its answer. -/
structure Event where
  operation : Operation
  answer : Except AuthError Reply

/-- A refresh with a request has handed out a response. -/
def Event.IsRefresh (e : Event) (request : RefreshRequest) (response : TokenResponse) : Prop :=
  ∃ settings ids, e = ⟨.refresh settings ids request, .ok (.tokens response)⟩

/-- The runs of a server in which every operation is admitted when its turn comes: the events in
order, and the server after them. -/
inductive Run (admits : Server → Operation → Prop) (start : Server) : List Event → Server → Prop
  | nil : Run admits start [] start
  | step {events : List Event} {w : Server} {op : Operation} (run : Run admits start events w)
      (admitted : admits w op) :
      Run admits start (events ++ [⟨op, (w.step op).1⟩]) (w.step op).2

namespace Run

variable {admits : Server → Operation → Prop} {start w : Server} {events : List Event}

/-- What holds at the start and is preserved by every admitted operation holds after a run. -/
theorem invariant (h : Run admits start events w) (P : Server → Prop) (h0 : P start)
    (hstep : ∀ v op, P v → admits v op → P (v.step op).2) : P w := by
  induction h with
  | nil => exact h0
  | step _ hop ih => exact hstep _ _ ih hop

/-- A run goes on with an operation of which the answer and the effect are known. -/
lemma snoc {answer : Except AuthError Reply} {t : Store} (h : Run admits start events w)
    (op : Operation) (hop : admits w op)
    (hrun : op.run w.store w.now = (answer, t)) :
    Run admits start (events ++ [⟨op, answer⟩]) ⟨t, op.clock w.now, w.copies⟩ := by
  have := h.step hop
  rwa [Server.step_of_run hrun] at this

/-- A run that goes on after another one makes one run with it. -/
theorem trans {events' : List Event} {w' : Server} (h : Run admits start events w)
    (h' : Run admits w events' w') : Run admits start (events ++ events') w' := by
  induction h' with
  | nil => simpa using h
  | step _ hop ih =>
    rw [← List.append_assoc]
    exact ih.step hop

/-- A run under a stricter condition is a run. -/
theorem mono {admits' : Server → Operation → Prop} (himp : ∀ v op, admits v op → admits' v op)
    (h : Run admits start events w) : Run admits' start events w := by
  induction h with
  | nil => exact .nil
  | step _ hop ih => exact ih.step (himp _ _ hop)

end Run

end TokenAuthority
