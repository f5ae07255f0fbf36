import Mathlib.Data.List.Basic
import Mathlib.Tactic.Lemma
import TokenAuthority.Proofs.AppendOnly

/-!
# Calls of the store

Everything that can be asked of a store, in any order and with arguments of any form: grants and
revocations, changes of the records, operations on rows, and look-ups. A call stores one record at
most, and it gives that record the number at which the counter stands.

## Main definitions

* `TokenAuthority.StoreCall` — a call of the store; `TokenAuthority.StoreCall.run` — its answer, and
  the store after it.
* `TokenAuthority.StoreCall.after`, `TokenAuthority.StoreCall.history` — the store after a list of
  calls, and the calls with their answers.
* `TokenAuthority.Store.numbers` — the numbers of the codes and rows that are stored.
* `TokenAuthority.StoreCall.issued` — the numbers of the records that calls store, in order.

## Main results

* `TokenAuthority.StoreCall.codes_run` — only two calls change the codes.
* `TokenAuthority.StoreCall.issued_spec` — numbers rise in the order in which records are stored,
  and the records that are stored keep them.
-/

set_option autoImplicit false

namespace TokenAuthority

/-- A question to the store. -/
inductive Lookup where
  | client (id : Int)
  | clientNamed (identifier : String)
  | user (id : Int)
  | relations (user : User)
  | code (value : String)
  | codeOwner (code : Code)
  | session (identifier : String)
  | signingKey
  | chain (firstJti : String)
  | rowCount

/-- What a question is answered with. -/
inductive Found where
  | client (client : Option Client)
  | user (user : Option User)
  | relations (user : User)
  | code (code : Option Code)
  | codeOwner (owner : Except AuthError (Client × User))
  | session (session : Option Session)
  | signingKey (pair : Except AuthError KeyPair)
  | chain (rows : List RefreshToken)
  | rowCount (count : Nat)

/-- The answer to a question. -/
def Lookup.answer (s : Store) : Lookup → Found
  | client id => .client (s.client? id)
  | clientNamed identifier => .client (s.clientNamed? identifier)
  | user id => .user (s.user? id)
  | relations u => .relations (s.loadRelations u)
  | code value => .code (s.code? value)
  | codeOwner c => .codeOwner (s.loadCode c)
  | session identifier => .session (s.session? identifier)
  | signingKey => .signingKey s.currentSigningKey
  | chain firstJti => .chain (s.chain firstJti)
  | rowCount => .rowCount s.rowCount

/-- A call of the store. -/
inductive StoreCall where
  | serve (now : Instant) (op : Operation)
  | rows (op : RowOperation)
  | verifyTip (stored : RefreshToken) (presented : String)
  | look (lookup : Lookup)

/-- What a call answers. -/
inductive StoreAnswer where
  | served (answer : Except AuthError Reply)
  | rows (reply : RowReply)
  | verified (answer : Except AuthError Unit)
  | found (found : Found)

/-- A call with its answer. -/
structure StoreEvent where
  call : StoreCall
  answer : StoreAnswer

namespace StoreCall

/-- The answer of a call, and the store after it. -/
def run (s : Store) : StoreCall → StoreAnswer × Store
  | serve now op => (.served (op.run s now).1, (op.run s now).2)
  | rows op => (.rows (op.run s).1, (op.run s).2)
  | verifyTip stored presented =>
    (.verified (s.verifyTip stored presented).1, (s.verifyTip stored presented).2)
  | look lookup => (.found (lookup.answer s), s)

/-- The store after calls, one after the other. -/
def after (s : Store) : List StoreCall → Store
  | [] => s
  | call :: rest => after (call.run s).2 rest

/-- Calls with their answers, one after the other. -/
def history (s : Store) : List StoreCall → List StoreEvent
  | [] => []
  | call :: rest => ⟨call, (call.run s).1⟩ :: history (call.run s).2 rest

/-- The call stores a code. -/
def create (now : Instant) (code : Code) : StoreCall := serve now (.update (.createCode code))

/-- The call marks a code as exchanged. -/
def mark (now : Instant) (value : String) : StoreCall := serve now (.update (.markCodeUsed value))

/-- The call marks the code of the value. -/
def Marks (value : String) : StoreCall → Bool
  | serve _ (.update (.markCodeUsed marked)) => marked == value
  | _ => false

end StoreCall

namespace Store

variable {s t u : Store}

/-! ## Numbers of records -/

/-- What a code or a row is stored under. -/
inductive RecordKey where
  | code (value : String)
  | row (jti : String)
deriving DecidableEq

/-- The codes and rows that are stored, by what they are stored under, with their numbers. -/
def numbers (s : Store) : List (RecordKey × Int) :=
  s.codes.records.map (fun c => (.code c.value, c.id)) ++
    s.rows.records.map fun r => (.row r.jti, r.id)

/-- The numbers of all records: those of the codes, and those of the rows. -/
lemma map_snd_numbers (s : Store) :
    s.numbers.map Prod.snd = s.codes.records.map Code.id ++ s.rows.records.map RefreshToken.id := by
  rw [numbers, List.map_append, List.map_map, List.map_map]
  rfl

/-- One record is stored at most, and it has been given the number at which the counter stood. -/
inductive Numbers (s t : Store) : Prop
  | none (hnumbers : t.numbers = s.numbers) (hid : s.nextId ≤ t.nextId)
  | one (key : RecordKey) (hfree : key ∉ s.numbers.map Prod.fst)
      (hnumbers : t.numbers.Perm ((key, s.nextId) :: s.numbers)) (hid : s.nextId < t.nextId)

/-- Nothing need be stored. -/
lemma Numbers.refl (s : Store) : s.Numbers s := .none rfl (Int.le_refl _)

/-- The counter may go on without a record being stored. -/
lemma Numbers.of_eq (hcodes : t.codes = s.codes) (hrows : t.rows = s.rows)
    (hid : s.nextId ≤ t.nextId) : s.Numbers t :=
  .none (by rw [numbers, numbers, hcodes, hrows]) hid

/-- After a record was stored, numbers may stay as they are. -/
lemma Numbers.trans_eq (h : s.Numbers t) (hnumbers : u.numbers = t.numbers)
    (hid : t.nextId ≤ u.nextId) : s.Numbers u := by
  cases h with
  | none hsame hle => exact .none (hnumbers.trans hsame) (Int.le_trans hle hid)
  | one key hfree hperm hlt => exact .one key hfree (hnumbers ▸ hperm) (Int.lt_of_lt_of_le hlt hid)

/-- Revocations leave the numbers alone. -/
lemma RevokesTo.numbers_eq (h : s.RevokesTo t) (hcodes : t.codes = s.codes) :
    t.numbers = s.numbers := by
  obtain ⟨g, hg, hrows⟩ := h.rows
  rw [numbers, numbers, hcodes, hrows, hg.map_map _ fun _ => rfl]

/-- Changes of codes in place leave the numbers alone. -/
lemma numbers_modify (s : Store) (value : String) {f : Code → Code}
    (hvalue : ∀ c, (f c).value = c.value) (hid : ∀ c, (f c).id = c.id) :
    ({ s with codes := s.codes.modify value f } : Store).numbers = s.numbers := by
  rw [numbers, numbers, Table.modify, List.map_map]
  congr 1
  refine List.map_congr_left fun c _ => ?_
  by_cases h : c.value = value <;> simp [h, hvalue, hid]

/-- A new row brings its number. -/
lemma numbers_append_row (r : RefreshToken) (hcodes : t.codes = s.codes)
    (hrows : t.rows.records = s.rows.records ++ [r]) :
    t.numbers.Perm ((.row r.jti, r.id) :: s.numbers) := by
  rw [numbers, numbers, hcodes, hrows, List.map_append, ← List.append_assoc]
  exact List.perm_append_singleton _ _

/-- A new code brings its number. -/
lemma numbers_append_code (c : Code) (hcodes : t.codes.records = s.codes.records ++ [c])
    (hrows : t.rows = s.rows) : t.numbers.Perm ((.code c.value, c.id) :: s.numbers) := by
  rw [numbers, numbers, hcodes, hrows, List.map_append, List.append_assoc]
  exact List.perm_middle

/-! ## What operations on rows do -/

/-- Codes stay as they are, and one row is stored at most. -/
structure WritesRow (s t : Store) : Prop where
  codes : t.codes = s.codes
  numbers : s.Numbers t

/-- Nothing need be written. -/
lemma WritesRow.refl (s : Store) : s.WritesRow s := ⟨rfl, .refl s⟩

/-- Revocations write no row. -/
lemma RevokesTo.writesRow (h : s.RevokesTo t) (hcodes : t.codes = s.codes) : s.WritesRow t :=
  ⟨hcodes, .none (h.numbers_eq hcodes) h.nextId⟩

/-- After a row was written, rows may be revoked. -/
lemma WritesRow.trans_revokesTo (h : s.WritesRow t) (h' : t.RevokesTo u)
    (hcodes : u.codes = t.codes) : s.WritesRow u :=
  ⟨hcodes.trans h.codes, h.numbers.trans_eq (h'.numbers_eq hcodes) h'.nextId⟩

/-- Storing a row writes that row, or nothing. -/
lemma writesRow_createRow (s : Store) (row : RefreshToken) : s.WritesRow (s.createRow row).2 := by
  have hid : s.nextId < s.nextId + 1 := Int.lt_succ _
  rw [createRow]
  split
  · exact .refl s
  dsimp only
  cases hhas : s.rows.has row.jti with
  | true =>
    have hnone : s.rows.insertNew? { row with id := s.nextId } = none := if_pos hhas
    rw [hnone]
    exact ⟨rfl, .of_eq rfl rfl (Int.le_of_lt hid)⟩
  | false =>
    have hfree : RecordKey.row row.jti ∉ s.numbers.map Prod.fst := by
      simpa [numbers] using Table.has_eq_false_iff.mp hhas
    have hinsert : s.rows.insertNew? { row with id := s.nextId } =
        some ⟨s.rows.records ++ [{ row with id := s.nextId }]⟩ := Table.insertNew?_of_free hhas
    rw [hinsert]
    exact ⟨rfl, .one _ hfree (numbers_append_row { row with id := s.nextId } rfl rfl) hid⟩

/-- The check of a row that is going to be redeemed writes no row. -/
lemma writesRow_verifyTip (s : Store) (stored : RefreshToken) (presented : String) :
    s.WritesRow (s.verifyTip stored presented).2 := by
  rw [verifyTip]
  split_ifs
  · exact .refl s
  · exact (s.revokesTo_revokeChain _).writesRow rfl
  · exact .refl s
  · exact .refl s

/-- A row that may be redeemed leaves the store as it is. -/
lemma eq_of_verifyTip {stored : RefreshToken} {presented : String}
    (h : s.verifyTip stored presented = (.ok (), t)) : t = s := by
  rw [verifyTip] at h
  split_ifs at h <;> cases h
  rfl

/-- An operation on rows writes one row at most. -/
lemma writesRow_rowOperation (s : Store) (op : RowOperation) : s.WritesRow (op.run s).2 := by
  cases op with
  | create row => exact s.writesRow_createRow row
  | find jti => exact .refl s
  | findSuccessor previousJti => exact .refl s
  | revoke jti => exact (s.revokesTo_revoke jti).writesRow rfl
  | revokeChain firstJti => exact (s.revokesTo_revokeChain firstJti).writesRow rfl

/-! ## What grants do -/

/-- A plan that is carried out writes its row, or nothing. -/
lemma writesRow_commit (s : Store) (plan : GrantPlan) (replaced : Option RefreshToken) :
    s.WritesRow (plan.commit s replaced).2 := by
  have hcreate := s.writesRow_createRow plan.row
  rw [GrantPlan.commit]
  split
  case h_1 e t ht => exact (congrArg Prod.snd ht) ▸ hcreate
  case h_2 row t ht =>
    rw [ht] at hcreate
    cases replaced with
    | none => exact hcreate
    | some old => exact hcreate.trans_revokesTo (t.revokesTo_revoke old.jti) rfl

/-- An exchange writes one row at most. -/
lemma writesRow_exchangeCode (s : Store) (settings : Settings) (now : Instant) (ids : TokenIds)
    (code : Code) : s.WritesRow (exchangeCode s settings now ids code).2 := by
  rw [exchangeCode]
  split
  · exact .refl s
  · exact s.writesRow_commit _ none

/-- A refresh writes one row at most. -/
lemma writesRow_refresh (s : Store) (settings : Settings) (now : Instant) (ids : TokenIds)
    (request : RefreshRequest) : s.WritesRow (refresh s settings now ids request).2 := by
  have htip := s.writesRow_verifyTip request.stored request.presented
  rw [refresh]
  split
  case h_1 e t ht => exact (congrArg Prod.snd ht) ▸ htip
  case h_2 t ht =>
    obtain rfl := eq_of_verifyTip ht
    split
    · exact .refl _
    · exact writesRow_commit _ _ _

end Store

/-! ## What a call does -/

namespace StoreCall

variable {s : Store}

/-- Only two calls change the codes: that which stores a code, and that which marks one. -/
theorem codes_run (s : Store) (call : StoreCall) :
    (∃ now code, call = create now code) ∨ (∃ now value, call = mark now value) ∨
      ((call.run s).2.codes = s.codes ∧ ∀ value, call.Marks value = false) := by
  cases call with
  | look lookup => exact .inr (.inr ⟨rfl, fun _ => rfl⟩)
  | rows op => exact .inr (.inr ⟨(s.writesRow_rowOperation op).codes, fun _ => rfl⟩)
  | verifyTip stored presented =>
    exact .inr (.inr ⟨(s.writesRow_verifyTip stored presented).codes, fun _ => rfl⟩)
  | serve now op =>
    cases op with
    | exchange settings ids code =>
      exact .inr (.inr ⟨(s.writesRow_exchangeCode settings now ids code).codes, fun _ => rfl⟩)
    | refresh settings ids request =>
      exact .inr (.inr ⟨(s.writesRow_refresh settings now ids request).codes, fun _ => rfl⟩)
    | update u =>
      cases u with
      | createCode code => exact .inl ⟨now, code, rfl⟩
      | markCodeUsed value => exact .inr (.inl ⟨now, value, rfl⟩)
      | addUserToGroup user group =>
        refine .inr (.inr ⟨?_, fun _ => rfl⟩)
        simp only [run, Operation.run, RecordUpdate.run, Store.addUserToGroup]
        split_ifs <;> rfl
      | touchSession identifier t =>
        refine .inr (.inr ⟨?_, fun _ => rfl⟩)
        simp only [run, Operation.run, RecordUpdate.run, Store.touchSession?]
        split_ifs <;> rfl
      | _ => exact .inr (.inr ⟨rfl, fun _ => rfl⟩)
    | _ => exact .inr (.inr ⟨rfl, fun _ => rfl⟩)

/-- A code is stored at the end if its value is free, and not at all if it is taken. -/
lemma createCode_cases (s : Store) (code : Code) :
    ((∃ c, s.code? code.value = some c) ∧
      s.createCode code = (.error .codeExists, { s with nextId := s.nextId + 1 })) ∨
    (s.code? code.value = none ∧
      s.createCode code = (.ok { code with id := s.nextId },
        { s with
          codes := ⟨s.codes.records ++ [{ code with id := s.nextId }]⟩
          nextId := s.nextId + 1 })) := by
  cases hfound : s.code? code.value with
  | some c =>
    have hhas : s.codes.has code.value = true := congrArg Option.isSome hfound
    have hinsert : s.codes.insertNew? { code with id := s.nextId } = none := if_pos hhas
    exact .inl ⟨⟨c, rfl⟩, by simp only [Store.createCode, hinsert]⟩
  | none =>
    have hhas : s.codes.has code.value = false := congrArg Option.isSome hfound
    have hinsert : s.codes.insertNew? { code with id := s.nextId } =
        some ⟨s.codes.records ++ [{ code with id := s.nextId }]⟩ := Table.insertNew?_of_free hhas
    exact .inr ⟨rfl, by simp only [Store.createCode, hinsert]⟩

/-- A code is given the number at which the counter stands. -/
lemma numbers_create (s : Store) (now : Instant) (code : Code) :
    s.Numbers ((create now code).run s).2 := by
  have hid : s.nextId < s.nextId + 1 := Int.lt_succ _
  change s.Numbers (s.createCode code).2
  rcases createCode_cases s code with ⟨-, hrun⟩ | ⟨hnone, hrun⟩
  · rw [hrun]
    exact .of_eq rfl rfl (Int.le_of_lt hid)
  · have hhas : s.codes.has code.value = false := congrArg Option.isSome hnone
    have hfree : Store.RecordKey.code code.value ∉ s.numbers.map Prod.fst := by
      simpa [Store.numbers] using Table.has_eq_false_iff.mp hhas
    rw [hrun]
    exact .one _ hfree (Store.numbers_append_code { code with id := s.nextId } rfl rfl) hid

/-- A code that is marked keeps its number. -/
lemma numbers_mark (s : Store) (now : Instant) (value : String) :
    s.Numbers ((mark now value).run s).2 := by
  simp only [run, mark, Operation.run, RecordUpdate.run]
  cases ht : s.markCodeUsed value with
  | error e => exact .refl s
  | ok t =>
    simp only [Store.markCodeUsed] at ht
    split at ht
    · cases ht
    · split at ht <;> cases ht
      exact .none (s.numbers_modify value (fun _ => rfl) fun _ => rfl) (Int.le_refl _)

/-- A call stores one record at most. -/
theorem numbers_run (s : Store) (call : StoreCall) : s.Numbers (call.run s).2 := by
  rcases call.codes_run s with ⟨now, code, rfl⟩ | ⟨now, value, rfl⟩ | ⟨hcodes, -⟩
  · exact numbers_create s now code
  · exact numbers_mark s now value
  cases call with
  | look lookup => exact .refl s
  | rows op => exact (s.writesRow_rowOperation op).numbers
  | verifyTip stored presented => exact (s.writesRow_verifyTip stored presented).numbers
  | serve now op =>
    cases op with
    | exchange settings ids code => exact (s.writesRow_exchangeCode settings now ids code).numbers
    | refresh settings ids request => exact (s.writesRow_refresh settings now ids request).numbers
    | clientCredentials settings jti client scope => exact .refl s
    | revoke jti => exact ((s.revokesTo_revoke jti).writesRow rfl).numbers
    | revokeChain firstJti => exact ((s.revokesTo_revokeChain firstJti).writesRow rfl).numbers
    | setClock t => exact .refl s
    | update u => exact ((RecordUpdate.revokesTo_run s u).writesRow hcodes).numbers

/-! ## Numbers of a run -/

/-- The numbers of the records that one store holds and an earlier one does not. -/
def newNumbers (s t : Store) : List Int :=
  (t.numbers.filter fun x => x.1 ∉ s.numbers.map Prod.fst).map Prod.snd

/-- The numbers of the records that calls store, in the order in which they do. -/
def issued (s : Store) : List StoreCall → List Int
  | [] => []
  | call :: rest => newNumbers s (call.run s).2 ++ issued (call.run s).2 rest

/-- A record that was there is not new. -/
lemma filter_numbers_self (s : Store) :
    s.numbers.filter (fun x => x.1 ∉ s.numbers.map Prod.fst) = [] :=
  List.filter_eq_nil_iff.mpr fun x hx => by simpa using ⟨x.2, hx⟩

/-- No number is new if the numbers are the same. -/
lemma newNumbers_of_eq {s t : Store} (h : t.numbers = s.numbers) : newNumbers s t = [] := by
  rw [newNumbers, h, filter_numbers_self]
  rfl

/-- One number is new if one record has come under a key that no record had. -/
lemma newNumbers_of_perm {s t : Store} {key : Store.RecordKey} {n : Int}
    (hfree : key ∉ s.numbers.map Prod.fst) (h : t.numbers.Perm ((key, n) :: s.numbers)) :
    newNumbers s t = [n] := by
  have hperm := (h.filter fun x => x.1 ∉ s.numbers.map Prod.fst).map Prod.snd
  rw [List.filter_cons_of_pos (by simpa using hfree), filter_numbers_self] at hperm
  exact List.perm_singleton.mp hperm

/-- The numbers of the records that calls store rise, from the one at which the counter stands, and
they are what comes to the numbers of the records that were there.

**Proof sketch.** Induction on the calls. If the first one stores a record, its number is where the
counter stood, and the later ones are drawn after the counter has passed it. -/
theorem issued_spec (s : Store) (calls : List StoreCall) :
    (issued s calls).Pairwise (· < ·) ∧ (∀ n ∈ issued s calls, s.nextId ≤ n) ∧
      ((after s calls).numbers.map Prod.snd).Perm
        (s.numbers.map Prod.snd ++ issued s calls) := by
  induction calls generalizing s with
  | nil => simp [issued, after]
  | cons call rest ih =>
    obtain ⟨hrise, hfrom, hperm⟩ := ih (call.run s).2
    rw [issued]
    cases call.numbers_run s with
    | none hnumbers hid =>
      rw [newNumbers_of_eq hnumbers, List.nil_append]
      exact ⟨hrise, fun n hn => Int.le_trans hid (hfrom n hn), hnumbers ▸ hperm⟩
    | one key hfree hnumbers hid =>
      have hlater : ∀ n ∈ issued (call.run s).2 rest, s.nextId < n := fun n hn =>
        Int.lt_of_lt_of_le hid (hfrom n hn)
      rw [newNumbers_of_perm hfree hnumbers, List.singleton_append]
      refine ⟨List.pairwise_cons.mpr ⟨hlater, hrise⟩, List.forall_mem_cons.mpr
        ⟨Int.le_refl _, fun n hn => Int.le_of_lt (hlater n hn)⟩, ?_⟩
      have hstored := (hnumbers.map Prod.snd).append_right (issued (call.run s).2 rest)
      exact hperm.trans (hstored.trans List.perm_middle.symm)

end StoreCall

end TokenAuthority
