import Mathlib.Data.List.Basic
import Mathlib.Tactic.Lemma
import TokenAuthority.Proofs.Checks
import TokenAuthority.Proofs.StoreCalls

/-!
# A code is exchanged once

An authorization code can be marked as exchanged once it has been stored, and only once, whatever
else is asked of the store meanwhile. That a value is stored a second time is refused, so that a
code that was exchanged never comes back.

## Main definitions

* `TokenAuthority.Code.markedIf` — a code after calls that may have marked it.
* `TokenAuthority.StoreEvent.Creates`, `TokenAuthority.StoreEvent.Exchanges` — a call has stored, or
  has marked, the code of a value.

## Main results

* `TokenAuthority.StoreCall.code?_after` — what becomes of a code that is stored.
* `TokenAuthority.StoreCall.codes_used_once` — how codes and their numbers stand after any calls.
-/

set_option autoImplicit false

namespace TokenAuthority

/-- The code after calls that may have marked it. -/
def Code.markedIf (c : Code) (marked : Bool) : Code := { c with used := c.used || marked }

/-- A code that no call marks stays as it is. -/
@[simp] lemma Code.markedIf_false (c : Code) : c.markedIf false = c := by
  simp [markedIf]

/-- A code that a call marks has been exchanged. -/
lemma Code.markedIf_true (c : Code) : c.markedIf true = { c with used := true } := by
  simp [markedIf]

/-- Calls in a row mark a code if one of them does. -/
lemma Code.markedIf_markedIf (c : Code) (b b' : Bool) :
    (c.markedIf b).markedIf b' = c.markedIf (b || b') := by
  simp [markedIf, Bool.or_assoc]

namespace StoreEvent

/-- The call has stored a code of the value. -/
def Creates (value : String) (e : StoreEvent) : Prop :=
  ∃ now code stored, code.value = value ∧
    e = ⟨.create now code, .served (.ok (.stored stored))⟩

/-- The call has marked the code of the value. -/
def Exchanges (value : String) (e : StoreEvent) : Prop :=
  ∃ now, e = ⟨.mark now value, .served (.ok .done)⟩

end StoreEvent

namespace Store

variable {s t : Store} {c : Code} {value : String}

/-! ## Marking a code -/

/-- A code that is not stored cannot be marked. -/
lemma markCodeUsed_of_none (h : s.code? value = none) :
    RefusedAs (s.markCodeUsed value) .invalidGrant :=
  ⟨.codeUnknown, by rw [markCodeUsed, h], rfl, rfl⟩

/-- A code that has been marked cannot be marked again. -/
lemma markCodeUsed_of_used (h : s.code? value = some c) (hused : c.used = true) :
    RefusedAs (s.markCodeUsed value) .invalidGrant :=
  ⟨.codeUsed, by simp [markCodeUsed, h, hused], rfl, rfl⟩

/-- The store with a code marked, whether or not it may be. -/
def withMarked (s : Store) (value : String) : Store :=
  { s with codes := s.codes.modify value fun c => { c with used := true } }

/-- A code that is stored and has not been marked can be marked. -/
lemma markCodeUsed_of_unused (h : s.code? value = some c) (hunused : c.used = false) :
    s.markCodeUsed value = .ok (s.withMarked value) := by
  simp [markCodeUsed, h, hunused, withMarked]

/-- Where a code may be marked, it is. -/
lemma eq_withMarked (h : s.markCodeUsed value = .ok t) : t = s.withMarked value := by
  rw [markCodeUsed] at h
  split at h
  · cases h
  · split at h <;> cases h
    rfl

/-- A code is marked, and the others stay as they are. -/
lemma code?_withMarked (s : Store) (marked value : String) :
    (s.withMarked marked).code? value =
      (s.code? value).map fun c => c.markedIf (marked == value) := by
  have hfind := s.codes.find?_modify
    (f := fun c => { c with used := true }) (fun _ => rfl) marked value
  refine hfind.trans (Option.map_congr fun c hc => ?_)
  have hvalue : c.value = value := (Table.of_find? hc).2
  by_cases h : marked = value
  · rw [if_pos (hvalue.trans h.symm), h, beq_self_eq_true, Code.markedIf_true]
  · rw [if_neg fun hm => h (hm.symm.trans hvalue), beq_false_of_ne h, Code.markedIf_false]

end Store

namespace StoreCall

variable {s : Store} {c : Code} {value : String}

/-! ## What a call does to a code -/

/-- The store after a code was marked. -/
lemma run_mark (s : Store) (now : Instant) (value : String) :
    (mark now value).run s = match s.markCodeUsed value with
      | .error e => (.served (.error e), s)
      | .ok t => (.served (.ok .done), t) := by
  simp only [mark, run, Operation.run, RecordUpdate.run]
  cases s.markCodeUsed value <;> rfl

/-- Marking a code marks that code, if it is stored, and no other. -/
lemma code?_run_mark (s : Store) (now : Instant) (marked value : String) :
    ((mark now marked).run s).2.code? value =
      (s.code? value).map (·.markedIf (marked == value)) := by
  rw [run_mark]
  cases hmarks : s.markCodeUsed marked with
  | ok t => rw [Store.eq_withMarked hmarks, Store.code?_withMarked]
  | error e =>
    -- A refusal leaves the store alone: the code is not there, or has been marked before.
    cases hfound : s.code? value with
    | none => rfl
    | some c =>
      refine congrArg some ?_
      change c = c.markedIf (marked == value)
      by_cases hv : marked = value
      · subst hv
        cases hused : c.used with
        | true => rw [beq_self_eq_true, Code.markedIf_true, ← hused]
        | false => rw [Store.markCodeUsed_of_unused hfound hused] at hmarks; cases hmarks
      · rw [beq_false_of_ne hv, Code.markedIf_false]

/-- A code that is stored stays as it is, unless the call marks it. -/
lemma code?_run_of_some (h : s.code? value = some c) (call : StoreCall) :
    (call.run s).2.code? value = some (c.markedIf (call.Marks value)) := by
  rcases call.codes_run s with ⟨now, code, rfl⟩ | ⟨now, marked, rfl⟩ | ⟨hcodes, hmarks⟩
  case inl =>
    change (s.createCode code).2.code? value = some (c.markedIf false)
    rw [Code.markedIf_false]
    rcases createCode_cases s code with ⟨-, hrun⟩ | ⟨-, hrun⟩
    · rw [hrun]
      exact h
    · rw [hrun]
      exact (s.codes.find?_append_singleton _ value).trans (congrArg (Option.or · _) h)
  case inr.inl =>
    rw [code?_run_mark, h]
    rfl
  case inr.inr =>
    rw [hmarks, Code.markedIf_false, Store.code?, hcodes]
    exact h

/-- A code that is not stored is not there after the call either, unless the call has stored it. -/
lemma code?_run_of_none (h : s.code? value = none) (call : StoreCall) :
    (call.run s).2.code? value = none ∨ StoreEvent.Creates value ⟨call, (call.run s).1⟩ := by
  rcases call.codes_run s with ⟨now, code, rfl⟩ | ⟨now, marked, rfl⟩ | ⟨hcodes, -⟩
  case inl =>
    rcases createCode_cases s code with ⟨-, hrun⟩ | ⟨-, hrun⟩
    · have hsame : ((create now code).run s).2.codes = s.codes := congrArg (·.2.codes) hrun
      exact .inl (by rw [Store.code?, hsame]; exact h)
    · by_cases hv : code.value = value
      · refine .inr ⟨now, code, { code with id := s.nextId }, hv, ?_⟩
        exact congrArg (fun r => StoreEvent.mk (create now code) (.served (r.1.map .stored))) hrun
      · have hcodes : ((create now code).run s).2.codes =
            ⟨s.codes.records ++ [{ code with id := s.nextId }]⟩ := congrArg (·.2.codes) hrun
        refine .inl ?_
        rw [Store.code?, hcodes, Table.find?_append_singleton, if_neg hv, Option.or_none]
        exact h
  case inr.inl =>
    rw [code?_run_mark, h]
    exact .inl rfl
  case inr.inr => exact .inl (by rw [Store.code?, hcodes]; exact h)

/-! ## What calls do to a code -/

/-- A code that is stored stays as it is, unless one of the calls marks it. -/
theorem code?_after (h : s.code? value = some c) (calls : List StoreCall) :
    (after s calls).code? value = some (c.markedIf (calls.any (·.Marks value))) := by
  induction calls generalizing s c with
  | nil => rw [List.any_nil, Code.markedIf_false, after, h]
  | cons call rest ih =>
    rw [after, ih (code?_run_of_some h call), Code.markedIf_markedIf, List.any_cons]

/-- A code that none of the calls has stored is not there. -/
lemma code?_after_of_none (h : s.code? value = none) (calls : List StoreCall)
    (hnone : ∀ e ∈ history s calls, ¬ e.Creates value) : (after s calls).code? value = none := by
  induction calls generalizing s with
  | nil => exact h
  | cons call rest ih =>
    obtain ⟨hfirst, hrest⟩ := List.forall_mem_cons.mp hnone
    exact ih ((code?_run_of_none h call).resolve_right hfirst) hrest

/-- A code that has been marked is not exchanged. -/
lemma not_exchanges (h : s.code? value = some c) (hused : c.used = true) (calls : List StoreCall) :
    ∀ e ∈ history s calls, ¬ e.Exchanges value := by
  induction calls generalizing s c with
  | nil => simp [history]
  | cons call rest ih =>
    have hstill : (c.markedIf (call.Marks value)).used = true := by simp [Code.markedIf, hused]
    refine List.forall_mem_cons.mpr ⟨?_, ih (code?_run_of_some h call) hstill⟩
    rintro ⟨now, hevent⟩
    obtain ⟨e, he, -⟩ := Store.markCodeUsed_of_used h hused
    obtain ⟨rfl, hanswer⟩ := StoreEvent.mk.inj hevent
    rw [run_mark, he] at hanswer
    cases hanswer

/-- A code is exchanged once at most.

**Proof sketch.** Induction on the calls. Once the first of them has marked the code, the code is
stored and marked, and it stays so. -/
theorem exchanges_pairwise (s : Store) (value : String) (calls : List StoreCall) :
    (history s calls).Pairwise fun e e' => e.Exchanges value → ¬ e'.Exchanges value := by
  induction calls generalizing s with
  | nil => exact .nil
  | cons call rest ih =>
    refine List.pairwise_cons.mpr ⟨fun e' he' hfirst => ?_, ih _⟩
    obtain ⟨now, hevent⟩ := hfirst
    obtain ⟨rfl, hanswer⟩ := StoreEvent.mk.inj hevent
    have hmarked := code?_run_mark s now value value
    cases hfound : s.code? value with
    | none =>
      obtain ⟨e, he, -⟩ := Store.markCodeUsed_of_none hfound
      rw [run_mark, he] at hanswer
      cases hanswer
    | some c =>
      rw [hfound, beq_self_eq_true] at hmarked
      exact not_exchanges hmarked (by simp [Code.markedIf]) rest e' he'

/-- A code that has just been stored is found, with the number that it was given. -/
lemma of_createCode {t : Store} {stored : Code} (h : s.createCode c = (.ok stored, t)) :
    t.code? c.value = some stored ∧ stored = { c with id := s.nextId } := by
  rcases createCode_cases s c with ⟨-, hrun⟩ | ⟨hfree, hrun⟩
  · rw [hrun] at h
    cases h
  · rw [hrun] at h
    cases h
    have hfind := s.codes.find?_append_singleton { c with id := s.nextId } c.value
    rw [show s.codes.find? c.value = none from hfree, if_pos rfl] at hfind
    exact ⟨hfind, rfl⟩

/-- Whatever is asked of a store that starts empty, and in whatever order: a code is exchanged once
at most. It cannot be marked before it has been stored; the first time that it is marked after that
succeeds, and every later time is refused. A code whose value is taken is refused, and leaves the
codes as they are, and one whose value is free is stored. A code that is stored does not change, but
that it is marked. The numbers of the codes and rows that are stored rise in the order in which
they are stored, so that no two of them are the same. -/
theorem codes_used_once (calls later : List StoreCall) :
    let s := after {} calls
    (∀ value, (history {} calls).Pairwise fun e e' => e.Exchanges value → ¬ e'.Exchanges value) ∧
    (∀ value, (∀ e ∈ history {} calls, ¬ e.Creates value) →
      RefusedAs (s.markCodeUsed value) .invalidGrant) ∧
    (∀ code stored t, s.createCode code = (.ok stored, t) → code.used = false →
      ((∀ call ∈ later, call.Marks code.value = false) →
        ∃ u, (after t later).markCodeUsed code.value = .ok u) ∧
      ((∃ call ∈ later, call.Marks code.value = true) →
        RefusedAs ((after t later).markCodeUsed code.value) .invalidGrant)) ∧
    (∀ code, (s.code? code.value = none → ∃ stored, (s.createCode code).1 = .ok stored) ∧
      ∀ c, s.code? code.value = some c →
        (s.createCode code).1 = .error .codeExists ∧ (s.createCode code).2.codes = s.codes) ∧
    (∀ value c, s.code? value = some c →
      (after s later).code? value = some (c.markedIf (later.any (·.Marks value)))) ∧
    (issued {} calls).Pairwise (· < ·) ∧
    (s.codes.records.map Code.id ++ s.rows.records.map RefreshToken.id).Perm
      (issued {} calls) := by
  intro s
  obtain ⟨hrise, -, hperm⟩ := issued_spec {} calls
  refine ⟨fun value => exchanges_pairwise {} value calls, fun value hnone => ?unknown,
    fun code stored t hcreate hunused => ⟨fun hnone => ?first, fun hsome => ?again⟩,
    fun code => ⟨fun hfree => ?free, fun c hc => ?taken⟩, fun value c hc => code?_after hc later,
    hrise, ?numbers⟩
  case unknown => exact Store.markCodeUsed_of_none (code?_after_of_none rfl calls hnone)
  case first =>
    obtain ⟨hfound, rfl⟩ := of_createCode hcreate
    have hany : later.any (·.Marks code.value) = false := by simpa using hnone
    have hafter := code?_after hfound later
    rw [hany, Code.markedIf_false] at hafter
    exact ⟨_, Store.markCodeUsed_of_unused hafter hunused⟩
  case again =>
    obtain ⟨hfound, rfl⟩ := of_createCode hcreate
    have hany : later.any (·.Marks code.value) = true := by simpa using hsome
    have hafter := code?_after hfound later
    rw [hany, Code.markedIf_true] at hafter
    exact Store.markCodeUsed_of_used hafter rfl
  case free =>
    rcases createCode_cases s code with ⟨⟨c, hc⟩, -⟩ | ⟨-, hrun⟩
    · cases hfree.symm.trans hc
    · exact ⟨_, congrArg Prod.fst hrun⟩
  case taken =>
    rcases createCode_cases s code with ⟨-, hrun⟩ | ⟨hfree, -⟩
    · rw [hrun]
      exact ⟨rfl, rfl⟩
    · cases hfree.symm.trans hc
  case numbers =>
    rw [← Store.map_snd_numbers]
    exact hperm

end StoreCall

end TokenAuthority
