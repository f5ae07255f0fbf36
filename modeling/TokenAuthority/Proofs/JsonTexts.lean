import Mathlib.Tactic.Lemma
import Mathlib.Tactic.SplitIfs
import TokenAuthority.Json.Reader
import TokenAuthority.Proofs.Numerals

/-!
# JSON texts are read back

The text of a value is scanned to the tree of the value, with nothing left over, and the tree is read
back as the value. This is so for every value without doubles that is not nested too deeply; strings
are arbitrary.

## Main definitions

* `TokenAuthority.Json.Value.Fits` — the numbers of a value are integers of 64 bits, and its levels
  of lists and objects are bounded.
* `TokenAuthority.Json.Source.Allows` — a source lets a reader enter so many levels.

## Main results

* `TokenAuthority.Json.Doc.scanString_escaped` — a string is scanned back.
* `TokenAuthority.Json.Doc.scan_text` — a text is scanned to the tree of its value.
* `TokenAuthority.Json.Codec.readValue_ofValue` — a tree is read back as its value.
* `TokenAuthority.Json.Codec.decode_text` — decoding a text is reading the tree of its value.
-/

set_option autoImplicit false

namespace TokenAuthority.Json

/-- The numbers of the value are integers of 64 bits, signed or unsigned, and it has at most so many
levels of lists and objects. -/
inductive Value.Fits : Nat → Value → Prop where
  | null (n : Nat) : Fits n .null
  | bool (n : Nat) (b : Bool) : Fits n (.bool b)
  | int {n : Nat} {i : Int} (hlow : -Int.pow 2 63 ≤ i) (hhigh : i ≤ Doc.maxUnsigned) :
      Fits n (.int i)
  | str (n : Nat) (s : String) : Fits n (.str s)
  | list {n : Nat} {items : List Value} (h : ∀ v ∈ items, Fits n v) : Fits (n + 1) (.list items)
  | obj {n : Nat} {members : List (String × Value)} (h : ∀ m ∈ members, Fits n m.2) :
      Fits (n + 1) (.obj members)

/-- More levels may be allowed. -/
lemma Value.Fits.mono {m n : Nat} {v : Value} (h : v.Fits m) (hmn : m ≤ n) : v.Fits n := by
  induction h generalizing n with
  | null => exact .null n
  | bool _ b => exact .bool n b
  | int hlow hhigh => exact .int hlow hhigh
  | str _ s => exact .str n s
  | list _ ih =>
    obtain ⟨n, rfl⟩ : ∃ k, n = k + 1 := ⟨n - 1, by omega⟩
    exact .list fun v hv => ih v hv (Nat.le_of_succ_le_succ hmn)
  | obj _ ih =>
    obtain ⟨n, rfl⟩ : ∃ k, n = k + 1 := ⟨n - 1, by omega⟩
    exact .obj fun m hm => ih m hm (Nat.le_of_succ_le_succ hmn)

namespace Doc

open Value

/-! ## Strings -/

/-- A hexadecimal digit has its value. -/
lemma hexValue?_hexDigit {n : Nat} (h : n < 16) : hexValue? (hexDigit n) = some n := by
  have hall : ∀ n < 16, hexValue? (hexDigit n) = some n := by decide
  exact hall n h

/-- An escape by number that stands for a character of its own is scanned as that character, also
where another such escape follows. -/
lemma scanString_numbered {a b c d : Char} {n : Nat} (hquad : hexQuad? a b c d = some n)
    (hhigh : isHighSurrogate n = false) (hlow : isLowSurrogate n = false) (rest : List Char) :
    scanString ('\\' :: 'u' :: a :: b :: c :: d :: rest) =
      (scanString rest).map (·.push (Char.ofNat n)) := by
  rw [scanString.eq_def]
  split
  · rename_i heq
    cases heq
  · rename_i heq
    cases heq
  · rename_i heq
    cases heq
    simp [hquad, hhigh, hlow]
  · rename_i heq
    cases heq
    simp [hquad, hhigh, hlow]
  · rename_i hno heq
    cases heq
    exact (hno _ _ _ _ _ rfl rfl).elim
  · rename_i hno heq
    cases heq
    exact (hno _ _ rfl rfl).elim

/-- A character that is written as itself is scanned as that character. -/
lemma scanString_plain {c : Char} (hquote : c ≠ '"') (hslash : c ≠ '\\') (hplain : ¬ c.toNat < 0x20)
    (rest : List Char) : scanString (c :: rest) = (scanString rest).map (·.push c) := by
  rw [scanString]
  · simp only [hplain, hslash, decide_false, Bool.or_self, Bool.false_eq_true, if_false]
  -- none of the forms that start with a quotation mark or a backslash is there
  · exact hquote
  · exact fun _ _ _ _ _ _ _ _ _ h => absurd h hslash
  · exact fun _ _ _ _ _ h => absurd h hslash
  · exact fun _ _ h => absurd h hslash

/-- A written character is scanned as that character. -/
lemma scanString_escapedChar (c : Char) (rest : List Char) :
    scanString (escapedChar c ++ rest) = (scanString rest).map (·.push c) := by
  have hback : Char.ofNat c.toNat = c := Char.ofNat_toNat c
  rw [escapedChar]
  split_ifs with h1 h2 h3 h4 h5 h6 h7 h8
  · subst h1; simp [scanString, escape?]
  · subst h2; simp [scanString, escape?]
  · subst h4; simp [scanString, escape?]
  · subst h5; simp [scanString, escape?]
  · subst h6; simp [scanString, escape?]
  · rw [h7] at hback; subst hback; simp [scanString, escape?]
  · rw [h8] at hback; subst hback; simp [scanString, escape?]
  · have hquad : hexQuad? '0' '0' (hexDigit (c.toNat / 16)) (hexDigit (c.toNat % 16)) =
        some c.toNat := by
      have hzero : hexValue? '0' = some 0 := by decide
      have hsplit : ((0 * 16 + 0) * 16 + c.toNat / 16) * 16 + c.toNat % 16 = c.toNat := by omega
      simp only [hexQuad?, hzero, hexValue?_hexDigit (n := c.toNat / 16) (by omega),
        hexValue?_hexDigit (n := c.toNat % 16) (by omega), Option.bind_eq_bind, Option.bind_some,
        hsplit]
    simp only [List.cons_append, List.nil_append]
    rw [scanString_numbered hquad, hback]
    · simp only [isHighSurrogate, Bool.and_eq_false_iff, decide_eq_false_iff_not]
      omega
    · simp only [isLowSurrogate, Bool.and_eq_false_iff, decide_eq_false_iff_not]
      omega
  · have hplain : ¬ c.toNat < 0x20 := by omega
    rw [List.singleton_append, scanString_plain h1 h2 hplain]

/-- A written string is scanned back, up to its closing quotation mark. -/
theorem scanString_escaped (cs rest : List Char) :
    scanString (cs.flatMap escapedChar ++ '"' :: rest) = some (some cs, rest) := by
  induction cs with
  | nil => rw [List.flatMap_nil, List.nil_append, scanString]
  | cons c cs ih =>
    rw [List.flatMap_cons, List.append_assoc, scanString_escapedChar, ih]
    rfl

/-! ## Numerals -/

/-- What may follow a value within a text. -/
def Stops (rest : List Char) : Prop := ∀ c ∈ rest.head?, c = ',' ∨ c = ']' ∨ c = '\x7d'

/-- The digits of a number are digits. -/
lemma isDigit_of_mem_toDigits {n : Nat} {c : Char} (hc : c ∈ Nat.toDigits 10 n) :
    c.isDigit = true :=
  Nat.isDigit_of_mem_toDigits (by decide) (by decide) hc

/-- The digits of a number stand for it. -/
lemma digitsValue_toDigits (n : Nat) : digitsValue (Nat.toDigits 10 n) = n := by
  have hfold : (fun n (c : Char) => n * 10 + (c.toNat - 0x30)) =
      fun n (c : Char) => 10 * n + (c.toNat - '0'.toNat) := by
    funext n c
    rw [Nat.mul_comm]
    rfl
  rw [digitsValue, hfold]
  exact Nat.ofDigitChars_ten_toDigits

/-- The digits of a number do not start with a zero, except that zero does. -/
lemma head?_toDigits {n : Nat} (h : 0 < n) : (Nat.toDigits 10 n).head? ≠ some '0' := by
  induction n using Nat.strongRecOn with
  | ind n ih =>
    rw [Nat.toDigits_eq_if (by decide)]
    split
    · rename_i hsmall
      have hdigit : ∀ n < 10, 0 < n → [Nat.digitChar n].head? ≠ some '0' := by decide
      exact hdigit n hsmall h
    · obtain ⟨c, cs, hcs⟩ := List.exists_cons_of_ne_nil
        (Nat.toDigits_ne_nil (b := 10) (n := n / 10))
      have hhead := ih (n / 10) (by omega) (by omega)
      rw [hcs] at hhead ⊢
      exact hhead

/-- The digits of a number are scanned as a numeral without fraction and exponent. -/
lemma scanUnsigned_toDigits (negative : Bool) (n : Nat) {rest : List Char} (hrest : Stops rest) :
    scanUnsigned negative (Nat.toDigits 10 n ++ rest) =
      some (⟨negative, Nat.toDigits 10 n, [], none⟩, rest) := by
  have hdigits : ∀ c ∈ Nat.toDigits 10 n, c.isDigit = true := fun c hc => isDigit_of_mem_toDigits hc
  have hstop : ∀ c ∈ rest.head?, c.isDigit = false ∧ c ≠ '.' ∧ c ≠ 'e' ∧ c ≠ 'E' := by
    intro c hc
    rcases hrest c hc with rfl | rfl | rfl <;> decide
  obtain ⟨htake, hdrop⟩ := takeWhile_append_of_stop hdigits fun c hc => (hstop c hc).1
  have hzero : ((Nat.toDigits 10 n).head? == some '0' &&
      decide (1 < (Nat.toDigits 10 n).length)) = false := by
    rcases Nat.eq_zero_or_pos n with rfl | hpos
    · rfl
    · rw [beq_eq_false_iff_ne.mpr (head?_toDigits hpos), Bool.false_and]
  have hne : (Nat.toDigits 10 n).isEmpty = false := by simp
  rw [scanUnsigned]
  simp only [htake, hdrop, hne, hzero, Bool.false_or, Bool.false_eq_true, if_false]
  cases rest with
  | nil => rfl
  | cons c rest =>
    obtain ⟨-, hpoint, hsmall, hlarge⟩ := hstop c rfl
    simp [hpoint, hsmall, hlarge]

/-- An integer of 64 bits is scanned back. -/
lemma scanNumeral_intChars {i : Int} (hlow : -Int.pow 2 63 ≤ i) (hhigh : i ≤ maxUnsigned)
    {rest : List Char} (hrest : Stops rest) :
    ∃ numeral, scanNumeral (intChars i ++ rest) = some (numeral, rest) ∧
      numeral.value = some (.int i) := by
  cases i with
  | ofNat n =>
    have hhead : ∀ cs, Nat.toDigits 10 n ++ rest ≠ '-' :: cs := by
      intro cs heq
      obtain ⟨c, ds, hds⟩ := List.exists_cons_of_ne_nil (Nat.toDigits_ne_nil (b := 10) (n := n))
      have hdigit : c.isDigit = true := isDigit_of_mem_toDigits (n := n) (by simp [hds])
      rw [hds, List.cons_append] at heq
      cases heq
      revert hdigit
      decide
    refine ⟨⟨false, Nat.toDigits 10 n, [], none⟩, ?_, ?_⟩
    · rw [intChars, scanNumeral.eq_def]
      split
      · exact absurd ‹_› (hhead _)
      · exact scanUnsigned_toDigits false n hrest
    · have hn : n ≤ maxUnsigned := by simpa using hhigh
      simp [Numeral.value, digitsValue_toDigits, hn]
  | negSucc n =>
    refine ⟨_, scanUnsigned_toDigits true (n + 1) hrest, ?_⟩
    have hn : n + 1 ≤ Nat.pow 2 63 := by
      have hpow : Int.pow 2 63 = (Nat.pow 2 63 : Nat) := by decide
      rw [Int.negSucc_eq, hpow] at hlow
      omega
    have hbound : n + 1 ≤ maxUnsigned := Nat.le_trans hn (by decide)
    simp [Numeral.value, digitsValue_toDigits, hn, hbound, Int.negSucc_eq]

/-! ## Values -/

/-- An integer starts with a digit or a minus sign. -/
lemma exists_intChars_eq_cons (i : Int) :
    ∃ c cs, intChars i = c :: cs ∧ (c.isDigit = true ∨ c = '-') := by
  cases i with
  | negSucc n => exact ⟨_, _, rfl, .inr rfl⟩
  | ofNat n =>
    obtain ⟨c, cs, hcs⟩ := List.exists_cons_of_ne_nil (Nat.toDigits_ne_nil (b := 10) (n := n))
    exact ⟨c, cs, hcs, .inl (isDigit_of_mem_toDigits (n := n) (by simp [hcs]))⟩

/-- A numeral does not start with a character that is neither a digit nor a minus sign. -/
lemma ne_of_numeral {c d : Char} (hc : c.isDigit = true ∨ c = '-')
    (hd : (d.isDigit || d == '-') = false) : c ≠ d := by
  rintro rfl
  rcases hc with hc | rfl
  · rw [hc] at hd
    cases hd
  · cases hd

/-- A numeral does not start with a blank. -/
lemma isSpace_of_numeral {c : Char} (hc : c.isDigit = true ∨ c = '-') : isSpace c = false := by
  simp only [isSpace, Bool.or_eq_false_iff, beq_eq_false_iff_ne]
  exact ⟨⟨⟨ne_of_numeral hc rfl, ne_of_numeral hc rfl⟩, ne_of_numeral hc rfl⟩,
    ne_of_numeral hc rfl⟩

/-- The first character of a value is neither a blank nor a closing bracket. -/
lemma exists_chars_eq_cons {n : Nat} {v : Value} (h : v.Fits n) :
    ∃ c cs, v.chars = c :: cs ∧ isSpace c = false ∧ c ≠ ']' := by
  cases h with
  | null => exact ⟨_, _, rfl, by decide⟩
  | bool _ b => cases b <;> exact ⟨_, _, rfl, by decide⟩
  | str => exact ⟨_, _, rfl, by decide⟩
  | @list _ items _ => cases items <;> exact ⟨_, _, rfl, by decide⟩
  | @obj _ members _ => cases members <;> exact ⟨_, _, rfl, by decide⟩
  | @int _ i _ _ =>
    obtain ⟨c, cs, hcs, hc⟩ := exists_intChars_eq_cons i
    exact ⟨c, cs, hcs, isSpace_of_numeral hc, ne_of_numeral hc rfl⟩

/-- Nothing is skipped where the text starts with something else than a blank. -/
lemma skipSpace_cons {c : Char} (h : isSpace c = false) (cs : List Char) :
    skipSpace (c :: cs) = c :: cs := by
  rw [skipSpace, List.dropWhile_cons, h]
  rfl

/-- What follows an item of a list stops it. -/
lemma stops_itemsChars (items : List Value) (rest : List Char) :
    Stops (itemsChars items ++ rest) := by
  cases items <;> simp [itemsChars, Stops]

/-- What follows a member of an object stops it. -/
lemma stops_membersChars (members : List (String × Value)) (rest : List Char) :
    Stops (membersChars members ++ rest) := by
  cases members with
  | nil => simp [membersChars, Stops]
  | cons m members => simp [membersChars, Stops]

/-- The value is scanned back wherever its text stands. -/
def ScansBack (v : Value) : Prop :=
  ∀ (rest : List Char) (fuel : Nat), Stops rest → 2 * v.chars.length ≤ fuel →
    scanValue fuel (v.chars ++ rest) = (ofValue v, some rest)

/-- The items of a list are scanned back, up to the closing bracket. -/
lemma scanItems_chars {v : Value} {items : List Value} (h : ∀ w ∈ v :: items, ScansBack w)
    (rest : List Char) (fuel : Nat)
    (hfuel : 2 * (v.chars.length + (itemsChars items).length) ≤ fuel + 1) :
    scanItems fuel (v.chars ++ (itemsChars items ++ rest)) = (ofItems (v :: items), some rest) := by
  induction items generalizing v fuel with
  | nil =>
    obtain ⟨fuel, rfl⟩ : ∃ k, fuel = k + 1 := ⟨fuel - 1, by simp [itemsChars] at hfuel; omega⟩
    have hv := h v List.mem_cons_self (itemsChars [] ++ rest) fuel (stops_itemsChars _ _)
      (by simp [itemsChars] at hfuel; omega)
    rw [scanItems, hv]
    rfl
  | cons w items ih =>
    simp only [itemsChars, List.length_cons, List.length_append] at hfuel
    obtain ⟨fuel, rfl⟩ : ∃ k, fuel = k + 1 := ⟨fuel - 1, by omega⟩
    have hv := h v List.mem_cons_self (itemsChars (w :: items) ++ rest) fuel
      (stops_itemsChars _ _) (by omega)
    have hitems := ih (fun x hx => h x (List.mem_cons_of_mem v hx)) fuel (by omega)
    rw [scanItems, hv]
    simp only [itemsChars, List.cons_append, List.append_assoc, skipSpace_cons (c := ',') rfl,
      hitems, ofItems]

/-- The members of an object are scanned back, up to the closing brace. -/
lemma scanMembers_chars {k : String} {v : Value} {members : List (String × Value)}
    (h : ∀ m ∈ (k, v) :: members, ScansBack m.2) (rest : List Char) (fuel : Nat)
    (hfuel : 2 * (v.chars.length + (membersChars members).length) ≤ fuel + 1) :
    scanMembers fuel (quoted k ++ ':' :: (v.chars ++ (membersChars members ++ rest))) =
      (ofMembers ((k, v) :: members), some rest) := by
  induction members generalizing k v fuel with
  | nil =>
    obtain ⟨fuel, rfl⟩ : ∃ k, fuel = k + 1 := ⟨fuel - 1, by simp [membersChars] at hfuel; omega⟩
    have hback : ScansBack v := h (k, v) List.mem_cons_self
    have hv := hback (membersChars [] ++ rest) fuel (stops_membersChars _ _)
      (by simp [membersChars] at hfuel; omega)
    simp only [scanMembers, quoted, List.cons_append, List.append_assoc, List.nil_append,
      skipSpace_cons (c := '"') rfl, skipSpace_cons (c := ':') rfl, scanString_escaped, hv]
    simp [membersChars, ofMembers, skipSpace_cons (c := '\x7d') rfl]
  | cons m members ih =>
    obtain ⟨l, w⟩ := m
    simp only [membersChars, List.length_cons, List.length_append] at hfuel
    obtain ⟨fuel, rfl⟩ : ∃ k, fuel = k + 1 := ⟨fuel - 1, by omega⟩
    have hback : ScansBack v := h (k, v) List.mem_cons_self
    have hv := hback (membersChars ((l, w) :: members) ++ rest) fuel (stops_membersChars _ _)
      (by omega)
    have hmembers := ih (fun x hx => h x (List.mem_cons_of_mem _ hx)) fuel (by omega)
    simp only [scanMembers, quoted, List.cons_append, List.append_assoc, List.nil_append,
      skipSpace_cons (c := '"') rfl, skipSpace_cons (c := ':') rfl, scanString_escaped, hv]
    simp only [quoted, List.cons_append, List.append_assoc, List.nil_append] at hmembers
    simp [membersChars, ofMembers, quoted, skipSpace_cons (c := ',') rfl, hmembers]

/-- A text that starts as a scalar does is scanned as one. -/
lemma scanValue_eq_scanScalar {c : Char} (cs : List Char) (hspace : isSpace c = false)
    (hlist : c ≠ '[') (hobj : c ≠ '\x7b') (fuel : Nat) :
    scanValue (fuel + 1) (c :: cs) = scanScalar (c :: cs) := by
  rw [scanValue, skipSpace_cons hspace]
  split
  · rename_i heq
    exact absurd (List.cons.inj heq).1 hlist
  · rename_i heq
    exact absurd (List.cons.inj heq).1 hobj
  · rfl

/-- A text that starts with a digit or a minus sign is scanned as a numeral. -/
lemma scanScalar_numeral {c : Char} {cs rest : List Char} {numeral : Numeral} {number : Number}
    (hc : c.isDigit = true ∨ c = '-') (hscan : scanNumeral (c :: cs) = some (numeral, rest))
    (hvalue : numeral.value = some number) : scanScalar (c :: cs) = (.num number, some rest) := by
  rw [scanScalar]
  · simp only [hscan, hvalue]
  -- neither a literal nor a string starts as a numeral does
  · exact fun _ h => absurd (List.cons.inj h).1 (ne_of_numeral hc rfl)
  · exact fun _ h => absurd (List.cons.inj h).1 (ne_of_numeral hc rfl)
  · exact fun _ h => absurd (List.cons.inj h).1 (ne_of_numeral hc rfl)
  · exact fun _ h => absurd (List.cons.inj h).1 (ne_of_numeral hc rfl)

/-- A list is scanned back if its items are. -/
lemma scansBack_list {n : Nat} {items : List Value} (hfits : ∀ v ∈ items, v.Fits n)
    (h : ∀ v ∈ items, ScansBack v) : ScansBack (.list items) := by
  intro rest fuel _ hfuel
  cases items with
  | nil =>
    obtain ⟨fuel, rfl⟩ : ∃ k, fuel = k + 1 := ⟨fuel - 1, by simp [chars] at hfuel; omega⟩
    rfl
  | cons v items =>
    simp only [chars, List.length_cons, List.length_append] at hfuel
    obtain ⟨fuel, rfl⟩ : ∃ k, fuel = k + 1 := ⟨fuel - 1, by omega⟩
    have hitems := scanItems_chars h rest fuel (by omega)
    obtain ⟨c, cs, hcs, hspace, hclose⟩ := exists_chars_eq_cons (hfits v List.mem_cons_self)
    simp only [chars, List.cons_append, List.append_assoc, scanValue, skipSpace_cons (c := '[') rfl]
    rw [hitems, hcs, List.cons_append, skipSpace_cons hspace]
    simp [hclose, ofValue]

/-- An object is scanned back if its values are. -/
lemma scansBack_obj {members : List (String × Value)} (h : ∀ m ∈ members, ScansBack m.2) :
    ScansBack (.obj members) := by
  intro rest fuel _ hfuel
  cases members with
  | nil =>
    obtain ⟨fuel, rfl⟩ : ∃ k, fuel = k + 1 := ⟨fuel - 1, by simp [chars] at hfuel; omega⟩
    rfl
  | cons m members =>
    obtain ⟨k, v⟩ := m
    simp only [chars, List.length_cons, List.length_append] at hfuel
    obtain ⟨fuel, rfl⟩ : ∃ k, fuel = k + 1 := ⟨fuel - 1, by omega⟩
    have hmembers := scanMembers_chars h rest fuel (by omega)
    simp only [chars, List.cons_append, List.append_assoc, scanValue,
      skipSpace_cons (c := '\x7b') rfl, hmembers]
    simp [quoted, skipSpace_cons (c := '"') rfl, ofValue]

/-- A value is scanned back wherever its text stands.

**Proof sketch.** By induction on the levels of the value. A list or an object takes a character of
its own for every level of the scanner, and for every item or member that follows another. -/
theorem scansBack {n : Nat} {v : Value} (h : v.Fits n) : ScansBack v := by
  induction h with
  | list hfits ih => exact scansBack_list hfits ih
  | obj _ ih => exact scansBack_obj ih
  | null =>
    intro rest fuel _ hfuel
    obtain ⟨fuel, rfl⟩ : ∃ k, fuel = k + 1 := ⟨fuel - 1, by simp [chars] at hfuel; omega⟩
    exact scanValue_eq_scanScalar _ rfl (by decide) (by decide) fuel
  | bool _ b =>
    intro rest fuel _ hfuel
    obtain ⟨fuel, rfl⟩ : ∃ k, fuel = k + 1 :=
      ⟨fuel - 1, by cases b <;> simp [chars] at hfuel <;> omega⟩
    cases b <;> exact scanValue_eq_scanScalar _ rfl (by decide) (by decide) fuel
  | str _ s =>
    intro rest fuel _ hfuel
    obtain ⟨fuel, rfl⟩ : ∃ k, fuel = k + 1 := ⟨fuel - 1, by simp [chars, quoted] at hfuel; omega⟩
    simp only [chars, quoted, List.cons_append, List.append_assoc, List.nil_append]
    rw [scanValue_eq_scanScalar _ rfl (by decide) (by decide)]
    simp [scanScalar, scanString_escaped, ofValue]
  | @int _ i hlow hhigh =>
    intro rest fuel hstop hfuel
    obtain ⟨numeral, hscan, hvalue⟩ := scanNumeral_intChars hlow hhigh hstop
    obtain ⟨c, cs, hcs, hc⟩ := exists_intChars_eq_cons i
    have hchars : (Value.int i).chars = c :: cs := hcs
    rw [hcs, List.cons_append] at hscan
    rw [hchars, List.length_cons] at hfuel
    obtain ⟨fuel, rfl⟩ : ∃ k, fuel = k + 1 := ⟨fuel - 1, by omega⟩
    rw [hchars, List.cons_append, scanValue_eq_scanScalar _ (isSpace_of_numeral hc)
      (ne_of_numeral hc rfl) (ne_of_numeral hc rfl), scanScalar_numeral hc hscan hvalue]
    rfl

/-- A text is scanned to the tree of its value, with nothing left over. -/
theorem scan_text {n : Nat} {v : Value} (h : v.Fits n) : scan v.text = (ofValue v, true) := by
  have hscan := scansBack h [] (2 * v.chars.length + 2) (by simp [Stops]) (by omega)
  rw [List.append_nil] at hscan
  simp only [scan, text, String.toList_ofList, hscan]
  rfl

/-! ## Trees -/

mutual

/-- The tree of a value keeps to the grammar. -/
lemma wellFormed_ofValue : ∀ v : Value, (ofValue v).wellFormed = true
  | .null | .bool _ | .num _ | .str _ => rfl
  | .list items => by rw [ofValue, wellFormed, wellFormedItems_ofItems items, Bool.and_self]
  | .obj members => by
    rw [ofValue, wellFormed, wellFormedMembers_ofMembers members, Bool.and_self]

/-- The trees of some values keep to the grammar. -/
lemma wellFormedItems_ofItems : ∀ items : List Value, wellFormedItems (ofItems items) = true
  | [] => rfl
  | v :: items => by
    rw [ofItems, wellFormedItems, wellFormed_ofValue v, wellFormedItems_ofItems items, Bool.and_self]

/-- The trees of some members keep to the grammar. -/
lemma wellFormedMembers_ofMembers :
    ∀ members : List (String × Value), wellFormedMembers (ofMembers members) = true
  | [] => rfl
  | (k, v) :: members => by
    rw [ofMembers, wellFormedMembers, wellFormed_ofValue v, wellFormedMembers_ofMembers members,
      Bool.and_self]

end

end Doc

/-! ## Reading values -/

/-- So many levels of lists and objects may still be entered. -/
def Source.Allows : Source → Nat → Prop
  | .text levels, n => n ≤ levels
  | .memory, _ => True

/-- A value at hand is entered however deep it is. -/
lemma Source.enter_memory : Source.memory.enter = .ok .memory := rfl

/-- A level that may be entered is entered. -/
lemma Source.Allows.enter {src : Source} {n : Nat} (h : src.Allows (n + 1)) :
    ∃ inner, src.enter = .ok inner ∧ inner.Allows n := by
  cases src with
  | memory => exact ⟨.memory, rfl, trivial⟩
  | text levels =>
    cases levels with
    | zero => exact absurd h (by simp [Source.Allows])
    | succ levels => exact ⟨.text levels, rfl, Nat.le_of_succ_le_succ h⟩

namespace Codec

open Doc

/-- The items of a list are read back if each one is. -/
lemma readValues_ofItems {src : Source} {items : List Value}
    (h : ∀ v ∈ items, readValue src (Doc.ofValue v) = .ok v) :
    readValues src true (ofItems items) = .ok items := by
  induction items with
  | nil => rfl
  | cons v items ih =>
    obtain ⟨hv, hitems⟩ := List.forall_mem_cons.mp h
    rw [ofItems, readValues, hv, ih hitems]
    rfl

/-- The members of an object are read back if each value is. -/
lemma readMembers_ofMembers {src : Source} {members : List (String × Value)}
    (h : ∀ m ∈ members, readValue src (Doc.ofValue m.2) = .ok m.2) :
    readMembers src true (ofMembers members) = .ok members := by
  induction members with
  | nil => rfl
  | cons m members ih =>
    obtain ⟨hv, hmembers⟩ := List.forall_mem_cons.mp h
    rw [ofMembers, readMembers, hv, ih hmembers]
    rfl

/-- A tree is read back as its value where its levels may be entered. -/
theorem readValue_ofValue {n : Nat} {v : Value} (h : v.Fits n) {src : Source}
    (hsrc : src.Allows n) : readValue src (Doc.ofValue v) = .ok v := by
  induction h generalizing src with
  | null | bool | int | str => cases src <;> rfl
  | list _ ih =>
    obtain ⟨inner, henter, hinner⟩ := hsrc.enter
    rw [Doc.ofValue, readValue, henter]
    change Value.list <$> readValues inner true _ = _
    rw [readValues_ofItems fun v hv => ih v hv hinner]
    rfl
  | obj _ ih =>
    obtain ⟨inner, henter, hinner⟩ := hsrc.enter
    rw [Doc.ofValue, readValue, henter]
    change Value.obj <$> readMembers inner true _ = _
    rw [readMembers_ofMembers fun m hm => ih m hm hinner]
    rfl

/-- What is decoded from a text was read from the tree of the text. -/
lemma read_of_decode {α : Type} {c : Codec α} {text : String} {x : α}
    (h : c.decode text = .ok x) : c.read .document (Doc.scan text).1 = .ok x := by
  cases hread : c.read .document (Doc.scan text).1 with
  | error fault =>
    simp only [decode, hread] at h
    cases h
  | ok y =>
    simp only [decode, hread, bind, Except.bind] at h
    split at h <;> cases h
    rfl

/-- Decoding the text of a value is reading the tree of the value. -/
theorem decode_text {α : Type} (c : Codec α) {n : Nat} {v : Value} (h : v.Fits n) :
    c.decode v.text = c.read .document (Doc.ofValue v) := by
  rw [decode, scan_text h]
  change (c.read .document (Doc.ofValue v) >>= fun x => pure x) = _
  rw [bind_pure]

end Codec

end TokenAuthority.Json
