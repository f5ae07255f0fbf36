import Mathlib.Data.List.Basic
import Mathlib.Tactic.Lemma
import TokenAuthority.Jwt.Signing

/-!
# Texts of bytes

Bytes that are written in Base64 are read back as they were, and so are texts that are written in
UTF-8. A Base64 text for tokens has no point in it, so that the parts of a token can be told apart.

## Main definitions

* `TokenAuthority.Base64.Alphabet.Lawful` — no two digits of an alphabet are the same.

## Main results

* `TokenAuthority.Base64.decode?_encode` — bytes are read back as they were.
* `TokenAuthority.fromUTF8?_utf8` — texts are read back as they were.
* `TokenAuthority.point_notMem_base64url` — there is no point in a Base64 text for tokens.
-/

set_option autoImplicit false

namespace TokenAuthority

namespace Base64

/-- Every digit of the alphabet stands for its number. -/
def Alphabet.Lawful (a : Alphabet) : Prop := ∀ n < 64, value? a (digit a n) = some n

/-- The alphabet of tokens is lawful. -/
lemma lawful_urlSafe : urlSafe.Lawful := by
  unfold Alphabet.Lawful
  decide

variable {a : Alphabet}

/-- Every number below 64 has a digit that stands for it. -/
lemma Alphabet.Lawful.value?_digit (ha : a.Lawful) {n : Nat} (hn : n < 64) :
    value? a (digit a n) = some n := ha n hn

/-- What is encoded is read back as it was.

**Proof sketch.** Three bytes are four digits, and the digits are read back as numbers below 64. The
rest is the division of a number of 24 bits into groups of 6 and of 8; at the end there may be a
group of one byte or of two, with zeros behind it. -/
theorem decode?_encode (ha : a.Lawful) (bytes : Bytes) :
    decode? a (encode a bytes) = some bytes := by
  induction bytes using encode.induct with
  | case1 => rfl
  | case2 x =>
    have hx := x.toNat_lt
    have hzero : x.toNat % 4 * 16 % 16 = 0 := by omega
    have hx' : x.toNat / 4 * 4 + x.toNat % 4 * 16 / 16 = x.toNat := by omega
    simp only [encode, decode?, ha.value?_digit (n := x.toNat / 4) (by omega),
      ha.value?_digit (n := x.toNat % 4 * 16) (by omega), hzero, hx', if_true, UInt8.ofNat_toNat]
  | case3 x y =>
    have hx := x.toNat_lt
    have hy := y.toNat_lt
    simp only [encode]
    generalize hn : x.toNat * 256 + y.toNat = n
    have hjoin : (n / 1024 * 64 + n / 16 % 64) * 64 + n % 16 * 4 = n * 4 := by omega
    have hx' : n * 4 / 1024 = x.toNat := by omega
    have hy' : n * 4 / 4 % 256 = y.toNat := by omega
    simp only [decode?, ha.value?_digit (n := n / 1024) (by omega),
      ha.value?_digit (n := n / 16 % 64) (by omega), ha.value?_digit (n := n % 16 * 4) (by omega),
      hjoin, Nat.mul_mod_left, hx', hy', if_true, UInt8.ofNat_toNat]
  | case4 x y z rest ih =>
    have hx := x.toNat_lt
    have hy := y.toNat_lt
    have hz := z.toNat_lt
    simp only [encode]
    generalize hn : (x.toNat * 256 + y.toNat) * 256 + z.toNat = n
    have hjoin : ((n / 262144 * 64 + n / 4096 % 64) * 64 + n / 64 % 64) * 64 + n % 64 = n := by
      omega
    have hx' : n / 65536 = x.toNat := by omega
    have hy' : n / 256 % 256 = y.toNat := by omega
    have hz' : n % 256 = z.toNat := by omega
    simp only [decode?, ha.value?_digit (n := n / 262144) (by omega),
      ha.value?_digit (n := n / 4096 % 64) (by omega), ha.value?_digit (n := n / 64 % 64) (by omega),
      ha.value?_digit (n := n % 64) (by omega), hjoin, ih, Option.map_some, hx', hy', hz',
      UInt8.ofNat_toNat]

/-- The characters of a Base64 text are digits. -/
lemma mem_encode {bytes : Bytes} {c : Char} (hc : c ∈ encode a bytes) :
    ∃ n < 64, c = digit a n := by
  induction bytes using encode.induct with
  | case1 => cases hc
  | case2 x =>
    have hx := x.toNat_lt
    simp only [encode, List.mem_cons, List.not_mem_nil, or_false] at hc
    rcases hc with rfl | rfl <;> exact ⟨_, by omega, rfl⟩
  | case3 x y =>
    have hx := x.toNat_lt
    have hy := y.toNat_lt
    simp only [encode, List.mem_cons, List.not_mem_nil, or_false] at hc
    rcases hc with rfl | rfl | rfl <;> exact ⟨_, by omega, rfl⟩
  | case4 x y z rest ih =>
    have hx := x.toNat_lt
    have hy := y.toNat_lt
    have hz := z.toNat_lt
    simp only [encode, List.mem_cons] at hc
    rcases hc with rfl | rfl | rfl | rfl | hc
    · exact ⟨_, by omega, rfl⟩
    · exact ⟨_, by omega, rfl⟩
    · exact ⟨_, by omega, rfl⟩
    · exact ⟨_, by omega, rfl⟩
    · exact ih hc

end Base64

/-- The bytes of an array, from a place on, behind others. -/
lemma toList_loop_eq (bytes : ByteArray) (i : Nat) (acc : List UInt8) :
    ByteArray.toList.loop bytes i acc = acc.reverse ++ bytes.data.toList.drop i := by
  fun_induction ByteArray.toList.loop bytes i acc with
  | case1 i acc h ih =>
    have hi : i < bytes.data.toList.length := by simpa using h
    rw [ih, List.drop_eq_getElem_cons (l := bytes.data.toList) hi]
    simp [ByteArray.get!, h]
  | case2 i acc h =>
    rw [List.drop_eq_nil_of_le (by simpa using Nat.le_of_not_lt h)]
    simp

/-- A text is read back from its bytes as it was. -/
theorem fromUTF8?_utf8 (s : String) : String.fromUTF8? ⟨(utf8 s).toArray⟩ = some s := by
  have hbytes : (⟨(utf8 s).toArray⟩ : ByteArray) = s.toByteArray := by
    rw [utf8, String.toUTF8_eq_toByteArray, ByteArray.toList, toList_loop_eq]
    simp
  rw [hbytes, String.fromUTF8?, dif_pos s.isValidUTF8]
  rfl

/-- There is no point in a Base64 text for tokens. -/
theorem point_notMem_base64url (bytes : Bytes) : '.' ∉ (base64url bytes).toList := by
  rw [base64url, String.toList_ofList]
  intro hc
  obtain ⟨n, hn, hpoint⟩ := Base64.mem_encode hc
  have hno : ∀ n < 64, '.' ≠ Base64.digit Base64.urlSafe n := by decide
  exact hno n hn hpoint

end TokenAuthority
