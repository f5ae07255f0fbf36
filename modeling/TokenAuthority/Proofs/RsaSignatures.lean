import Mathlib.FieldTheory.Finite.Basic
import Mathlib.NumberTheory.LucasPrimality
import Mathlib.Tactic.Lemma
import TokenAuthority.Crypto.Rsa

/-!
# RSA signatures verify

What a private key has signed verifies with its public key. Both halves of a key raise a number to a
power modulo the modulus; Fermat's little theorem, once for each prime, shows that one undoes the
other.

## Main definitions

* `TokenAuthority.Rsa.PrivateKey.Verifies` — what the key signs verifies with its public key.
* `TokenAuthority.Rsa.PrivateKey.OfPrimes` — the key is made of two different primes.

## Main results

* `TokenAuthority.Der.number_injective` — bytes are known by their length and their number.
* `TokenAuthority.Rsa.powMod_eq` — the power by binary digits is the power.
* `TokenAuthority.Rsa.fixedBytes_number` — bytes are written back from their number.
* `TokenAuthority.Rsa.prime_of_powMod` — a test for primes.
* `TokenAuthority.Rsa.PrivateKey.OfPrimes.verifies` — a key of two primes verifies what it signs.
-/

set_option autoImplicit false

namespace TokenAuthority

/-! ## Bytes and their number -/

namespace Der

/-- Bytes that are read onto a number. -/
lemma foldl_number (n : Nat) (bytes : Bytes) :
    bytes.foldl (fun n b => n * 256 + b.toNat) n = n * 256 ^ bytes.length + number bytes := by
  induction bytes generalizing n with
  | nil => simp [number]
  | cons b rest ih =>
    have hhead : number (b :: rest) = (0 * 256 + b.toNat) * 256 ^ rest.length + number rest :=
      ih (0 * 256 + b.toNat)
    rw [List.foldl_cons, ih, hhead, List.length_cons]
    ring

/-- The first byte is the most significant one. -/
lemma number_cons (b : UInt8) (rest : Bytes) :
    number (b :: rest) = b.toNat * 256 ^ rest.length + number rest := by
  rw [number, List.foldl_cons, foldl_number, Nat.zero_mul, Nat.zero_add]

/-- Zeros at the front do not count. -/
@[simp] lemma number_replicate_zero_append (n : Nat) (bytes : Bytes) :
    number (List.replicate n 0 ++ bytes) = number bytes := by
  induction n with
  | zero => rfl
  | succ n ih => rw [List.replicate_succ, List.cons_append, number_cons, ih]; simp

/-- The number of some bytes is bounded by their count. -/
lemma number_lt (bytes : Bytes) : number bytes < 256 ^ bytes.length := by
  induction bytes with
  | nil => simp [number]
  | cons b rest ih =>
    have hb : b.toNat + 1 ≤ 256 := b.toNat_lt
    calc number (b :: rest) = b.toNat * 256 ^ rest.length + number rest := number_cons b rest
      _ < (b.toNat + 1) * 256 ^ rest.length := by rw [Nat.succ_mul]; omega
      _ ≤ 256 * 256 ^ rest.length := Nat.mul_le_mul_right _ hb
      _ = 256 ^ (b :: rest).length := by rw [List.length_cons, Nat.pow_succ, Nat.mul_comm]

/-- As many bytes with the same number are the same. -/
theorem number_injective {as bs : Bytes} (hlen : as.length = bs.length)
    (h : number as = number bs) : as = bs := by
  induction as generalizing bs with
  | nil => exact (List.length_eq_zero_iff.mp hlen.symm).symm
  | cons a as ih =>
    cases bs with
    | nil => cases hlen
    | cons b bs =>
      have hlen' : as.length = bs.length := Nat.succ.inj hlen
      have has : number as < 256 ^ bs.length := hlen' ▸ number_lt as
      have hpos : 0 < 256 ^ bs.length := Nat.lt_of_le_of_lt (Nat.zero_le _) has
      rw [number_cons, number_cons, hlen'] at h
      have hhead : a.toNat = b.toNat := by
        have hquotient := congrArg (· / 256 ^ bs.length) h
        simpa [Nat.mul_comm _ (256 ^ bs.length), Nat.mul_add_div hpos, Nat.div_eq_of_lt has,
          Nat.div_eq_of_lt (number_lt bs)] using hquotient
      have htail : number as = number bs := by
        rw [hhead] at h
        exact Nat.add_left_cancel h
      rw [UInt8.toNat_inj.mp hhead, ih hlen' htail]

end Der

namespace Rsa

open Der

/-- The bytes of a number stand in front of the others. -/
lemma number_bytesFrom {fuel n : Nat} (acc : Bytes) (h : n < 256 ^ fuel) :
    number (bytesFrom fuel n acc) = n * 256 ^ acc.length + number acc := by
  induction fuel generalizing n acc with
  | zero =>
    obtain rfl : n = 0 := by simpa using h
    rw [bytesFrom, Nat.zero_mul, Nat.zero_add]
  | succ fuel ih =>
    rw [bytesFrom]
    split
    · rename_i hzero
      rw [hzero, Nat.zero_mul, Nat.zero_add]
    · have hrest : n / 256 < 256 ^ fuel :=
        Nat.div_lt_of_lt_mul (by rwa [Nat.pow_succ, Nat.mul_comm] at h)
      have hsplit : n / 256 * 256 + n % 256 = n := Nat.div_add_mod' n 256
      rw [ih _ hrest, number_cons, List.length_cons, UInt8.toNat_ofNat',
        Nat.pow_succ, ← Nat.add_assoc, Nat.mul_comm (256 ^ acc.length) 256, ← Nat.mul_assoc,
        ← Nat.add_mul, hsplit]

/-- The bytes of a number are no more than it takes. -/
lemma length_bytesFrom_le (fuel : Nat) {n width : Nat} (acc : Bytes) (h : n < 256 ^ width) :
    (bytesFrom fuel n acc).length ≤ acc.length + width := by
  induction fuel generalizing n width acc with
  | zero => exact Nat.le_add_right _ _
  | succ fuel ih =>
    rw [bytesFrom]
    split
    · exact Nat.le_add_right _ _
    · rename_i hpos
      cases width with
      | zero => simp at h; contradiction
      | succ width =>
        have hrest : n / 256 < 256 ^ width :=
          Nat.div_lt_of_lt_mul (by rwa [Nat.pow_succ, Nat.mul_comm] at h)
        have hlen := ih (UInt8.ofNat n :: acc) hrest
        rw [List.length_cons] at hlen
        omega

/-- A number has no more bytes than its binary digits need. -/
lemma lt_pow_log2 (n : Nat) : n < 256 ^ (Nat.log2 n / 8 + 1) := by
  calc n < 2 ^ (Nat.log2 n + 1) := Nat.lt_log2_self
    _ ≤ 2 ^ (8 * (Nat.log2 n / 8 + 1)) := Nat.pow_le_pow_right (by omega) (by omega)
    _ = 256 ^ (Nat.log2 n / 8 + 1) := by rw [Nat.pow_mul]

/-- The bytes of a number have that number. -/
lemma number_fixedBytes (width n : Nat) : number (fixedBytes width n) = n := by
  rw [fixedBytes, number_replicate_zero_append, number_bytesFrom [] (lt_pow_log2 n)]
  simp [number]

/-- The bytes of a number, none of them to fill up, have that number. -/
lemma number_bytesOfNat (n : Nat) : number (bytesOfNat n) = n := by
  rw [bytesOfNat]
  split
  · rename_i hzero
    rw [hzero]
    rfl
  · rw [number_bytesFrom [] (lt_pow_log2 n)]
    simp [number]

/-- A number that fits is filled up to the width. -/
lemma length_fixedBytes {width n : Nat} (h : n < 256 ^ width) :
    (fixedBytes width n).length = width := by
  have hlen := length_bytesFrom_le (Nat.log2 n / 8 + 1) [] h
  rw [List.length_nil] at hlen
  rw [fixedBytes, List.length_append, List.length_replicate]
  omega

/-- Bytes are written back from their number. -/
theorem fixedBytes_number (bytes : Bytes) : fixedBytes bytes.length (number bytes) = bytes :=
  number_injective (length_fixedBytes (number_lt bytes)) (number_fixedBytes _ _)

/-! ## Powers -/

/-- The loop multiplies the power onto what it has so far.

**Proof sketch.** By induction on the binary digits of the exponent: the last digit says whether the
base is multiplied on, and the others are those of the exponent of the square. -/
lemma powModFrom_eq {m fuel : Nat} (b e acc : Nat) (h : e < 2 ^ fuel) (hacc : acc < m) :
    powModFrom m fuel b e acc = acc * b ^ e % m := by
  induction fuel generalizing b e acc with
  | zero =>
    obtain rfl : e = 0 := by simpa using h
    rw [powModFrom, Nat.pow_zero, Nat.mul_one, Nat.mod_eq_of_lt hacc]
  | succ fuel ih =>
    have hhalf : e / 2 < 2 ^ fuel :=
      Nat.div_lt_of_lt_mul (by rwa [Nat.pow_succ, Nat.mul_comm] at h)
    have hsquare : (b * b % m) ^ (e / 2) ≡ b ^ (2 * (e / 2)) [MOD m] := by
      rw [Nat.pow_mul, Nat.pow_two]
      exact (Nat.mod_modEq _ _).pow _
    rw [powModFrom]
    split
    · rename_i hzero
      rw [hzero, Nat.pow_zero, Nat.mul_one, Nat.mod_eq_of_lt hacc]
    · split
      · rename_i hodd
        rw [ih _ _ _ hhalf (Nat.mod_lt _ (by omega))]
        calc acc * b % m * (b * b % m) ^ (e / 2) % m
            = acc * b * b ^ (2 * (e / 2)) % m := (Nat.mod_modEq _ _).mul hsquare
          _ = acc * b ^ (2 * (e / 2) + 1) % m := by rw [Nat.pow_succ', Nat.mul_assoc]
          _ = acc * b ^ e % m := by rw [← hodd, Nat.div_add_mod]
      · rename_i heven
        have htwice : 2 * (e / 2) = e := by omega
        rw [ih _ _ _ hhalf hacc]
        calc acc * (b * b % m) ^ (e / 2) % m = acc * b ^ (2 * (e / 2)) % m := hsquare.mul_left acc
          _ = acc * b ^ e % m := by rw [htwice]

/-- The power by binary digits is the power. -/
theorem powMod_eq {m : Nat} (hm : 0 < m) (b e : Nat) : powMod b e m = b ^ e % m := by
  rw [powMod, powModFrom_eq _ _ _ Nat.lt_log2_self (Nat.mod_lt _ hm)]
  calc 1 % m * (b % m) ^ e % m = 1 * b ^ e % m :=
        (Nat.mod_modEq 1 m).mul ((Nat.mod_modEq b m).pow e)
    _ = b ^ e % m := by rw [Nat.one_mul]

/-- Modulo a prime, a power is the number itself if the exponent leaves one behind when it is divided
by the prime less one. -/
lemma pow_modEq_of_prime {p : Nat} (hp : p.Prime) {k : Nat} (hk : k % (p - 1) = 1) (m : Nat) :
    m ^ k ≡ m [MOD p] := by
  have := Fact.mk hp
  rw [← ZMod.natCast_eq_natCast_iff, Nat.cast_pow]
  by_cases hm : (m : ZMod p) = 0
  · have hpos : k ≠ 0 := by
      rintro rfl
      simp at hk
    rw [hm, zero_pow hpos]
  · have hfermat : (m : ZMod p) ^ (p - 1) = 1 := ZMod.pow_card_sub_one_eq_one hm
    have hk' := Nat.div_add_mod k (p - 1)
    rw [hk] at hk'
    calc (m : ZMod p) ^ k = (m : ZMod p) ^ ((p - 1) * (k / (p - 1)) + 1) := by rw [hk']
      _ = m := by rw [pow_add, pow_mul, hfermat, one_pow, one_mul, pow_one]

/-- Lucas's test for a number that is one above a prime times a power of two: some power with the
number less one as exponent is one, and with a proper part of this exponent it is not. -/
theorem prime_of_powMod {k n : Nat} (a : Nat) (hk : k.Prime)
    (hone : powMod a (k * 2 ^ n) (k * 2 ^ n + 1) = 1)
    (htwo : powMod a (k * 2 ^ n / 2) (k * 2 ^ n + 1) ≠ 1)
    (hrest : powMod a (k * 2 ^ n / k) (k * 2 ^ n + 1) ≠ 1) : (k * 2 ^ n + 1).Prime := by
  have hpos : 0 < k * 2 ^ n := Nat.mul_pos hk.pos (Nat.two_pow_pos n)
  have hpow (e : Nat) : (a : ZMod (k * 2 ^ n + 1)) ^ e = 1 ↔ powMod a e (k * 2 ^ n + 1) = 1 := by
    have hmod : 1 % (k * 2 ^ n + 1) = 1 := Nat.mod_eq_of_lt (Nat.succ_lt_succ hpos)
    rw [powMod_eq (Nat.succ_pos _), ← Nat.cast_pow, ← Nat.cast_one (R := ZMod _),
      ZMod.natCast_eq_natCast_iff', hmod]
  refine lucas_primality _ a ((hpow _).mpr hone) fun q hq hdvd => ?_
  rw [Ne, Nat.add_sub_cancel, hpow]
  rw [Nat.add_sub_cancel, hq.dvd_mul] at hdvd
  rcases hdvd with hdvd | hdvd
  · rwa [(Nat.prime_dvd_prime_iff_eq hq hk).mp hdvd]
  · rwa [(Nat.prime_dvd_prime_iff_eq hq Nat.prime_two).mp (hq.dvd_of_dvd_pow hdvd)]

/-! ## Signatures -/

/-- The modulus has as many bytes as its size says. -/
lemma PublicKey.size_spec {k : PublicKey} (h : k.modulus ≠ 0) :
    256 ^ (k.size - 1) ≤ k.modulus ∧ k.modulus < 256 ^ k.size := by
  rw [size, if_neg h]
  refine ⟨?_, lt_pow_log2 _⟩
  calc 256 ^ (Nat.log2 k.modulus / 8 + 1 - 1) = 2 ^ (8 * (Nat.log2 k.modulus / 8)) := by
        rw [Nat.add_sub_cancel, Nat.pow_mul]
    _ ≤ 2 ^ Nat.log2 k.modulus := Nat.pow_le_pow_right (by omega) (by omega)
    _ ≤ k.modulus := Nat.log2_self_le h

/-- A padded hash is as long as the modulus and starts with a zero. -/
lemma paddedHash?_spec {size : Nat} {message padded : Bytes}
    (h : paddedHash? size message = some padded) :
    padded.length = size ∧ number padded < 256 ^ (size - 1) := by
  rw [paddedHash?] at h
  split at h
  · cases h
  · rename_i hroom
    cases h
    generalize hashName ++ Sha256.hash message = tail at hroom ⊢
    have hlen : (1 :: (List.replicate (size - tail.length - 3) (0xff : UInt8) ++
        0 :: tail)).length = size - 1 := by
      simp only [List.length_cons, List.length_append, List.length_replicate]
      omega
    refine ⟨by rw [List.length_cons, hlen]; omega, ?_⟩
    rw [number_cons, UInt8.toNat_zero, Nat.zero_mul, Nat.zero_add, ← hlen]
    exact number_lt _

namespace PrivateKey

/-- What the key signs verifies with its public key. -/
def Verifies (k : PrivateKey) : Prop :=
  ∀ message signature, k.sign? message = some signature → k.publicKey.verify message signature

/-- What are called the primes of the key are two different primes. -/
structure OfPrimes (k : PrivateKey) : Prop where
  prime1 : k.prime1.Prime
  prime2 : k.prime2.Prime
  distinct : k.prime1 ≠ k.prime2

/-- A key of two different primes verifies what it signs: its exponents undo each other modulo both
primes, so they do modulo the product. -/
theorem OfPrimes.verifies {k : PrivateKey} (h : k.OfPrimes) (hsound : k.isSound = true) :
    k.Verifies := by
  intro message signature hsign
  obtain ⟨hp, hq, hne⟩ := h
  simp only [isSound, List.all_cons, List.all_nil, Bool.and_eq_true, Bool.and_true, beq_iff_eq,
    decide_eq_true_eq] at hsound
  obtain ⟨⟨hpublic, hproduct⟩, ⟨-, hundo1⟩, -, hundo2⟩ := hsound
  have hmodulus : 0 < k.publicKey.modulus := hproduct ▸ Nat.mul_pos hp.pos hq.pos
  obtain ⟨hlow, hhigh⟩ := PublicKey.size_spec hmodulus.ne'
  rw [sign?] at hsign
  obtain ⟨padded, hpadded, hsignature⟩ := Option.bind_eq_some_iff.mp hsign
  obtain rfl := Option.some.inj hsignature
  obtain ⟨hlen, hnumber⟩ := paddedHash?_spec hpadded
  have hback : number padded ^ (k.publicKey.exponent * k.exponent) ≡ number padded
      [MOD k.publicKey.modulus] := by
    rw [← hproduct, ← Nat.modEq_and_modEq_iff_modEq_mul ((Nat.coprime_primes hp hq).mpr hne)]
    exact ⟨pow_modEq_of_prime hp hundo1 _, pow_modEq_of_prime hq hundo2 _⟩
  have hopened : powMod (powMod (number padded) k.exponent k.publicKey.modulus)
      k.publicKey.exponent k.publicKey.modulus = number padded := by
    rw [powMod_eq hmodulus, powMod_eq hmodulus, ← Nat.pow_mod, ← Nat.pow_mul, Nat.mul_comm, hback,
      Nat.mod_eq_of_lt (hnumber.trans_le hlow)]
  have hbelow : powMod (number padded) k.exponent k.publicKey.modulus < k.publicKey.modulus := by
    rw [powMod_eq hmodulus]
    exact Nat.mod_lt _ hmodulus
  have hfixed : fixedBytes k.publicKey.size (number padded) = padded := by
    rw [← hlen, fixedBytes_number]
  simp only [PublicKey.verify, hpublic, length_fixedBytes (hbelow.trans hhigh), number_fixedBytes,
    hbelow, hpadded, hopened, hfixed, beq_self_eq_true, decide_true, Bool.and_self]

end PrivateKey

end Rsa

end TokenAuthority
