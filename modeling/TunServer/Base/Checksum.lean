import Mathlib

/-!
# One's complement checksums

A datagram is summed as words of 16 bits; a carry out of the word is added again at its other end.  What
comes of it does not depend on the order of the bytes in a word, up to the order in the result.

* `wordSum u v`      the sum of the words whose first byte counts `u`-fold and whose second one `v`-fold;
* `ocValue`          a sum with its carries added in; `ocValue_fold` one such addition changes nothing;
* `Verifies`         the test of a receiver that reads words in network order;
* `verifies_iff`     the same test for words in the other order;
* `verifies_stored`  the complement of the sum makes the test succeed;
* `verifies_changed` and then it fails for another word in one place.
-/

namespace TunServer

/-- the sum of the words; a last byte without a partner is the first one of its word -/
def wordSum (u v : Nat) : List (BitVec 8) → Nat
  | [] => 0
  | [a] => u * a.toNat
  | a :: b :: l => u * a.toNat + v * b.toNat + wordSum u v l

/-- the sum with its carries added in: zero, or from 1 to 65535 -/
def ocValue (n : Nat) : Nat := if n = 0 then 0 else (n - 1) % 65535 + 1

/-- the words, read in network order, sum up to "minus zero" -/
def Verifies (l : List (BitVec 8)) : Prop := ocValue (wordSum 256 1 l) = 65535

instance (l : List (BitVec 8)) : Decidable (Verifies l) := inferInstanceAs (Decidable (_ = _))

/-! ## carries -/

theorem ocValue_of_lt {n : Nat} (h : n < 65536) : ocValue n = n := by
  unfold ocValue
  split_ifs with h0
  · omega
  · omega

theorem ocValue_le (n : Nat) : ocValue n ≤ 65535 := by
  unfold ocValue
  split_ifs
  · omega
  · omega

/-- one more turn of the loop that adds the carries in -/
theorem ocValue_fold (n : Nat) : ocValue (n % 65536 + n / 65536) = ocValue n := by
  unfold ocValue
  by_cases h0 : n = 0
  · rw [h0]
  · have e : n - 1 = n % 65536 + n / 65536 - 1 + 65535 * (n / 65536) := by omega
    rw [if_neg h0, if_neg (by omega), e, Nat.add_mul_mod_self_left]

theorem ocValue_dvd (n : Nat) : 65535 ∣ n + (65535 - ocValue n) := by
  unfold ocValue
  split_ifs
  · omega
  · omega

theorem ocValue_eq_max {n : Nat} : ocValue n = 65535 ↔ 0 < n ∧ 65535 ∣ n := by
  unfold ocValue
  split_ifs with h0
  · exact ⟨fun h => absurd h (by decide), fun h => absurd h0 h.1.ne'⟩
  · constructor
    · intro h
      exact ⟨by omega, by omega⟩
    · rintro ⟨_, h⟩
      omega

/-! ## sums of words -/

section
variable {u v : Nat}

theorem wordSum_append {pre : List (BitVec 8)} (h : 2 ∣ pre.length) (post : List (BitVec 8)) :
    wordSum u v (pre ++ post) = wordSum u v pre + wordSum u v post := by
  induction pre using wordSum.induct with
  | case1 => exact (Nat.zero_add _).symm
  | case2 a => exact absurd h (show ¬ 2 ∣ 1 by decide)
  | case3 a b l ih =>
    have hl : 2 ∣ l.length := by
      rw [List.length_cons, List.length_cons] at h
      omega
    show _ + wordSum u v (l ++ post) = _ + wordSum u v l + _
    rw [ih hl, ← Nat.add_assoc]

theorem wordSum_mul (k : Nat) (l : List (BitVec 8)) : wordSum (k * u) (k * v) l = k * wordSum u v l := by
  induction l using wordSum.induct with
  | case1 => rfl
  | case2 a => exact Nat.mul_assoc k u _
  | case3 a b l ih =>
    show k * u * a.toNat + k * v * b.toNat + wordSum (k * u) (k * v) l = k * (_ + wordSum u v l)
    rw [ih]
    ring

theorem wordSum_mod {v' : Nat} (h : v % 65535 = v' % 65535) (l : List (BitVec 8)) :
    wordSum u v l % 65535 = wordSum u v' l % 65535 := by
  induction l using wordSum.induct with
  | case1 => rfl
  | case2 a => rfl
  | case3 a b l ih =>
    show (_ + v * b.toNat + wordSum u v l) % 65535 = (_ + v' * b.toNat + wordSum u v' l) % 65535
    exact Nat.ModEq.add (Nat.ModEq.add_left _ (Nat.ModEq.mul_right _ h)) ih

/-- The sums in both orders differ by the factor 256. -/
theorem wordSum_swap (l : List (BitVec 8)) : wordSum 256 1 l % 65535 = 256 * wordSum 1 256 l % 65535 := by
  rw [← wordSum_mul 256 l]
  exact @wordSum_mod 256 1 (256 * 256) rfl l

/-- a sum is zero when all bytes are -/
theorem wordSum_eq_zero (hu : 0 < u) (hv : 0 < v) (l : List (BitVec 8)) :
    wordSum u v l = 0 ↔ ∀ b ∈ l, b.toNat = 0 := by
  induction l using wordSum.induct with
  | case1 => exact ⟨fun _ b hb => absurd hb List.not_mem_nil, fun _ => rfl⟩
  | case2 a =>
    show u * a.toNat = 0 ↔ _
    rw [List.forall_mem_singleton, Nat.mul_eq_zero, or_iff_right (by omega)]
  | case3 a b l ih =>
    show u * a.toNat + v * b.toNat + wordSum u v l = 0 ↔ _
    rw [List.forall_mem_cons, List.forall_mem_cons, ← ih, Nat.add_eq_zero_iff, Nat.add_eq_zero_iff,
      Nat.mul_eq_zero, Nat.mul_eq_zero, or_iff_right (by omega), or_iff_right (by omega), and_assoc]

end

/-! ## the test of a receiver -/

/-- **The order of the bytes does not matter.** -/
theorem verifies_iff (l : List (BitVec 8)) : Verifies l ↔ 0 < wordSum 1 256 l ∧ 65535 ∣ wordSum 1 256 l := by
  unfold Verifies
  have hswap := wordSum_swap l
  have hzero : wordSum 256 1 l = 0 ↔ wordSum 1 256 l = 0 := by
    rw [wordSum_eq_zero (by decide) (by decide), wordSum_eq_zero (by decide) (by decide)]
  rw [ocValue_eq_max]
  omega

/-- what a word adds to the sum of the others -/
theorem sum_of_word {pre post : List (BitVec 8)} {a b : BitVec 8} (h : 2 ∣ pre.length) :
    wordSum 1 256 (pre ++ [a, b] ++ post) =
      wordSum 1 256 pre + wordSum 1 256 post + (a.toNat + 256 * b.toNat) := by
  rw [List.append_assoc, wordSum_append h]
  show _ + (1 * a.toNat + 256 * b.toNat + wordSum 1 256 post) = _
  ring

/-- **A word is filled in** with the complement of the sum of the others. -/
theorem verifies_stored {pre post : List (BitVec 8)} {lo hi : BitVec 8} (h : 2 ∣ pre.length)
    (hc : lo.toNat + 256 * hi.toNat = 65535 - ocValue (wordSum 1 256 (pre ++ [0, 0] ++ post))) :
    Verifies (pre ++ [lo, hi] ++ post) := by
  rw [verifies_iff, sum_of_word h]
  rw [sum_of_word h] at hc
  have h0 : (0 : BitVec 8).toNat = 0 := rfl
  have hdvd := ocValue_dvd (wordSum 1 256 pre + wordSum 1 256 post)
  have hle := ocValue_le (wordSum 1 256 pre + wordSum 1 256 post)
  have hzero : wordSum 1 256 pre + wordSum 1 256 post = 0 →
      ocValue (wordSum 1 256 pre + wordSum 1 256 post) = 0 := by
    intro h1
    rw [h1]
    rfl
  rw [h0, Nat.mul_zero, Nat.add_zero] at hc
  rw [hc]
  exact ⟨by omega, hdvd⟩

/-- **One word that changes.**  The test notices, unless both words are "zero". -/
theorem verifies_changed {pre post : List (BitVec 8)} {a b a' b' : BitVec 8} (h : 2 ∣ pre.length)
    (hl : Verifies (pre ++ [a, b] ++ post)) (hpost : 0 < wordSum 1 256 (pre ++ [a', b'] ++ post)) :
    Verifies (pre ++ [a', b'] ++ post) ↔
      (a'.toNat + 256 * b'.toNat) % 65535 = (a.toNat + 256 * b.toNat) % 65535 := by
  rw [verifies_iff] at hl ⊢
  rw [sum_of_word h] at hl hpost ⊢
  obtain ⟨_, hdvd⟩ := hl
  constructor
  · rintro ⟨_, hdvd'⟩
    omega
  · intro hmod
    exact ⟨hpost, by omega⟩

end TunServer
