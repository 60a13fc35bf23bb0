import Mathlib.Tactic.Ring
import Mathlib.Tactic.Positivity
import Mathlib.Tactic.NormNum

/-!
# JavaScript numbers that hold integers

A JavaScript number is an IEEE-754 binary64 value: a significand of 53 bits times a power of
two.  Every integer of magnitude at most 2^53 is a number; above it the numbers are spaced by
`2 ^ ulpExp n`, a spacing that doubles with every binade.  `Binary64.round` is the number nearest
to an integer, a tie going to the even significand, which is how `JSON.parse` reads an integer
and how `+` rounds an exact sum; `Binary64.add` is `+` on two numbers that hold integers.

The exponent range is not bounded here: the sums beyond 2^1024 in magnitude, which JavaScript
turns into `Infinity`, are outside this model.

* `round_of_natAbs_le`: an integer of magnitude at most 2^53 is read and added exactly;
* `round_mono`: rounding keeps the order, so `+` is monotone in both arguments (`add_mono`).
-/

namespace PolarPortal.Binary64

/-- The exponent of the spacing around `m`: how often `m` is halved before it falls below
2^53, at most `fuel` times. -/
def ulpExpAux : Nat → Nat → Nat
  | 0, _ => 0
  | fuel + 1, m => if m < 2 ^ 53 then 0 else ulpExpAux fuel (m / 2) + 1

/-- The exponent of the spacing of the numbers around `n`: `0` below 2^53, one more for every
binade above. -/
def ulpExp (n : Nat) : Nat := ulpExpAux n n

/-- The number nearest to `n`: the multiple `q * 2 ^ ulpExp n` just below `n` or the next one,
whichever is nearer, and on a tie the one whose significand `q` is even. -/
def roundNat (n : Nat) : Nat :=
  let u := 2 ^ ulpExp n
  let q := n / u
  let r := n % u
  (if u < 2 * r ∨ (2 * r = u ∧ q % 2 = 1) then q + 1 else q) * u

/-- The number nearest to an integer; rounding to nearest is symmetric in the sign. -/
def round (x : Int) : Int :=
  if x < 0 then -(roundNat x.natAbs : Int) else (roundNat x.natAbs : Int)

/-- JavaScript's `+` on two numbers that hold integers: the exact sum, rounded. -/
def add (a b : Int) : Int := round (a + b)

/-! ## The spacing -/

theorem ulpExpAux_of_lt {fuel m : Nat} (h : m < 2 ^ 53) : ulpExpAux fuel m = 0 := by
  cases fuel with
  | zero => rfl
  | succ fuel => rw [ulpExpAux, if_pos h]

/-- The halving finds the binade: `m` lies below 2^53 spacings, and from 2^53 on at or above
2^52 of them. -/
theorem ulpExpAux_spec : ∀ fuel m, m ≤ fuel →
    m < 2 ^ 53 * 2 ^ ulpExpAux fuel m ∧ (2 ^ 53 ≤ m → 2 ^ 52 * 2 ^ ulpExpAux fuel m ≤ m)
  | 0, m, h => by
    obtain rfl : m = 0 := by omega
    simp [ulpExpAux]
  | fuel + 1, m, h => by
    by_cases hm : m < 2 ^ 53
    · rw [ulpExpAux_of_lt hm]
      exact ⟨by omega, fun h' => absurd h' (by omega)⟩
    · have ih := ulpExpAux_spec fuel (m / 2) (by omega)
      rw [ulpExpAux, if_neg hm, pow_succ]
      refine ⟨by omega, fun _ => ?_⟩
      by_cases hhalf : 2 ^ 53 ≤ m / 2
      · have := ih.2 hhalf
        omega
      · rw [ulpExpAux_of_lt (by omega)]
        omega

theorem ulpExp_of_lt {n : Nat} (h : n < 2 ^ 53) : ulpExp n = 0 := ulpExpAux_of_lt h

/-- Only the integers from 2^53 on are spaced by more than 1. -/
theorem le_of_ulpExp_pos {n : Nat} (h : 0 < ulpExp n) : 2 ^ 53 ≤ n :=
  not_lt.1 fun hn => by simp [ulpExp_of_lt hn] at h

theorem lt_ulp (n : Nat) : n < 2 ^ 53 * 2 ^ ulpExp n := (ulpExpAux_spec n n le_rfl).1

theorem ulp_le {n : Nat} (h : 2 ^ 53 ≤ n) : 2 ^ 52 * 2 ^ ulpExp n ≤ n :=
  (ulpExpAux_spec n n le_rfl).2 h

/-- A larger integer lies in the same binade or a higher one. -/
theorem ulpExp_mono {m n : Nat} (h : m ≤ n) : ulpExp m ≤ ulpExp n := by
  refine not_lt.1 fun hlt => ?_
  have hspacing : 2 ^ 53 * 2 ^ ulpExp n ≤ 2 ^ 52 * 2 ^ ulpExp m :=
    calc 2 ^ 53 * 2 ^ ulpExp n = 2 ^ 52 * 2 ^ (ulpExp n + 1) := by ring
      _ ≤ 2 ^ 52 * 2 ^ ulpExp m := Nat.mul_le_mul_left _ (Nat.pow_le_pow_right (by norm_num) hlt)
  have := ulp_le (le_of_ulpExp_pos (by omega : 0 < ulpExp m))
  have := lt_ulp n
  omega

/-! ## Rounding -/

/-- The rounded value is the multiple of the spacing just below `n`, or the next one. -/
theorem roundNat_between (n : Nat) :
    n / 2 ^ ulpExp n * 2 ^ ulpExp n ≤ roundNat n ∧
      roundNat n ≤ (n / 2 ^ ulpExp n + 1) * 2 ^ ulpExp n := by
  dsimp only [roundNat]
  split_ifs
  · exact ⟨Nat.mul_le_mul_right _ (Nat.le_succ _), le_rfl⟩
  · exact ⟨le_rfl, Nat.mul_le_mul_right _ (Nat.le_succ _)⟩

theorem roundNat_of_lt {n : Nat} (h : n < 2 ^ 53) : roundNat n = n := by
  simp [roundNat, ulpExp_of_lt h, Nat.mod_one]

theorem roundNat_of_le {n : Nat} (h : n ≤ 2 ^ 53) : roundNat n = n := by
  rcases Nat.lt_or_eq_of_le h with h | rfl
  · exact roundNat_of_lt h
  · decide

/-- Rounding keeps the order: in a higher binade the rounded value is at least 2^52 of its
spacings, which is 2^53 of the lower one's; in the same binade the quotients, and on equal
quotients the remainders, compare as the integers do. -/
theorem roundNat_mono {m n : Nat} (h : m ≤ n) : roundNat m ≤ roundNat n := by
  rcases Nat.lt_or_eq_of_le (ulpExp_mono h) with hlt | heq
  · have hn : 2 ^ 53 ≤ n := le_of_ulpExp_pos (by omega)
    calc roundNat m ≤ (m / 2 ^ ulpExp m + 1) * 2 ^ ulpExp m := (roundNat_between m).2
      _ ≤ 2 ^ 53 * 2 ^ ulpExp m :=
        Nat.mul_le_mul_right _ ((Nat.div_lt_iff_lt_mul (by positivity)).2 (lt_ulp m))
      _ = 2 ^ 52 * 2 ^ (ulpExp m + 1) := by ring
      _ ≤ 2 ^ 52 * 2 ^ ulpExp n := Nat.mul_le_mul_left _ (Nat.pow_le_pow_right (by norm_num) hlt)
      _ ≤ n / 2 ^ ulpExp n * 2 ^ ulpExp n :=
        Nat.mul_le_mul_right _ ((Nat.le_div_iff_mul_le (by positivity)).2 (ulp_le hn))
      _ ≤ roundNat n := (roundNat_between n).1
  · have hq : m / 2 ^ ulpExp n ≤ n / 2 ^ ulpExp n := Nat.div_le_div_right h
    rcases Nat.lt_or_eq_of_le hq with hq | hq
    · calc roundNat m ≤ (m / 2 ^ ulpExp m + 1) * 2 ^ ulpExp m := (roundNat_between m).2
        _ ≤ n / 2 ^ ulpExp n * 2 ^ ulpExp n := by rw [heq]; exact Nat.mul_le_mul_right _ hq
        _ ≤ roundNat n := (roundNat_between n).1
    · have hm := Nat.div_add_mod m (2 ^ ulpExp n)
      have hn := Nat.div_add_mod n (2 ^ ulpExp n)
      rw [hq] at hm
      dsimp only [roundNat]
      simp only [heq, hq]
      generalize 2 ^ ulpExp n * (n / 2 ^ ulpExp n) = a at hm hn
      split_ifs with hup hup'
      · exact le_rfl
      · omega
      · exact Nat.mul_le_mul_right _ (Nat.le_succ _)
      · exact le_rfl

/-! ## Integers -/

/-- The safe integers, and 2^53 itself, are numbers. -/
theorem round_of_natAbs_le {x : Int} (h : x.natAbs ≤ 2 ^ 53) : round x = x := by
  unfold round
  rw [roundNat_of_le h]
  split_ifs <;> omega

theorem round_mono {x y : Int} (h : x ≤ y) : round x ≤ round y := by
  unfold round
  split_ifs with hx hy hy
  · have := roundNat_mono (show y.natAbs ≤ x.natAbs by omega)
    omega
  · omega
  · omega
  · have := roundNat_mono (show x.natAbs ≤ y.natAbs by omega)
    omega

theorem add_of_natAbs_le {a b : Int} (h : (a + b).natAbs ≤ 2 ^ 53) : add a b = a + b :=
  round_of_natAbs_le h

theorem add_mono {a a' b b' : Int} (ha : a ≤ a') (hb : b ≤ b') : add a b ≤ add a' b' :=
  round_mono (Int.add_le_add ha hb)

end PolarPortal.Binary64
