import Mathlib.Algebra.Group.Nat.Defs
import Mathlib.SetTheory.Cardinal.Finite
import ChannelAccess.Backoff

/-!
A random backoff is exactly uniform. The number of words is a multiple of the number of outcomes, so
as many words give one number of periods as give another. Main statement: `Backoff.card_draw`.
-/

namespace ChannelAccess.Backoff

theorem maxPeriods_succ (exponent : Nat) : maxPeriods exponent + 1 = 2 ^ min exponent 31 := by
  have positive := Nat.two_pow_pos (min exponent 31)
  rw [maxPeriods,Nat.shiftLeft_eq,Nat.one_mul]
  omega

theorem draw_eq {ρ : Type} [WordSource ρ] (source : ρ) (exponent : Nat) :
    draw source exponent =
      ((WordSource.next source).1.toNat % 2 ^ min exponent 31,(WordSource.next source).2) := by
  rw [← maxPeriods_succ]
  rfl

section

variable {bits remainder : Nat}

theorem two_pow_word (few : bits ≤ 31) : 2 ^ (32 - bits) * 2 ^ bits = UInt32.size := by
  rw [← Nat.pow_add,Nat.sub_add_cancel (by omega),UInt32.size]

theorem quotient_lt (few : bits ≤ 31) (word : UInt32) : word.toNat / 2 ^ bits < 2 ^ (32 - bits) := by
  rw [Nat.div_lt_iff_lt_mul (Nat.two_pow_pos bits),two_pow_word few]
  exact word.toNat_lt

theorem toNat_ofQuotient (few : bits ≤ 31) (small : remainder < 2 ^ bits)
    (quotient : Fin (2 ^ (32 - bits))) :
    (UInt32.ofNat (2 ^ bits * quotient + remainder)).toNat = 2 ^ bits * quotient + remainder := by
  apply UInt32.toNat_ofNat_of_lt'
  calc 2 ^ bits * quotient + remainder
      < 2 ^ bits * (quotient + 1) := by rw [Nat.mul_succ]; omega
    _ ≤ 2 ^ bits * 2 ^ (32 - bits) := Nat.mul_le_mul_left _ quotient.isLt
    _ = UInt32.size := by rw [Nat.mul_comm,two_pow_word few]

/-- The words that leave a remainder are numbered by their quotients. -/
def wordsLeaving (few : bits ≤ 31) (small : remainder < 2 ^ bits) :
    {word : UInt32 // word.toNat % 2 ^ bits = remainder} ≃ Fin (2 ^ (32 - bits)) where
  toFun word := ⟨word.val.toNat / 2 ^ bits,quotient_lt few word.val⟩
  invFun quotient := ⟨UInt32.ofNat (2 ^ bits * quotient + remainder),by
    rw [toNat_ofQuotient few small,Nat.mul_add_mod,Nat.mod_eq_of_lt small]⟩
  left_inv word := by
    obtain ⟨word,leaves⟩ := word
    apply Subtype.ext
    dsimp only
    rw [← leaves,Nat.div_add_mod,UInt32.ofNat_toNat]
  right_inv quotient := by
    apply Fin.ext
    dsimp only
    rw [toNat_ofQuotient few small,Nat.mul_add_div (Nat.two_pow_pos bits),Nat.div_eq_of_lt small,
      Nat.add_zero]

theorem card_leaving (few : bits ≤ 31) (remainder : Nat) :
    Nat.card {word : UInt32 // word.toNat % 2 ^ bits = remainder} =
      if remainder < 2 ^ bits then 2 ^ (32 - bits) else 0 := by
  by_cases small : remainder < 2 ^ bits
  · rw [if_pos small,Nat.card_congr (wordsLeaving few small),Nat.card_fin]
  · rw [if_neg small,Nat.card_eq_zero]
    refine .inl ⟨?_⟩
    rintro ⟨word,leaves⟩
    exact small (leaves ▸ Nat.mod_lt _ (Nat.two_pow_pos bits))

end

/-- Of the words that can come next, as many give one number of periods as give another, and none
gives a number above the largest. -/
theorem card_draw (exponent periods : Nat) :
    Nat.card {word : UInt32 // (draw (⟨[word]⟩ : WordScript) exponent).1 = periods} =
      if periods < 2 ^ min exponent 31 then 2 ^ (32 - min exponent 31) else 0 := by
  simp only [draw_eq]
  exact card_leaving (Nat.min_le_right exponent 31) periods

end ChannelAccess.Backoff
