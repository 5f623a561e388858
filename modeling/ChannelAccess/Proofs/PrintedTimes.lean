import Mathlib.Tactic.Ring
import ChannelAccess.Time.Text

/-!
Times in print. Up to `2 ^ 43` milliseconds the steps of 53 significant bits are finer than a
microsecond, so neither of the two roundings to them moves a printed digit. Main statement:
`times_print_exactly`.
-/

namespace ChannelAccess

/-- Rounding moves a quotient by half a unit at most. -/
theorem roundHalfEven_near (num : Nat) {den : Nat} (positive : 0 < den) :
    2 * (roundHalfEven num den * den) ≤ 2 * num + den ∧
      2 * num ≤ 2 * (roundHalfEven num den * den) + den := by
  have whole := Nat.div_add_mod num den
  have partly := Nat.mod_lt num positive
  rw [Nat.mul_comm] at whole
  unfold roundHalfEven
  dsimp only
  by_cases lower : 2 * (num % den) < den
  · rw [if_pos lower]
    omega
  · rw [if_neg lower]
    by_cases upper : den < 2 * (num % den)
    · rw [if_pos upper,Nat.succ_mul (num / den)]
      omega
    · -- A tie: either neighbour is half a unit away.
      rw [if_neg upper,Nat.add_mul]
      rcases Nat.mod_two_eq_zero_or_one (num / den) with even | odd
      · rw [even]
        omega
      · rw [odd]
        omega

/-- A quotient that is less than half a unit away from an integer is rounded to it. -/
theorem roundHalfEven_eq {num den n : Nat} (above : 2 * (n * den) < 2 * num + den)
    (below : 2 * num < 2 * (n * den) + den) : roundHalfEven num den = n := by
  obtain ⟨low,high⟩ := roundHalfEven_near num (show 0 < den by omega)
  apply Nat.le_antisymm
  · apply Nat.le_of_lt_succ
    apply Nat.lt_of_mul_lt_mul_right (a := den)
    rw [Nat.succ_mul]
    omega
  · apply Nat.le_of_lt_succ
    apply Nat.lt_of_mul_lt_mul_right (a := den)
    rw [Nat.succ_mul]
    omega

theorem roundHalfEven_mul (n : Nat) {den : Nat} (positive : 0 < den) :
    roundHalfEven (n * den) den = n :=
  roundHalfEven_eq (by omega) (by omega)

theorem roundHalfEven_scale (num den : Nat) {scale : Nat} (positive : 0 < scale) :
    roundHalfEven (num * scale) (den * scale) = roundHalfEven num den := by
  have less (a b : Nat) : a * scale < b * scale ↔ a < b := Nat.mul_lt_mul_right positive
  unfold roundHalfEven
  simp only [Nat.mul_div_mul_right num den positive,Nat.mul_mod_mul_right,← Nat.mul_assoc,less]

namespace Fraction

variable {f : Fraction} {limit : Nat}

theorem log2_num_le (below : f.num < f.den * 2 ^ limit) : f.num.log2 ≤ f.den.log2 + limit := by
  apply Nat.le_of_lt_succ
  by_cases zero : f.num = 0
  · rw [zero,Nat.log2_zero]
    exact Nat.succ_pos _
  · rw [Nat.log2_lt zero]
    calc f.num
        < f.den * 2 ^ limit := below
      _ ≤ 2 ^ (f.den.log2 + 1) * 2 ^ limit :=
        Nat.mul_le_mul_right _ (Nat.le_of_lt Nat.lt_log2_self)
      _ = 2 ^ (f.den.log2 + limit).succ := by
        rw [← Nat.pow_add,Nat.add_right_comm]

theorem binade_lt (below : f.num < f.den * 2 ^ limit) : f.binade < limit := by
  have near := log2_num_le below
  unfold binade
  dsimp only
  by_cases holds : f.den <<< ((f.num.log2 : Int) - f.den.log2).toNat ≤
      f.num <<< (-((f.num.log2 : Int) - f.den.log2)).toNat
  · rw [if_pos holds]
    -- The greatest exponent that the lengths allow would make the number too large.
    refine Int.lt_iff_le_and_ne.mpr ⟨by omega,fun greatest => ?_⟩
    rw [greatest,Int.toNat_natCast,Int.toNat_neg_natCast,Nat.shiftLeft_eq,Nat.shiftLeft_zero] at holds
    omega
  · rw [if_neg holds]
    omega

/-- A number below `2 ^ 53` is held in steps of one or finer. -/
theorem nearestDouble_fine (below : f.num < f.den * 2 ^ 53) :
    ∃ finer : Nat, f.binade + finer = 52 ∧
      f.nearestDouble = ⟨roundHalfEven (f.num * 2 ^ finer) f.den,2 ^ finer⟩ := by
  have fine := binade_lt below
  obtain ⟨finer,steps⟩ := Int.eq_ofNat_of_zero_le (show 0 ≤ 52 - f.binade by omega)
  refine ⟨finer,by omega,?_⟩
  have unit : f.binade - 52 = -finer := by omega
  unfold nearestDouble
  simp only [unit,Int.neg_neg,Int.toNat_natCast,Int.toNat_neg_natCast,Nat.shiftLeft_eq,Nat.one_mul,
    Nat.pow_zero,Nat.mul_one]

end Fraction

/-- Counts below `2 ^ 53` are held exactly. -/
theorem nearestDouble_natural {count : Nat} (short : count < 2 ^ 53) :
    ∃ finer : Nat, (Fraction.mk count 1).nearestDouble = ⟨count * 2 ^ finer,2 ^ finer⟩ := by
  have below : count < 1 * 2 ^ 53 := by rwa [Nat.one_mul]
  obtain ⟨finer,_,held⟩ := Fraction.nearestDouble_fine (f := ⟨count,1⟩) below
  refine ⟨finer,held.trans ?_⟩
  have exact := roundHalfEven_mul (count * 2 ^ finer) Nat.zero_lt_one
  rw [Nat.mul_one] at exact
  dsimp only
  rw [exact]

/-- The quotient is held in steps of less than a thousandth, which are finer still below the end of the
range. -/
theorem milliseconds_eq {count : Nat} (short : count ≤ 1000 * 2 ^ 43) :
    ∃ finer : Nat, (count < 1000 * 2 ^ 43 → 10 ≤ finer) ∧
      milliseconds count = ⟨roundHalfEven (count * 2 ^ finer) 1000,2 ^ finer⟩ := by
  obtain ⟨scale,whole⟩ := nearestDouble_natural (Nat.lt_of_le_of_lt short (by decide))
  have positive : 0 < 2 ^ scale := Nat.two_pow_pos scale
  let quotient : Fraction := ⟨count * 2 ^ scale,2 ^ scale * 1000⟩
  have below {limit : Nat} (less : count < 1000 * 2 ^ limit) :
      quotient.num < quotient.den * 2 ^ limit :=
    calc count * 2 ^ scale
        < 1000 * 2 ^ limit * 2 ^ scale := Nat.mul_lt_mul_of_pos_right less positive
      _ = 2 ^ scale * 1000 * 2 ^ limit := by ring
  obtain ⟨finer,exponent,held⟩ :=
    Fraction.nearestDouble_fine (below (Nat.lt_of_le_of_lt short (by decide)))
  refine ⟨finer,fun less => ?_,?_⟩
  · have coarse := Fraction.binade_lt (below less)
    omega
  · have reduced : roundHalfEven (count * 2 ^ scale * 2 ^ finer) (2 ^ scale * 1000) =
        roundHalfEven (count * 2 ^ finer) 1000 := by
      rw [Nat.mul_right_comm,Nat.mul_comm (2 ^ scale) 1000,roundHalfEven_scale _ _ positive]
    rw [milliseconds,whole]
    exact held.trans (congrArg (Fraction.mk · (2 ^ finer)) reduced)

/-- The thousandths of the quotient are the count again. -/
theorem roundHalfEven_milliseconds {count : Nat} (short : count ≤ 1000 * 2 ^ 43) :
    roundHalfEven ((milliseconds count).num * 1000) (milliseconds count).den = count := by
  obtain ⟨finer,fine,quotient⟩ := milliseconds_eq short
  rw [quotient]
  dsimp only
  rcases Nat.lt_or_eq_of_le short with less | rfl
  · -- Half a step is less than half a thousandth.
    have steps : 2 ^ 10 ≤ 2 ^ finer := Nat.pow_le_pow_right Nat.zero_lt_two (fine less)
    obtain ⟨low,high⟩ := roundHalfEven_near (count * 2 ^ finer) (show 0 < 1000 by decide)
    exact roundHalfEven_eq (by omega) (by omega)
  · have exact : roundHalfEven (1000 * 2 ^ 43 * 2 ^ finer) 1000 = 2 ^ 43 * 2 ^ finer := by
      rw [Nat.mul_assoc,Nat.mul_comm 1000]
      exact roundHalfEven_mul _ (by decide)
    rw [exact,Nat.mul_right_comm,Nat.mul_comm (2 ^ 43) 1000]
    exact roundHalfEven_mul _ (Nat.two_pow_pos finer)

/-- A number below 1000 in three digits, leading zeros included. -/
def threeDigits (number : Nat) : String :=
  String.ofList [(number / 100).digitChar,(number / 10 % 10).digitChar,(number % 10).digitChar]

/-- Whole thousands, a point, and what is left of the thousand in three digits. -/
def decimals (count : Nat) : String :=
  toString (count / 1000) ++ "." ++ threeDigits (count % 1000)

/-- A count of microseconds in milliseconds, digit for digit. -/
def exactText (us : Int) : String :=
  (if us < 0 then "-" else "") ++ decimals us.natAbs ++ "ms"

theorem padded_eq_threeDigits {number : Nat} (small : number < 1000) :
    "".pushn '0' (3 - (toString number).length) ++ toString number = threeDigits number := by
  apply String.toList_injective
  rw [Nat.toString_eq_repr,threeDigits,String.toList_ofList]
  by_cases one : number < 10
  · have digits : number / 100 = 0 ∧ number / 10 % 10 = 0 ∧ number % 10 = number := by omega
    rw [digits.1,digits.2.1,digits.2.2,Nat.repr_of_lt one]
    simp [String.pushn_eq_repeat_push,Nat.repeat]
  · rw [Nat.repr_of_ge (Nat.not_lt.mp one)]
    by_cases two : number < 100
    · have digits : number / 100 = 0 ∧ number / 10 % 10 = number / 10 := by omega
      rw [digits.1,digits.2,Nat.repr_of_lt (show number / 10 < 10 by omega)]
      simp [String.pushn_eq_repeat_push,Nat.repeat]
    · have digits : number / 10 / 10 = number / 100 := Nat.div_div_eq_div_mul _ _ _
      rw [Nat.repr_of_ge (show 10 ≤ number / 10 by omega),
        Nat.repr_of_lt (show number / 10 / 10 < 10 by omega),digits]
      simp [String.pushn_eq_repeat_push,Nat.repeat]

theorem threeDecimals_milliseconds {count : Nat} (short : count ≤ 1000 * 2 ^ 43) :
    threeDecimals (milliseconds count) = decimals count := by
  have small : count % 1000 < 1000 := Nat.mod_lt _ (by decide)
  simp only [threeDecimals,roundHalfEven_milliseconds short]
  rw [String.append_assoc,padded_eq_threeDigits small]
  rfl

theorem millisecondsText_eq {us : Int} (short : us.natAbs ≤ 1000 * 2 ^ 43) :
    millisecondsText us = exactText us := by
  rw [millisecondsText,threeDecimals_milliseconds short,exactText]

theorem threeDigits_inj {number other : Nat} (small : number < 1000) (small' : other < 1000)
    (same : (threeDigits number).toList = (threeDigits other).toList) : number = other := by
  have reads {n : Nat} (short : n < 1000) : Nat.ofDigitChars 10 (threeDigits n).toList 0 = n := by
    rw [threeDigits,String.toList_ofList,
      Nat.ofDigitChars_cons_digitChar_of_lt_ten (by omega),
      Nat.ofDigitChars_cons_digitChar_of_lt_ten (by omega),
      Nat.ofDigitChars_cons_digitChar_of_lt_ten (by omega),Nat.ofDigitChars_nil]
    omega
  rw [← reads small,← reads small',same]

theorem threeDigits_length (number : Nat) : (threeDigits number).toList.length = 3 := by
  rw [threeDigits,String.toList_ofList]
  rfl

theorem toList_decimals (count : Nat) :
    (decimals count).toList =
      Nat.toDigits 10 (count / 1000) ++ '.' :: (threeDigits (count % 1000)).toList := by
  rw [decimals,Nat.toString_eq_ofList_toDigits,String.toList_append,String.toList_append,
    String.toList_ofList,List.append_assoc]
  rfl

/-- Three digits and the point before them tell where the whole thousands end. -/
theorem decimals_inj {count other : Nat} (same : (decimals count).toList = (decimals other).toList) :
    count = other := by
  rw [toList_decimals,toList_decimals] at same
  have lengths : ('.' :: (threeDigits (count % 1000)).toList).length =
      ('.' :: (threeDigits (other % 1000)).toList).length := by
    rw [List.length_cons,List.length_cons,threeDigits_length,threeDigits_length]
  obtain ⟨before,after⟩ := List.append_inj' same lengths
  have whole : count / 1000 = other / 1000 := by
    rw [← Nat.ofDigitChars_ten_toDigits (n := count / 1000),before,Nat.ofDigitChars_ten_toDigits]
  have part : count % 1000 = other % 1000 :=
    threeDigits_inj (Nat.mod_lt _ (by decide)) (Nat.mod_lt _ (by decide)) (List.cons.inj after).2
  omega

/-- Decimals begin with a digit, so a minus sign before them can be told from them. -/
theorem minus_ne_decimals (count : Nat) (rest : List Char) : '-' :: rest ≠ (decimals count).toList := by
  intro same
  rw [toList_decimals] at same
  cases digits : Nat.toDigits 10 (count / 1000) with
  | nil => exact Nat.toDigits_ne_nil digits
  | cons digit digits' =>
    have isDigit := Nat.isDigit_of_mem_toDigits (by decide) (by decide)
      (digits ▸ List.mem_cons_self : digit ∈ Nat.toDigits 10 (count / 1000))
    rw [digits] at same
    cases same
    revert isDigit
    decide

theorem exactText_injective {us other : Int} (same : exactText us = exactText other) : us = other := by
  have texts := congrArg String.toList ((String.append_left_inj "ms").mp same)
  rw [String.toList_append,String.toList_append] at texts
  by_cases negative : us < 0
  · by_cases negative' : other < 0
    · rw [if_pos negative,if_pos negative'] at texts
      have size := decimals_inj (List.append_cancel_left texts)
      omega
    · rw [if_pos negative,if_neg negative'] at texts
      exact absurd texts (minus_ne_decimals _ _)
  · by_cases negative' : other < 0
    · rw [if_neg negative,if_pos negative'] at texts
      exact absurd texts.symm (minus_ne_decimals _ _)
    · rw [if_neg negative,if_neg negative'] at texts
      have size := decimals_inj (List.append_cancel_left texts)
      omega

/-- Up to `2 ^ 43` milliseconds before or after zero, a time prints as its sign, its whole milliseconds,
a point and its microseconds in three digits, so different times print differently. -/
theorem times_print_exactly :
    (∀ t : Instant, t.us.natAbs ≤ 1000 * 2 ^ 43 → t.text = exactText t.us) ∧
    (∀ d : Span, d.us.natAbs ≤ 1000 * 2 ^ 43 → d.text = exactText d.us) ∧
    (∀ t u : Instant, t.us.natAbs ≤ 1000 * 2 ^ 43 → u.us.natAbs ≤ 1000 * 2 ^ 43 →
      t.text = u.text → t = u) ∧
    ∀ d e : Span, d.us.natAbs ≤ 1000 * 2 ^ 43 → e.us.natAbs ≤ 1000 * 2 ^ 43 → d.text = e.text → d = e := by
  have injective {us other : Int} (short : us.natAbs ≤ 1000 * 2 ^ 43)
      (short' : other.natAbs ≤ 1000 * 2 ^ 43) (same : millisecondsText us = millisecondsText other) :
      us = other := by
    rw [millisecondsText_eq short,millisecondsText_eq short'] at same
    exact exactText_injective same
  refine ⟨fun t => millisecondsText_eq,fun d => millisecondsText_eq,?instants,?spans⟩
  case instants => exact fun t u short short' same => congrArg Instant.mk (injective short short' same)
  case spans => exact fun d e short short' same => congrArg Span.mk (injective short short' same)

/-- The last microsecond before the end of the range, before zero and after it. -/
theorem times_print_exactly_near_limit :
    (Instant.mk (-8796093022207999)).us.natAbs ≤ 1000 * 2 ^ 43 ∧
    (Instant.mk (-8796093022207999)).text = "-8796093022207.999ms" ∧
    (Span.mk 8796093022208000).text = "8796093022208.000ms" ∧
    (Instant.mk (-8796093022207999)).text ≠ (Instant.mk (-8796093022208000)).text ∧
    (Span.mk 8796093022207999).text ≠ (Span.mk 8796093022208000).text := by
  obtain ⟨instants,spans,differ,differ'⟩ := times_print_exactly
  refine ⟨by decide,?before,?after,?instants,?spans⟩
  case before => exact (instants _ (by decide)).trans (by cbv)
  case after => exact (spans _ (by decide)).trans (by cbv)
  case instants =>
    intro same
    cases differ _ _ (by decide) (by decide) same
  case spans =>
    intro same
    cases differ' _ _ (by decide) (by decide) same

end ChannelAccess
