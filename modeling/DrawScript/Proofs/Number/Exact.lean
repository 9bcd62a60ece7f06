import DrawScript.Number

set_option autoImplicit false

namespace DrawScript

namespace Binary64

theorem roundDiv_one (n : Nat) : roundDiv n 1 = n := by
  simp [roundDiv, Nat.mod_one]

theorem scaled_one (n room : Nat) : scaled n 1 (-room) = (n <<< room, 1) := by
  simp [scaled]

theorem exponentOf_one {n room : Nat} (positive : n ≠ 0) (bits : n.log2 + room = 53) :
    exponentOf n 1 = 1 - room := by
  -- The estimate keeps 54 bits, since the highest one is counted from zero.
  have guess : max leastExponent ((n.log2 : Int) - Nat.log2 1 - 53) = -room := by
    have one : Nat.log2 1 = 0 := by decide
    rw [one, leastExponent]
    omega
  have top : 1 <<< 53 ≤ n <<< room := by
    calc 1 <<< 53 = 2 ^ n.log2 * 2 ^ room := by rw [Nat.one_shiftLeft, ← Nat.pow_add, bits]
      _ ≤ n * 2 ^ room := Nat.mul_le_mul_right _ (Nat.log2_self_le positive)
      _ = n <<< room := (Nat.shiftLeft_eq n room).symm
  simp only [exponentOf, guess, scaled_one, Nat.not_lt.mpr top, if_false]
  omega

theorem ofRatio_of_exponentOf {n mantissa : Nat} {exponent : Int} {ratio : Nat × Nat}
    (positive : n ≠ 0) (scale : exponentOf n 1 = exponent) (parts : scaled n 1 exponent = ratio)
    (rounded : roundDiv ratio.1 ratio.2 = mantissa) (small : mantissa ≠ 1 <<< 53)
    (range : ¬ greatestExponent < exponent) : ofRatio n 1 = .finite false mantissa exponent := by
  have kept : carried mantissa exponent = (mantissa, exponent) := if_neg small
  rw [ofRatio, if_neg positive, scale]
  dsimp only
  rw [parts, rounded, kept]
  exact if_neg range

theorem ofRatio_one {n : Nat} (bound : n ≤ 1 <<< 53) :
    ∃ mantissa exponent, ofRatio n 1 = .finite false mantissa exponent ∧
      wholePart mantissa exponent = n ∧ isWhole mantissa exponent := by
  by_cases positive : n = 0
  next =>
    refine ⟨0, leastExponent, by rw [ofRatio, if_pos positive], ?_, ?_⟩
    next => rw [wholePart, Nat.zero_shiftLeft, Nat.zero_shiftRight, positive]
    next =>
      rw [isWhole, Nat.zero_shiftLeft, Nat.zero_mod]
      rfl
  next =>
    have high : n.log2 ≤ 53 := by
      rw [Nat.one_shiftLeft] at bound
      have within := Nat.le_trans (Nat.log2_self_le positive) bound
      exact (Nat.pow_le_pow_iff_right (by decide)).mp within
    obtain ⟨room, bits⟩ := Nat.exists_eq_add_of_le high
    have exponent := exponentOf_one positive bits.symm
    cases room with
    | zero =>
      -- Only the bound itself has this many bits.
      have least := Nat.log2_self_le positive
      rw [Nat.add_zero] at bits
      rw [← bits, ← Nat.one_shiftLeft] at least
      have whole : n = 1 <<< 53 := Nat.le_antisymm bound least
      have half : roundDiv (scaled n 1 1).1 (scaled n 1 1).2 = 1 <<< 52 := by
        rw [whole]
        decide
      have value := ofRatio_of_exponentOf positive exponent rfl half (by decide) (by decide)
      refine ⟨1 <<< 52, 1, value, ?_, ?_⟩
      next =>
        rw [whole]
        decide
      next => decide
    | succ room =>
      have below : n <<< room < 1 <<< 53 := by
        have total : n.log2 + 1 + room = 53 := by omega
        calc n <<< room = n * 2 ^ room := Nat.shiftLeft_eq n room
          _ < 2 ^ (n.log2 + 1) * 2 ^ room :=
              Nat.mul_lt_mul_of_pos_right Nat.lt_log2_self (Nat.two_pow_pos room)
          _ = 1 <<< 53 := by rw [← Nat.pow_add, total, Nat.one_shiftLeft]
      have negative : exponentOf n 1 = -room := by omega
      have range : ¬ greatestExponent < (-room : Int) := by
        rw [greatestExponent]
        omega
      have value := ofRatio_of_exponentOf positive negative (scaled_one n room) (roundDiv_one _)
        (Nat.ne_of_lt below) range
      refine ⟨n <<< room, -room, value, ?_, ?_⟩
      next => simp [wholePart, Nat.shiftLeft_shiftRight]
      next => simp [isWhole, Nat.shiftLeft_eq]

end Binary64

namespace Number

theorem ofBinary64_ofRatio_one {n : Nat} (bound : n ≤ 1 <<< 53) :
    ofBinary64 (.ofRatio n 1) = .int n := by
  obtain ⟨mantissa, exponent, value, whole, isWhole⟩ := Binary64.ofRatio_one bound
  simp only [value, ofBinary64, whole, isWhole, Bool.true_and]
  rw [if_pos (decide_eq_true (by omega))]
  rfl

theorem ofText?_toDigits {n : Nat} (bound : n ≤ 1 <<< 53) :
    ofText? (Nat.toDigits 10 n) = some (.int n) := by
  have digits : ∀ c ∈ Nat.toDigits 10 n, c.isDigit :=
    fun c member => Nat.isDigit_of_mem_toDigits (by decide) (by decide) member
  have pointless : ∀ c ∈ Nat.toDigits 10 n, c ≠ '.' := by
    rintro c member rfl
    exact absurd (digits '.' member) (by decide)
  have all : (Nat.toDigits 10 n).all fun c => c.isDigit || c = '.' := by
    simpa using fun c member => Or.inl (digits c member)
  have whole : (Nat.toDigits 10 n).takeWhile (· ≠ '.') = Nat.toDigits 10 n := by
    have taken := @List.takeWhile_append_of_pos _ (· ≠ '.') (Nat.toDigits 10 n) []
    simpa using taken (by simpa using pointless)
  have rest : (Nat.toDigits 10 n).dropWhile (· ≠ '.') = [] := by
    have dropped := @List.dropWhile_append_of_pos _ (· ≠ '.') (Nat.toDigits 10 n) []
    simpa using dropped (by simpa using pointless)
  rw [ofText?, if_pos all, whole, rest, ofDigits]
  simp [Nat.ofDigitChars_ten_toDigits, ofBinary64_ofRatio_one bound]

end Number

end DrawScript
