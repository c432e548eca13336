/-!
# Rounding offsets up

`roundUp offset align` is the least multiple of `align` that is not below `offset`.
-/

namespace ShaderWeave

/-- The least multiple of `align` that is not below `offset`. -/
def roundUp (offset align : Nat) : Nat := (offset + (align - 1)) / align * align

theorem dvd_roundUp (offset align : Nat) : align ∣ roundUp offset align :=
  Nat.dvd_mul_left align _

theorem le_roundUp {offset align : Nat} (h : 0 < align) : offset ≤ roundUp offset align := by
  have hdiv := Nat.div_add_mod (offset + (align - 1)) align
  have hmod := Nat.mod_lt (offset + (align - 1)) h
  rw [roundUp, Nat.mul_comm]
  omega

theorem roundUp_le_of_dvd {offset align bound : Nat} (h : align ∣ bound) (hle : offset ≤ bound) :
    roundUp offset align ≤ bound := by
  obtain ⟨count, rfl⟩ := h
  rcases Nat.eq_zero_or_pos align with rfl | hpos
  · simp [roundUp]
  · rw [roundUp, Nat.mul_comm]
    apply Nat.mul_le_mul_left
    rw [Nat.div_le_iff_le_mul hpos]
    rw [Nat.mul_comm] at hle
    omega

end ShaderWeave
