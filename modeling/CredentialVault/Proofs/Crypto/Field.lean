import Mathlib.Algebra.CharP.Two
import Mathlib.Algebra.Field.ZMod
import Mathlib.FieldTheory.Separable
import Mathlib.RingTheory.AdjoinRoot
import Mathlib.RingTheory.Ideal.Quotient.Nilpotent
import Mathlib.RingTheory.Nilpotent.Lemmas
import CredentialVault.Crypto.Gcm

/-!
# The algebra of the tag

The elements of which a tag is made are polynomials over the field of two elements, modulo `x^128 +
x^7 + x^2 + x + 1`: `value` takes sums to sums (`value_xor`), products to products (`value_mul`),
and no other element than zero to zero (`eq_zero_of_value`). The power `x` can be divided by
(`isUnit_root`), and a residue of which a power is zero is zero (`isReduced_residue`), since the
modulus has no common factor with its derivative. That it is irreducible is not needed.

So a coefficient that changes by a power of `x` changes the value of the polynomial at every point
but zero (`evaluate_ne`).
-/

namespace CredentialVault.Gcm

open Polynomial

/-- The polynomial modulo which elements are multiplied. -/
noncomputable def modulus : (ZMod 2)[X] := X ^ 128 + X ^ 7 + X ^ 2 + X + 1

/-- The modulus, written out. To unfold it by its equation would evaluate the power. -/
theorem modulus_eq : modulus = X ^ 128 + X ^ 7 + X ^ 2 + X + 1 := by
  delta modulus
  with_reducible rfl

/-- The polynomials modulo `modulus`. -/
abbrev Residue := AdjoinRoot modulus

/-- The polynomial of an element, whose most significant bit is the constant coefficient. -/
noncomputable def polynomial (element : Element) : (ZMod 2)[X] :=
  ∑ i ∈ Finset.range 128, if element.getMsbD i then X ^ i else 0

/-- The residue of an element. -/
noncomputable def value (element : Element) : Residue :=
  AdjoinRoot.mk modulus (polynomial element)

/-- The element `x^n`. -/
def power (n : Nat) : Element := BitVec.twoPow 128 (127 - n)

/-! ## Polynomials of elements -/

/-- The coefficients of an element are its bits. -/
theorem coeff_polynomial (element : Element) (i : Nat) :
    (polynomial element).coeff i = if element.getMsbD i then 1 else 0 := by
  unfold polynomial
  rw [finsetSum_coeff]
  simp only [apply_ite (coeff · i), coeff_X_pow, coeff_zero]
  by_cases hi : i < 128
  · rw [Finset.sum_eq_single i]
    · simp
    · intro j _ hne
      simp [hne.symm]
    · intro hmem
      exact absurd (Finset.mem_range.mpr hi) hmem
  · have hbit : element.getMsbD i = false := BitVec.getMsbD_of_ge _ _ (by omega)
    rw [hbit, Finset.sum_eq_zero]
    · rfl
    · intro j hj
      have hne : i ≠ j := by
        have := Finset.mem_range.mp hj
        omega
      simp [hne]

/-- The sum of two elements is the sum of their polynomials. -/
theorem polynomial_xor (element other : Element) :
    polynomial (element ^^^ other) = polynomial element + polynomial other := by
  ext i
  rw [coeff_add, coeff_polynomial, coeff_polynomial, coeff_polynomial, BitVec.getMsbD_xor]
  have hone : (1 : ZMod 2) + 1 = 0 := by decide
  cases element.getMsbD i <;> cases other.getMsbD i <;> simp [hone]

/-- The element `x^n` is the power `x^n`. -/
theorem polynomial_power {n : Nat} (h : n < 128) : polynomial (power n) = X ^ n := by
  ext i
  rw [coeff_polynomial, coeff_X_pow]
  have hbit : (power n).getMsbD i = decide (i = n) := by
    rw [power, BitVec.getMsbD_eq_getLsbD, BitVec.getLsbD_twoPow]
    by_cases hi : i < 128
    · simp only [hi, decide_true, Bool.true_and]
      have hplace : 127 - n = 128 - 1 - i ↔ i = n := by omega
      have hbound : 127 - n < 128 := by omega
      simp [hplace, hbound]
    · have hne : i ≠ n := by omega
      simp [hi, hne]
  rw [hbit]
  by_cases hi : i = n <;> simp [hi]

/-- The reduction is what `x^128` is modulo the modulus. -/
theorem polynomial_reduction : polynomial reduction = modulus + X ^ 128 := by
  have hreduction : reduction = power 7 ^^^ power 2 ^^^ power 1 ^^^ power 0 := by decide
  rw [hreduction, polynomial_xor, polynomial_xor, polynomial_xor, polynomial_power (by decide),
    polynomial_power (by decide), polynomial_power (by decide), polynomial_power (by decide), modulus_eq]
  generalize (X : (ZMod 2)[X]) ^ 128 = highest
  have htwo : highest + highest = 0 := CharTwo.add_self_eq_zero highest
  linear_combination -htwo

/-- To shift an element is to multiply it by `x`, but for the coefficient that is lost. -/
theorem polynomial_shift (element : Element) :
    polynomial (element >>> 1) + (if element.getLsbD 0 then X ^ 128 else 0) =
      X * polynomial element := by
  have hlast : element.getMsbD 127 = element.getLsbD 0 := by
    rw [BitVec.getMsbD_eq_getLsbD]
    rfl
  ext i
  rw [coeff_add, coeff_polynomial, BitVec.getMsbD_ushiftRight]
  cases i with
  | zero =>
    rw [coeff_X_mul_zero, apply_ite (coeff · 0), coeff_X_pow, coeff_zero]
    simp
  | succ i =>
    rw [coeff_X_mul, coeff_polynomial, apply_ite (coeff · (i + 1)), coeff_X_pow, coeff_zero]
    rcases Nat.lt_trichotomy i 127 with hi | rfl | hi
    · simp [show i + 1 < 128 by omega, show i ≠ 127 by omega]
    · rw [hlast]
      simp
    · have hbit : element.getMsbD i = false := BitVec.getMsbD_of_ge _ _ (by omega)
      simp [hbit, show ¬i + 1 < 128 by omega, show i ≠ 127 by omega]

/-! ## Residues of elements -/

/-- A residue added to itself is zero. -/
theorem residue_add_self (residue : Residue) : residue + residue = 0 := by
  have htwo : (2 : ZMod 2) = 0 := by decide
  rw [← two_mul, ← map_ofNat (AdjoinRoot.of modulus) 2, htwo, map_zero, zero_mul]

/-- The sum of two elements is the sum of their residues. -/
theorem value_xor (element other : Element) :
    value (element ^^^ other) = value element + value other := by
  rw [value, polynomial_xor, map_add]
  rfl

/-- The residue of the element `x^n` is a power of the residue of `x`. -/
theorem value_power {n : Nat} (h : n < 128) : value (power n) = AdjoinRoot.root modulus ^ n := by
  rw [value, polynomial_power h, map_pow, AdjoinRoot.mk_X]

/-- An element times `x` is its residue times that of `x`. -/
theorem value_timesX (element : Element) :
    value (timesX element) = AdjoinRoot.root modulus * value element := by
  have hshift := congrArg (AdjoinRoot.mk modulus) (polynomial_shift element)
  rw [map_add, map_mul, AdjoinRoot.mk_X] at hshift
  change _ + _ = AdjoinRoot.root modulus * value element at hshift
  rw [timesX, ← hshift]
  cases element.getLsbD 0
  · rw [if_neg (by decide), if_neg (by decide), map_zero, add_zero]
    rfl
  · rw [if_pos rfl, if_pos rfl, value, polynomial_xor, polynomial_reduction, map_add, map_add,
      AdjoinRoot.mk_self, zero_add]

/-- The sum over the bits that are left is the product with the polynomial of these bits. -/
theorem value_mulFrom (x : Element) (count : Nat) (y sum : Element) :
    value (mulFrom x count y sum) = value sum +
      (∑ i ∈ Finset.range count,
        if x.getLsbD (count - 1 - i) then AdjoinRoot.root modulus ^ i else 0) * value y := by
  induction count generalizing y sum with
  | zero => simp [mulFrom]
  | succ count ih =>
    have hsum : value (if x.getLsbD count then sum ^^^ y else sum) =
        value sum + (if x.getLsbD count then 1 else 0) * value y := by
      split
      · rw [value_xor, one_mul]
      · rw [zero_mul, add_zero]
    have hstep : ∀ i, (if x.getLsbD (count + 1 - 1 - (i + 1))
        then AdjoinRoot.root modulus ^ (i + 1) else 0) =
        AdjoinRoot.root modulus *
          (if x.getLsbD (count - 1 - i) then AdjoinRoot.root modulus ^ i else 0) := by
      intro i
      rw [show count + 1 - 1 - (i + 1) = count - 1 - i by omega, mul_ite, mul_zero, pow_succ']
    rw [mulFrom, ih, hsum, value_timesX, Finset.sum_range_succ', Finset.sum_congr rfl fun i _ => hstep i,
      ← Finset.mul_sum, pow_zero]
    simp only [Nat.add_sub_cancel, Nat.sub_zero]
    ring

/-- The product of two elements is the product of their residues. -/
theorem value_mul (x y : Element) : value (mul x y) = value x * value y := by
  have hbits : value x = ∑ i ∈ Finset.range 128,
      if x.getLsbD (128 - 1 - i) then AdjoinRoot.root modulus ^ i else 0 := by
    rw [value, polynomial, map_sum]
    refine Finset.sum_congr rfl fun i hi => ?_
    rw [BitVec.getMsbD_eq_getLsbD, decide_eq_true (Finset.mem_range.mp hi), Bool.true_and,
      apply_ite (AdjoinRoot.mk modulus), map_pow, AdjoinRoot.mk_X, map_zero]
  have hzero : value 0 = 0 := by
    have h := value_xor 0 0
    rw [BitVec.xor_self] at h
    exact left_eq_add.mp h
  rw [mul, value_mulFrom, hzero, zero_add, ← hbits]

/-! ## The ring of residues -/

/-- The modulus has degree 128. -/
theorem natDegree_modulus : modulus.natDegree = 128 := by
  rw [modulus_eq]
  compute_degree!

/-- The only element whose residue is zero is zero. -/
theorem eq_zero_of_value {element : Element} (h : value element = 0) : element = 0 := by
  rw [value, AdjoinRoot.mk_eq_zero] at h
  have hne : modulus ≠ 0 := by
    intro hzero
    have hdegree := natDegree_modulus
    rw [hzero, natDegree_zero] at hdegree
    omega
  have hdegree : (polynomial element).degree < (modulus.natDegree : WithBot Nat) := by
    rw [natDegree_modulus, degree_lt_iff_coeff_zero]
    intro i hi
    rw [coeff_polynomial, BitVec.getMsbD_of_ge _ _ hi]
    rfl
  rw [← degree_eq_natDegree hne] at hdegree
  have hzero : polynomial element = 0 := by
    generalize modulus = divisor at h hdegree
    exact eq_zero_of_dvd_of_degree_lt h hdegree
  apply BitVec.eq_of_getMsbD_eq
  intro i hi
  have hcoeff := coeff_polynomial element i
  rw [hzero, coeff_zero] at hcoeff
  cases hbit : element.getMsbD i
  · exact BitVec.getMsbD_zero.symm
  · rw [hbit, if_pos rfl] at hcoeff
    exact absurd hcoeff zero_ne_one

/-- One can divide by `x`. -/
theorem isUnit_root : IsUnit (AdjoinRoot.root modulus) := by
  have htwo : (1 + 1 : Residue) = 0 := residue_add_self 1
  have hrelation := congrArg (AdjoinRoot.mk modulus) modulus_eq
  rw [AdjoinRoot.mk_self] at hrelation
  simp only [map_add, map_pow, map_one, AdjoinRoot.mk_X] at hrelation
  rw [isUnit_iff_exists_inv]
  refine ⟨AdjoinRoot.root modulus ^ 127 + AdjoinRoot.root modulus ^ 6 + AdjoinRoot.root modulus + 1, ?_⟩
  linear_combination -hrelation - htwo

/-- The modulus has no common factor with its derivative. -/
theorem separable_modulus : modulus.Separable := by
  have htwo : (1 + 1 : (ZMod 2)[X]) = 0 := CharTwo.add_self_eq_zero 1
  have hderivative : derivative modulus = X ^ 6 - 1 := by
    rw [modulus_eq]
    simp only [derivative_add, derivative_X_pow, derivative_X, derivative_one]
    have h128 : ((128 : Nat) : ZMod 2) = 0 := by decide
    have h7 : ((7 : Nat) : ZMod 2) = 1 := by decide
    have h2 : ((2 : Nat) : ZMod 2) = 0 := by decide
    rw [h128, h7, h2, C_0, C_1]
    linear_combination htwo
  -- Modulo `x^6 - 1` the modulus is `x^2 + x + x^2 + x + 1`.
  have hsum : (∑ i ∈ Finset.range 21, (X ^ 6 : (ZMod 2)[X]) ^ i) * (X ^ 6 - 1) = X ^ 126 - 1 := by
    rw [geom_sum_mul, ← pow_mul]
  refine ⟨1, X ^ 2 * ∑ i ∈ Finset.range 21, (X ^ 6) ^ i + X, ?_⟩
  rw [hderivative]
  rw [modulus_eq]
  linear_combination X ^ 2 * hsum + (X ^ 128 + X ^ 7) * htwo

/-- A residue of which a power is zero is zero. -/
theorem isReduced_residue : IsReduced Residue := by
  have hradical : IsRadical modulus := separable_modulus.squarefree.isRadical
  exact (Ideal.isRadical_iff_quotient_reduced _).mp (isRadical_iff_span_singleton.mp hradical)

/-! ## Values of polynomials with elements as coefficients -/

/-- Coefficients that come after two sums carry the difference of the sums along. -/
theorem value_foldl_add (point first second : Element) (coefficients : List Element) :
    value (coefficients.foldl (fun sum coefficient => mul (sum ^^^ coefficient) point) first) +
        value (coefficients.foldl (fun sum coefficient => mul (sum ^^^ coefficient) point) second) =
      (value first + value second) * value point ^ coefficients.length := by
  induction coefficients generalizing first second with
  | nil => simp
  | cons coefficient coefficients ih =>
    have htwo : value coefficient + value coefficient = 0 := residue_add_self _
    rw [List.foldl_cons, List.foldl_cons, ih, value_mul, value_mul, value_xor, value_xor,
      List.length_cons, pow_succ']
    linear_combination value point * value point ^ coefficients.length * htwo

/-- A coefficient that changes by a power of `x` changes the value at every point but zero. -/
theorem evaluate_ne {point : Element} (hpoint : point ≠ 0) {n : Nat} (hn : n < 128)
    (before after : List Element) (coefficient : Element) :
    evaluate point (before ++ (coefficient ^^^ power n) :: after) ≠
      evaluate point (before ++ coefficient :: after) := by
  intro hsame
  -- The difference of the values is `x^n * point^(k + 1)`, where `k` coefficients come after.
  have hdifference : AdjoinRoot.root modulus ^ n * value point ^ (after.length + 1) = 0 := by
    have hself : value (evaluate point (before ++ coefficient :: after)) +
        value (evaluate point (before ++ coefficient :: after)) = 0 := residue_add_self _
    nth_rewrite 1 [← hsame] at hself
    unfold evaluate at hself
    rw [List.foldl_append, List.foldl_append, List.foldl_cons, List.foldl_cons, value_foldl_add,
      ← value_xor] at hself
    generalize before.foldl (fun sum coefficient => mul (sum ^^^ coefficient) point) 0 = sum at hself
    have hchange : value (mul (sum ^^^ (coefficient ^^^ power n)) point ^^^
        mul (sum ^^^ coefficient) point) = AdjoinRoot.root modulus ^ n * value point := by
      have hsum : value (sum ^^^ coefficient) + value (sum ^^^ coefficient) = 0 :=
        residue_add_self _
      rw [value_xor, value_mul, value_mul, ← BitVec.xor_assoc, value_xor _ (power n), value_power hn]
      linear_combination value point * hsum
    rw [hchange, mul_assoc, ← pow_succ'] at hself
    exact hself
  have hpower : value point ^ (after.length + 1) = 0 :=
    ((isUnit_root.pow n).mul_right_eq_zero).mp hdifference
  have hreduced : IsReduced Residue := isReduced_residue
  exact hpoint (eq_zero_of_value (eq_zero_of_pow_eq_zero hpower))

end CredentialVault.Gcm
