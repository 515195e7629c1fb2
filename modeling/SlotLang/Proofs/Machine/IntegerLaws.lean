import Mathlib.Data.Int.ModEq
import SlotLang.Machine.IntOp

/-!
# Laws of the integer operators

Integers have 64 bits, and at the ends of their range the operators are not those of numbers. Sums,
differences and products are still right up to a multiple of `2 ^ 64`, and there is only one such
answer. Quotient and remainder belong together at every pair of operands, also at the one pair whose
quotient is too large. Comparisons do not see the range at all.
-/

namespace SlotLang

/-! ## Wrapping around -/

/-- Of all 64-bit integers, just `n` differs from a number by a multiple of `2 ^ 64`. This says what
wrapping means without saying how it is done. -/
def IsResidue (number : Int) (n : Int64) : Prop :=
  ∀ m : Int64, m.toInt ≡ number [ZMOD 2 ^ 64] ↔ m = n

/-- A number brought into the range in a balanced way is its residue. -/
theorem isResidue_of_toInt_eq {number : Int} {n : Int64}
    (balanced : n.toInt = number.bmod (2 ^ 64)) : IsResidue number n := by
  intro m
  rw [← Int64.toInt_inj, balanced]
  constructor
  · intro congruent
    have residues : m.toInt % (2 ^ 64 : Nat) = number % (2 ^ 64 : Nat) := congruent
    calc m.toInt = m.toInt.bmod (2 ^ 64) := (Int64.toInt_bmod m).symm
      _ = (m.toInt % (2 ^ 64 : Nat)).bmod (2 ^ 64) := (Int.emod_bmod _ _).symm
      _ = number.bmod (2 ^ 64) := by rw [residues, Int.emod_bmod]
  · intro same
    rw [same]
    exact Int.bmod_emod

/-! ## Quotient and remainder -/

section Division

variable (x y : Int64)

/-- What the remainder lacks the quotient has, in wrapping arithmetic. It holds for every divisor,
also where the quotient does not fit. -/
theorem div_mul_add_mod : x / y * y + x % y = x := by
  rw [← Int64.toInt_inj, Int64.toInt_add, Int64.toInt_mul, Int64.toInt_div, Int64.toInt_mod,
    Int.bmod_mul_bmod, Int.bmod_add_bmod, Int.tdiv_mul_add_tmod]
  exact Int64.toInt_bmod x

variable {x y}

/-- A remainder is smaller than the divisor, signs aside. With a divisor of zero there is no
remainder. -/
theorem natAbs_mod_lt (nonzero : y ≠ 0) : (x % y).toInt.natAbs < y.toInt.natAbs := by
  have divisor : y.toInt ≠ 0 := fun zero => nonzero (Int64.toInt_inj.mp zero)
  rw [Int64.toInt_mod, Int.natAbs_tmod]
  exact Nat.mod_lt _ (Int.natAbs_pos.mpr divisor)

variable (x y)

/-- A remainder has the sign of the dividend, unless it is zero. So the quotient is cut off towards
zero. -/
theorem mod_eq_zero_or_sign_eq : x % y = 0 ∨ (x % y).toInt.sign = x.toInt.sign := by
  rw [← Int64.toInt_inj, Int64.toInt_zero, Int64.toInt_mod, ← Int.sign_eq_zero_iff_zero,
    Int.sign_tmod]
  split
  · exact .inl rfl
  · exact .inr rfl

/-- The quotient is truncated, but for the one that lies above the range. Only if both operands are
those of the exception does a truncated quotient leave the range. -/
theorem toInt_div_of_not_overflow (fits : ¬(x = Int64.minValue ∧ y = -1)) :
    (x / y).toInt = x.toInt.tdiv y.toInt := by
  by_cases least : x = Int64.minValue
  · exact Int64.toInt_div_of_ne_right x y fun minusOne => fits ⟨least, minusOne⟩
  · exact Int64.toInt_div_of_ne_left x y least

end Division

namespace IntOp

variable (x y : Int64)

/-! ## Answers -/

/-- An application is answered unless a divisor is zero. -/
theorem apply_ok_or (op : IntOp) :
    (∃ value, op.apply x y = .ok value) ∨
      ((op = div ∨ op = mod) ∧ y = 0 ∧ op.apply x y = .error .divisionByZero) := by
  by_cases zero : y = 0
  · cases op <;> simp [apply, zero]
  · cases op <;> simp [apply, zero]

/-- The operator yields something other than null, which is how conditions take it. -/
def Holds (op : IntOp) (x y : Int64) : Prop :=
  ∃ value, op.apply x y = .ok value ∧ value.isNull = false

/-- A comparison yields null just if it does not hold. -/
theorem isNull_ofBool (holds : Bool) : (Value.ofBool holds).isNull = !holds := by
  cases holds <;> rfl

/-- A comparison holds if it is true of the numbers. -/
theorem holds_comparison :
    (lt.Holds x y ↔ x.toInt < y.toInt) ∧ (eq.Holds x y ↔ x.toInt = y.toInt) ∧
      (gt.Holds x y ↔ y.toInt < x.toInt) ∧ (le.Holds x y ↔ x.toInt ≤ y.toInt) ∧
      (ge.Holds x y ↔ y.toInt ≤ x.toInt) := by
  simp [Holds, apply, isNull_ofBool, Int64.lt_iff_toInt_lt, Int64.le_iff_toInt_le,
    Int64.toInt_inj]

/-- Of less, equal and greater just one holds, of any two integers. -/
theorem existsUnique_holds : ∃! op, op ∈ [lt, eq, gt] ∧ op.Holds x y := by
  obtain ⟨less, equal, greater, -, -⟩ := holds_comparison x y
  simp only [List.mem_cons, List.not_mem_nil, or_false]
  refine ⟨if x.toInt < y.toInt then lt else if x.toInt = y.toInt then eq else gt, ?_, ?_⟩
  · dsimp only
    split_ifs with before same
    · exact ⟨.inl rfl, less.mpr before⟩
    · exact ⟨.inr (.inl rfl), equal.mpr same⟩
    · exact ⟨.inr (.inr rfl), greater.mpr (by omega)⟩
  · rintro op ⟨rfl | rfl | rfl, holds⟩
    · rw [if_pos (less.mp holds)]
    · have same := equal.mp holds
      rw [if_neg (by omega), if_pos same]
    · have after := greater.mp holds
      rw [if_neg (by omega), if_neg (by omega)]

/-! ## The laws -/

/-- Where the divisor is not zero, quotient and remainder exist and multiply and add up to the
dividend. -/
theorem apply_div_mod {y : Int64} (nonzero : y ≠ 0) :
    div.apply x y = .ok (.int (x / y)) ∧ mod.apply x y = .ok (.int (x % y)) ∧
      mul.apply (x / y) y = .ok (.int (x / y * y)) ∧
      add.apply (x / y * y) (x % y) = .ok (.int x) := by
  refine ⟨if_neg nonzero, if_neg nonzero, rfl, ?_⟩
  rw [apply, div_mul_add_mod]

/-- The operators obey the laws of arithmetic for all operands. A sum, a difference and a product
are the one 64-bit integer that differs from the exact result by a multiple of `2 ^ 64`. A quotient
and a remainder are refused just if the divisor is zero; otherwise quotient times divisor plus
remainder, computed by the operators themselves, is the dividend, the remainder is smaller than the
divisor and is zero or has the sign of the dividend, and the quotient is truncated toward zero. The
one exception is the least integer divided by minus one, which has itself as the quotient and the
remainder zero. A comparison holds if it holds of the numbers: of less, equal and greater just one
does, and each of the other two comparisons holds if one of its two parts does. Nothing else can
happen: every application yields a value, or is a division by zero and is refused as one. -/
theorem operators_obey_arithmetic (x y : Int64) :
    (∃ n, add.apply x y = .ok (.int n) ∧ IsResidue (x.toInt + y.toInt) n) ∧
    (∃ n, sub.apply x y = .ok (.int n) ∧ IsResidue (x.toInt - y.toInt) n) ∧
    (∃ n, mul.apply x y = .ok (.int n) ∧ IsResidue (x.toInt * y.toInt) n) ∧
    (div.apply x y = .error .divisionByZero ↔ y = 0) ∧
    (mod.apply x y = .error .divisionByZero ↔ y = 0) ∧
    (y ≠ 0 → ∃ quotient remainder product,
      div.apply x y = .ok (.int quotient) ∧ mod.apply x y = .ok (.int remainder) ∧
      mul.apply quotient y = .ok (.int product) ∧ add.apply product remainder = .ok (.int x) ∧
      remainder.toInt.natAbs < y.toInt.natAbs ∧
      (remainder = 0 ∨ remainder.toInt.sign = x.toInt.sign) ∧
      if x = Int64.minValue ∧ y = -1 then quotient = Int64.minValue ∧ remainder = 0
      else quotient.toInt = x.toInt.tdiv y.toInt) ∧
    (lt.Holds x y ↔ x.toInt < y.toInt) ∧ (eq.Holds x y ↔ x.toInt = y.toInt) ∧
    (∃! op, op ∈ [lt, eq, gt] ∧ op.Holds x y) ∧
    (le.Holds x y ↔ lt.Holds x y ∨ eq.Holds x y) ∧
    (ge.Holds x y ↔ gt.Holds x y ∨ eq.Holds x y) ∧
    ∀ op : IntOp, (∃ value, op.apply x y = .ok value) ∨
      ((op = div ∨ op = mod) ∧ y = 0 ∧ op.apply x y = .error .divisionByZero) := by
  obtain ⟨less, equal, greater, atMost, atLeast⟩ := holds_comparison x y
  refine ⟨⟨_, rfl, isResidue_of_toInt_eq (Int64.toInt_add x y)⟩,
    ⟨_, rfl, isResidue_of_toInt_eq (Int64.toInt_sub x y)⟩,
    ⟨_, rfl, isResidue_of_toInt_eq (Int64.toInt_mul x y)⟩,
    by simp [apply], by simp [apply], ?_, less, equal, existsUnique_holds x y, ?_, ?_,
    apply_ok_or x y⟩
  · intro nonzero
    obtain ⟨quotient, remainder, product, sum⟩ := apply_div_mod x nonzero
    refine ⟨_, _, _, quotient, remainder, product, sum, natAbs_mod_lt nonzero,
      mod_eq_zero_or_sign_eq x y, ?_⟩
    split
    · next overflow =>
      obtain ⟨rfl, rfl⟩ := overflow
      exact ⟨Int64.minValue_div_neg_one, by decide⟩
    · next fits => exact toInt_div_of_not_overflow x y fits
  · rw [atMost, less, equal, Int.le_iff_lt_or_eq]
  · rw [atLeast, greater, equal, Int.le_iff_lt_or_eq, eq_comm]

/-- The least integer divided by minus one. -/
theorem operators_obey_arithmetic_least :
    (-1 : Int64) ≠ 0 ∧ ∃ product,
      div.apply Int64.minValue (-1) = .ok (.int Int64.minValue) ∧
      mod.apply Int64.minValue (-1) = .ok (.int 0) ∧
      mul.apply Int64.minValue (-1) = .ok (.int product) ∧
      add.apply product 0 = .ok (.int Int64.minValue) := by
  have nonzero : (-1 : Int64) ≠ 0 := by decide
  obtain ⟨-, -, -, -, -, divides, -⟩ := operators_obey_arithmetic Int64.minValue (-1)
  obtain ⟨quotient, remainder, product, divided, left, multiplied, added, -, -, exceptional⟩ :=
    divides nonzero
  rw [if_pos ⟨rfl, rfl⟩] at exceptional
  obtain ⟨rfl, rfl⟩ := exceptional
  exact ⟨nonzero, product, divided, left, multiplied, added⟩

end IntOp

end SlotLang
