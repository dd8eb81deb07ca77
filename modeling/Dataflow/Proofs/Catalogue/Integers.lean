import Dataflow.Proofs.Catalogue.Yields
import Mathlib.Data.Int.ModEq
import Mathlib.Data.Rat.Floor

/-!
# The arithmetic of words

What the built-in operators make of integers, in terms of numbers without bounds. A word stands for
all the numbers that are congruent to it modulo 2³². Quotients are truncated, and the only one that
overflows wraps around. Shifts multiply by powers of two, or divide by them and round down.
-/

namespace Dataflow

/-! ## Residues -/

/-- The word is the only one that is congruent to a number modulo 2³². -/
def IsResidue (word : Int32) (number : ℤ) : Prop :=
  ∀ other : Int32, other.toInt ≡ number [ZMOD 2 ^ 32] ↔ other = word

theorem bmod_modEq (number : ℤ) : number.bmod (2 ^ 32) ≡ number [ZMOD 2 ^ 32] :=
  Int.bmod_emod

theorem toInt_modEq_iff {word : Int32} {number : ℤ} :
    word.toInt ≡ number [ZMOD 2 ^ 32] ↔ word = Int32.ofInt number := by
  constructor
  · intro congruent
    have balanced : number.bmod (2 ^ 32) = word.toInt := by
      calc
        number.bmod (2 ^ 32) = (number % 2 ^ 32).bmod (2 ^ 32) := (Int.emod_bmod number _).symm
        _ = (word.toInt % 2 ^ 32).bmod (2 ^ 32) := by rw [congruent]
        _ = word.toInt.bmod (2 ^ 32) := Int.emod_bmod word.toInt _
        _ = word.toInt := Int32.toInt_bmod word
    exact ((Int32.ofInt_eq_iff_bmod_eq_toInt number word).mpr balanced).symm
  · rintro rfl
    rw [Int32.toInt_ofInt]
    exact bmod_modEq number

theorem isResidue_ofInt (number : ℤ) : IsResidue (Int32.ofInt number) number :=
  fun _ => toInt_modEq_iff

/-- Taken without a sign, a negative word stands for a number that is greater by 2³². -/
theorem toNat_toUInt32 (word : Int32) : (word.toUInt32.toNat : ℤ) = word.toInt % 2 ^ 32 := by
  have signed := BitVec.toInt_eq_toNat_cond word.toBitVec
  have bounded := word.toBitVec.isLt
  change word.toInt = _ at signed
  change (word.toBitVec.toNat : ℤ) = _
  split at signed <;> omega

theorem toNat_toUInt32_modEq (word : Int32) :
    word.toUInt32.toNat ≡ word.toInt [ZMOD 2 ^ 32] := by
  rw [toNat_toUInt32]
  exact Int.mod_modEq word.toInt _

/-! ## Steady inputs -/

section Steady

variable {header : Header} {inputs : List Variable} {index : Nat} {input first second : Variable}
  {left right : Int32}

theorem Variable.constant_steady (value : Value) : (constant value).value.Steady (.ok value) :=
  fun _ => rfl

theorem Slots.value_steady {expected : ValueType} {value : Value}
    (found : inputs[index]? = some input) (declared : header.inputs[index]? = some expected)
    (accepted : expected.accepts value.type = true) (steady : input.value.Steady (.ok value)) :
    (Slots.value ⟨header, inputs⟩ index).Steady (.ok value) := by
  intro trace
  have read := value_after found declared accepted (Prod.ext (steady trace) rfl)
  exact congrArg Prod.fst read

theorem Slots.integer_steady {number : Int32} (found : inputs[index]? = some input)
    (declared : header.inputs[index]? = some .integer)
    (steady : input.value.Steady (.ok (.integer number))) :
    (Slots.integer ⟨header, inputs⟩ index).Steady (.ok number) := by
  intro trace
  have read := integer_after found declared (Prod.ext (steady trace) rfl)
  exact congrArg Prod.fst read

namespace Catalogue

theorem onInteger_steady {kind symbol name : String} {pattern : RenderPattern}
    {function : Int32 → Int32} (steady : first.value.Steady (.ok (.integer left))) :
    (((integerFamily kind pattern).safe symbol name (onInteger function)).evaluate
      [first]).Steady (.ok (.integer (function left))) := by
  rw [safe_evaluate rfl]
  exact (Slots.integer_steady rfl rfl steady).bind_ok fun _ => rfl

theorem onIntegers_steady {symbol name : String} {function : Int32 → Int32 → Int32}
    (steady : first.value.Steady (.ok (.integer left)))
    (steady' : second.value.Steady (.ok (.integer right))) :
    ((Template.bitwiseBinary.safe symbol name (onIntegers function)).evaluate
      [first, second]).Steady (.ok (.integer (function left right))) := by
  rw [safe_evaluate rfl]
  refine (Slots.integer_steady rfl rfl steady).bind_ok ?_
  exact (Slots.integer_steady rfl rfl steady').bind_ok fun _ => rfl

/-- Operators that combine the values of two slots. -/
theorem value_value_steady {template : Template} {symbol name : String} {slot slot' : ValueType}
    {value value' : Value} {combine : Value → Value → Evaluation Value}
    {outcome : Outcome EvaluationError Value} (slots : template.inputs = [slot, slot'])
    (accepted : slot.accepts value.type = true) (accepted' : slot'.accepts value'.type = true)
    (steady : first.value.Steady (.ok value)) (steady' : second.value.Steady (.ok value'))
    (combined : (combine value value').Steady outcome) :
    ((template.safe symbol name fun slots => do
      let left ← slots.value 0
      let right ← slots.value 1
      combine left right).evaluate [first, second]).Steady outcome := by
  rw [safe_evaluate (by rw [slots]; rfl)]
  refine (Slots.value_steady rfl (by exact congrArg (·[0]?) slots) accepted steady).bind_ok ?_
  exact (Slots.value_steady rfl (by exact congrArg (·[1]?) slots) accepted' steady').bind_ok
    combined

/-- Arithmetic on two integers is that of words. -/
theorem calculated_steady [HostArithmetic] {pattern : RenderPattern} {symbol name : String}
    {operation : ArithmeticOperation} (steady : first.value.Steady (.ok (.integer left)))
    (steady' : second.value.Steady (.ok (.integer right))) :
    (((arithmeticFamily pattern).safe symbol name (calculated operation)).evaluate
      [first, second]).Steady (.ofExcept (.integer <$> operation.onIntegers left right)) :=
  value_value_steady rfl rfl rfl steady steady' fun _ => rfl

/-- The remainder by one needs no dividend, and agrees with what there would be to compute. -/
theorem modulus_steady (steady : first.value.Steady (.ok (.integer left)))
    (steady' : second.value.Steady (.ok (.integer right))) :
    (modulus.evaluate [first, second]).Steady
      (if right = 0 then .error .divisionByZero else .ok (.integer (left % right))) := by
  rw [modulus, safe_evaluate rfl]
  refine (Slots.integer_steady rfl rfl steady').bind_ok ?_
  split
  case isTrue => exact fun _ => rfl
  split
  case isTrue shortcut =>
    rw [shortcut, Int32.mod_one]
    exact fun _ => rfl
  case isFalse => exact (Slots.integer_steady rfl rfl steady).bind_ok fun _ => rfl

end Catalogue

end Steady

/-! ## Quotients and remainders -/

theorem quotient_mul_add_remainder (dividend divisor : Int32) :
    dividend / divisor * divisor + dividend % divisor = dividend := by
  have quotient : dividend / divisor = Int32.ofInt (dividend.toInt.tdiv divisor.toInt) := by
    rw [← toInt_modEq_iff, Int32.toInt_div]
    exact bmod_modEq _
  have remainder : dividend % divisor = Int32.ofInt (dividend.toInt.tmod divisor.toInt) := by
    rw [← Int32.toInt_mod, Int32.ofInt_toInt]
  calc
    dividend / divisor * divisor + dividend % divisor =
        Int32.ofInt (dividend.toInt.tdiv divisor.toInt * divisor.toInt +
          dividend.toInt.tmod divisor.toInt) := by
      rw [quotient, remainder, Int32.ofInt_add, Int32.ofInt_mul, Int32.ofInt_toInt]
    _ = dividend := by rw [Int.tdiv_mul_add_tmod, Int32.ofInt_toInt]

/-- A quotient and a remainder that fit together. -/
structure Truncated (dividend divisor quotient remainder : Int32) : Prop where
  composes : quotient * divisor + remainder = dividend
  small : |remainder.toInt| < |divisor.toInt|
  sign : remainder.toInt = 0 ∨ remainder.toInt.sign = dividend.toInt.sign
  truncates : ¬ (dividend = Int32.minValue ∧ divisor = -1) →
    quotient.toInt = dividend.toInt.tdiv divisor.toInt
  overflows : dividend = Int32.minValue → divisor = -1 → quotient = Int32.minValue ∧ remainder = 0

theorem truncated_div_mod (dividend : Int32) {divisor : Int32} (nonzero : divisor ≠ 0) :
    Truncated dividend divisor (dividend / divisor) (dividend % divisor) where
  composes := quotient_mul_add_remainder dividend divisor
  small := by
    have positive : 0 < divisor.toInt.natAbs := by
      have apart : divisor.toInt ≠ 0 := fun zero => nonzero (Int32.toInt_inj.mp zero)
      omega
    have bounded := Nat.mod_lt dividend.toInt.natAbs positive
    rw [Int32.toInt_mod, Int.abs_eq_natAbs, Int.abs_eq_natAbs, Int.natAbs_tmod]
    exact_mod_cast bounded
  sign := by
    rw [Int32.toInt_mod]
    by_cases divides : divisor.toInt ∣ dividend.toInt
    · exact .inl (Int.tmod_eq_zero_of_dvd divides)
    · exact .inr (by rw [Int.sign_tmod, if_neg divides])
  truncates := by
    intro ordinary
    by_cases least : dividend = Int32.minValue
    · exact Int32.toInt_div_of_ne_right _ _ fun minus => ordinary ⟨least, minus⟩
    · exact Int32.toInt_div_of_ne_left _ _ least
  overflows := by
    rintro rfl rfl
    exact ⟨Int32.minValue_div_neg_one, rfl⟩

namespace Catalogue

variable {first second : Variable}

theorem division_steady [HostArithmetic] {left right : Int32}
    (steady : first.value.Steady (.ok (.integer left)))
    (steady' : second.value.Steady (.ok (.integer right))) :
    (division.evaluate [first, second]).Steady
      (if right = 0 then .error .divisionByZero else .ok (.integer (left / right))) := by
  have computed : (division.evaluate [first, second]).Steady
      (.ofExcept (.integer <$> ArithmeticOperation.divide.onIntegers left right)) :=
    calculated_steady steady steady'
  simp only [ArithmeticOperation.onIntegers] at computed
  split
  case isTrue zero => rwa [if_pos zero] at computed
  case isFalse nonzero => rwa [if_neg nonzero] at computed

/-- Division and the remainder fail if and only if the divisor is zero, and fit together otherwise.
The remainder is what there is to compute, also for the divisor one, where nothing is computed. -/
theorem division_modulus_truncated [HostArithmetic] {dividend divisor : Int32}
    (divided : first.value.Steady (.ok (.integer dividend)))
    (dividing : second.value.Steady (.ok (.integer divisor))) :
    ((division.evaluate [first, second]).Steady (.error .divisionByZero) ↔ divisor = 0) ∧
    ((modulus.evaluate [first, second]).Steady (.error .divisionByZero) ↔ divisor = 0) ∧
    (divisor ≠ 0 → ∃ quotient remainder : Int32,
      (division.evaluate [first, second]).Steady (.ok (.integer quotient)) ∧
      (modulus.evaluate [first, second]).Steady (.ok (.integer remainder)) ∧
      Truncated dividend divisor quotient remainder ∧ remainder = dividend % divisor) := by
  have quotient := division_steady divided dividing
  have remainder := modulus_steady divided dividing
  by_cases zero : divisor = 0
  · rw [if_pos zero] at quotient remainder
    exact ⟨iff_of_true quotient zero, iff_of_true remainder zero,
      fun nonzero => absurd zero nonzero⟩
  · rw [if_neg zero] at quotient remainder
    have fails : ∀ {run : Evaluation Value} {value : Value}, run.Steady (.ok value) →
        ¬ run.Steady (.error .divisionByZero) := by
      intro run value yields failing
      cases yields.unique failing
    exact ⟨iff_of_false (fails quotient) zero, iff_of_false (fails remainder) zero,
      fun _ => ⟨_, _, quotient, remainder, truncated_div_mod dividend zero, rfl⟩⟩

/-- The one quotient that overflows. -/
theorem division_modulus_truncated_minValue :
    let operands := [Variable.constant (.integer Int32.minValue), .constant (.integer (-1))]
    (division.evaluate operands).Steady (.ok (.integer Int32.minValue)) ∧
      (modulus.evaluate operands).Steady (.ok (.integer 0)) := by
  intro operands
  have dividend := Variable.constant_steady (.integer Int32.minValue)
  have divisor := Variable.constant_steady (.integer (-1))
  obtain ⟨-, -, regular⟩ := division_modulus_truncated dividend divisor
  obtain ⟨quotient, remainder, divided, reduced, truncated, -⟩ := regular (by decide)
  obtain ⟨rfl, rfl⟩ := truncated.overflows rfl rfl
  exact ⟨divided, reduced⟩

end Catalogue

/-! ## Shifts -/

/-- The number of places that a count stands for. -/
def places (count : Int32) : ℕ := (count.toInt % 32).toNat

theorem toNat_smod_eq_places (count : Int32) : (count.toBitVec.smod 32).toNat = places count := by
  have counted : (count.toBitVec.smod 32).toInt = count.toInt % 32 := by
    rw [BitVec.toInt_smod]
    exact Int.fmod_eq_emod_of_nonneg _ (by decide)
  rw [BitVec.toInt_eq_toNat_cond] at counted
  rw [places]
  have bounded := (count.toBitVec.smod 32).isLt
  split at counted <;> omega

theorem toNat_umod_eq_places (count : Int32) : (count.toBitVec % 32).toNat = places count := by
  have unsigned : (count.toBitVec.toNat : ℤ) = count.toInt % 2 ^ 32 := toNat_toUInt32 count
  have reduced : (count.toBitVec % 32).toNat = count.toBitVec.toNat % 32 := BitVec.toNat_umod
  rw [reduced, places]
  omega

theorem floor_div_two_pow (number : ℤ) (count : ℕ) :
    ⌊(number : ℚ) / 2 ^ count⌋ = number / 2 ^ count := by
  exact_mod_cast Rat.floor_intCast_div_natCast number (2 ^ count)

theorem shiftLeft_eq (number count : Int32) :
    number <<< count = Int32.ofInt (number.toInt * 2 ^ places count) := by
  have shifted : (number <<< count).toInt =
      ((number.toUInt32.toNat * 2 ^ places count : ℕ) : ℤ).bmod (2 ^ 32) := by
    change (number <<< count).toBitVec.toInt = _
    rw [Int32.toBitVec_shiftLeft, BitVec.shiftLeft_eq', BitVec.toInt_shiftLeft, Nat.shiftLeft_eq,
      toNat_smod_eq_places]
    rfl
  rw [← toInt_modEq_iff, shifted]
  calc
    ((number.toUInt32.toNat * 2 ^ places count : ℕ) : ℤ).bmod (2 ^ 32) ≡
        (number.toUInt32.toNat * 2 ^ places count : ℕ) [ZMOD 2 ^ 32] := bmod_modEq _
    _ ≡ number.toInt * 2 ^ places count [ZMOD 2 ^ 32] := by
      push_cast
      exact (toNat_toUInt32_modEq number).mul_right _

theorem toInt_shiftRight (number count : Int32) :
    (number >>> count).toInt = number.toInt / 2 ^ places count := by
  change (number >>> count).toBitVec.toInt = number.toInt / _
  rw [Int32.toBitVec_shiftRight, BitVec.sshiftRight_eq', BitVec.toInt_sshiftRight,
    Int.shiftRight_eq_div_pow, toNat_smod_eq_places]
  push_cast
  rfl

theorem shiftRightZero_eq (number count : Int32) :
    (number.toUInt32 >>> count.toUInt32).toInt32 =
      Int32.ofInt (number.toInt % 2 ^ 32 / 2 ^ places count) := by
  have shifted : (number.toUInt32 >>> count.toUInt32).toNat =
      number.toUInt32.toNat / 2 ^ places count := by
    change (number.toUInt32 >>> count.toUInt32).toBitVec.toNat = _
    rw [UInt32.toBitVec_shiftRight, BitVec.ushiftRight_eq', BitVec.toNat_ushiftRight,
      Nat.shiftRight_eq_div_pow]
    change _ / 2 ^ (count.toBitVec % 32).toNat = _
    rw [toNat_umod_eq_places]
    rfl
  -- the way back to a word with a sign keeps all bits
  have congruent := toNat_toUInt32_modEq (number.toUInt32 >>> count.toUInt32).toInt32
  change ((number.toUInt32 >>> count.toUInt32).toNat : ℤ) ≡ _ [ZMOD 2 ^ 32] at congruent
  rw [shifted] at congruent
  rw [← toInt_modEq_iff, ← toNat_toUInt32]
  exact_mod_cast congruent.symm

/-- The shifts of a word to the left, to the right with copies of its sign, and to the right with
zeros. -/
structure ShiftedWords (number count left right zero : Int32) : Prop where
  multiplies : IsResidue left (number.toInt * 2 ^ places count)
  divides : right.toInt = ⌊(number.toInt : ℚ) / 2 ^ places count⌋
  dividesUnsigned : IsResidue zero ⌊((number.toInt % 2 ^ 32 : ℤ) : ℚ) / 2 ^ places count⌋
  agree : 0 ≤ number → zero = right
  nonnegative : 0 < places count → 0 ≤ zero

theorem shiftedWords_shift (number count : Int32) :
    ShiftedWords number count (number <<< count) (number >>> count)
      (number.toUInt32 >>> count.toUInt32).toInt32 where
  multiplies := by
    rw [shiftLeft_eq]
    exact isResidue_ofInt _
  divides := by rw [floor_div_two_pow, toInt_shiftRight]
  dividesUnsigned := by
    rw [floor_div_two_pow, shiftRightZero_eq]
    exact isResidue_ofInt _
  agree := by
    intro nonnegative
    have unsigned : number.toInt % 2 ^ 32 = number.toInt := by
      have bounded := number.toInt_lt
      have above : 0 ≤ number.toInt := Int32.le_iff_toInt_le.mp nonnegative
      omega
    rw [shiftRightZero_eq, unsigned, ← toInt_shiftRight, Int32.ofInt_toInt]
  nonnegative := by
    intro moved
    have unsigned : 0 ≤ number.toInt % 2 ^ 32 ∧ number.toInt % 2 ^ 32 < 2 ^ 32 := by omega
    have halved : (2 : ℤ) ^ 1 ≤ 2 ^ places count := pow_le_pow_right₀ (by decide) moved
    have above : 0 ≤ number.toInt % 2 ^ 32 / 2 ^ places count :=
      Int.ediv_nonneg unsigned.1 (by omega)
    have below : number.toInt % 2 ^ 32 / 2 ^ places count < 2 ^ 31 :=
      Int.ediv_lt_of_lt_mul (by omega) (by omega)
    rw [shiftRightZero_eq, Int32.le_iff_toInt_le, Int32.toInt_ofInt_of_le (by omega) below]
    exact above

namespace Catalogue

variable {first second : Variable}

/-- Shifts multiply and divide by powers of two, whatever the signs of the number and the count are.
The two shifts to the right agree on numbers that are not negative. -/
theorem shifts_scale {number count : Int32}
    (shifted : first.value.Steady (.ok (.integer number)))
    (counted : second.value.Steady (.ok (.integer count))) :
    ∃ left right zero : Int32,
      (shiftLeft.evaluate [first, second]).Steady (.ok (.integer left)) ∧
      (shiftRight.evaluate [first, second]).Steady (.ok (.integer right)) ∧
      (shiftRightZero.evaluate [first, second]).Steady (.ok (.integer zero)) ∧
      ShiftedWords number count left right zero :=
  ⟨_, _, _, onIntegers_steady shifted counted, onIntegers_steady shifted counted,
    onIntegers_steady shifted counted, shiftedWords_shift number count⟩

/-- A negative number, and a count that stands for two places. -/
theorem shifts_scale_negative :
    let operands := [Variable.constant (.integer (-8)), .constant (.integer (-30))]
    (shiftLeft.evaluate operands).Steady (.ok (.integer (-32))) ∧
      (shiftRight.evaluate operands).Steady (.ok (.integer (-2))) ∧
      (shiftRightZero.evaluate operands).Steady (.ok (.integer 1073741822)) := by
  intro operands
  have number := Variable.constant_steady (.integer (-8))
  have count := Variable.constant_steady (.integer (-30))
  obtain ⟨left, right, zero, shiftedLeft, shiftedRight, shiftedZero, shifted⟩ :=
    shifts_scale number count
  have left_eq : -32 = left := (shifted.multiplies (-32)).mp (by decide)
  have right_eq : right = -2 := by
    have halved := shifted.divides
    rw [floor_div_two_pow] at halved
    exact Int32.toInt_inj.mp (halved.trans (by decide))
  have zero_eq : 1073741822 = zero := by
    refine (shifted.dividesUnsigned 1073741822).mp ?_
    rw [floor_div_two_pow]
    decide
  subst left_eq right_eq zero_eq
  exact ⟨shiftedLeft, shiftedRight, shiftedZero⟩

end Catalogue

end Dataflow
