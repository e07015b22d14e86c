import Mathlib
import Intercom.Proofs.Strictness

/-!
# The number of a request

A response names its request by a number. An integer is taken if it is a word. A real is tested for
a fraction and against both ends of the range of words, and then cut down to a word. The upper end
is the largest word as a real, which is rounded up to `2 ^ 64`; since the test against it is strict,
whatever passes it is a word, and the cut takes nothing away.

Results:
1. `Binary64.value_mul`: units are the exact value, so that comparisons of units compare values.
2. `Binary64.wholeWord?_eq_some_iff`: the tests and the cut find the word that a real equals.
3. `Binary64.value_ofInt?_neg`: a negative integer stays negative as a real.
4. `Message.ofMembers_congr`: of the member `id` only the request matters that it names.
5. `named_exactly`: a number names a request exactly if its value is the identifier.
-/

namespace Intercom

/-! ## Definitions -/

/-- The exact value of a binary64 number. -/
def Binary64.value (x : Binary64) : ℚ :=
  (if x.negative then -1 else 1) * x.mantissa * 2 ^ x.exponent

/-- The exact value of a number, whichever way it is held. -/
def Number.value : Number → ℚ
  | .integer value _ => value
  | .real x => x.value

/-! ## Comparisons -/

namespace Binary64

theorem shifted_pos {n : ℕ} (positive : 0 < n) (bits : ℕ) : 0 < shifted n bits :=
  Nat.mul_pos positive (Nat.two_pow_pos bits)

theorem cast_shifted (n bits : ℕ) : (shifted n bits : ℚ) = n * 2 ^ bits := by
  rw [shifted, Nat.pow_eq, Nat.cast_mul, Nat.cast_pow, Nat.cast_ofNat]

theorem unitsOfOne_pos : 0 < unitsOfOne :=
  shifted_pos Nat.one_pos 1074

theorem cast_unitsOfOne_pos : (0 : ℚ) < unitsOfOne :=
  Nat.cast_pos.mpr unitsOfOne_pos

/-- A number of the format is a whole number of units, and as many are its value. -/
theorem value_mul (x : Binary64) : x.value * unitsOfOne = x.units := by
  obtain ⟨_, least, _⟩ := x.canonical
  have scaled : (2 : ℚ) ^ x.exponent * 2 ^ 1074 = 2 ^ (x.exponent + 1074).toNat := by
    rw [← zpow_natCast, ← zpow_natCast, ← zpow_add₀ two_ne_zero]
    congr 1
    omega
  rw [value, unitsOfOne, cast_shifted, Nat.cast_one, one_mul, mul_assoc, scaled, units]
  cases x.negative <;> simp [cast_shifted]

theorem value_le_iff (x y : Binary64) : x.le y = true ↔ x.value ≤ y.value := by
  rw [le, decide_eq_true_eq, ← mul_le_mul_iff_of_pos_right cast_unitsOfOne_pos, value_mul,
    value_mul, Int.cast_le]

theorem value_lt_iff (x y : Binary64) : x.lt y = true ↔ x.value < y.value := by
  rw [lt, decide_eq_true_eq, ← mul_lt_mul_iff_of_pos_right cast_unitsOfOne_pos, value_mul,
    value_mul, Int.cast_lt]

theorem value_zero (negative : Bool) : (zero negative).value = 0 := by
  simp [value, zero]

/-- A real equals an integer if its units are whole multiples of those of 1. -/
theorem value_eq_iff (x : Binary64) (n : ℤ) : x.value = n ↔ x.units = n * unitsOfOne := by
  rw [← mul_left_inj' cast_unitsOfOne_pos.ne', value_mul]
  exact_mod_cast Iff.rfl

theorem isWhole_iff (x : Binary64) : x.isWhole = true ↔ ∃ n : ℤ, x.value = n := by
  rw [isWhole, beq_iff_eq, ← Int.dvd_iff_emod_eq_zero, dvd_iff_exists_eq_mul_left]
  exact exists_congr fun n => (x.value_eq_iff n).symm

/-! ## Words -/

/-- The real to which the largest word is rounded. -/
def top : Binary64 :=
  ⟨false, Nat.pow 2 52, 12, by decide⟩

theorem value_top : top.value = UInt64.size := by
  norm_num [value, top]

/-- The test against the largest word lets all reals pass that are less than `2 ^ 64`. -/
theorem lt_largest_iff (x : Binary64) :
    ((ofNat? (UInt64.size - 1)).any fun bound => x.lt bound) = true ↔ x.value < UInt64.size := by
  have rounded : ofNat? (UInt64.size - 1) = some top := by decide
  rw [rounded, Option.any_some, value_lt_iff, value_top]

/-- A word is not changed by the cut. -/
theorem toNat_toUInt64 {x : Binary64} {n : ℕ} (equals : x.value = n) (small : n < UInt64.size) :
    x.toUInt64.toNat = n := by
  have units := (x.value_eq_iff n).mp equals
  have whole : x.units.toNat / unitsOfOne = n := by
    rw [units, ← Int.natCast_mul, Int.toNat_natCast]
    exact Nat.mul_div_cancel n unitsOfOne_pos
  have least : min n (UInt64.size - 1) = n := by omega
  rw [toUInt64, whole, least]
  exact UInt64.toNat_ofNat_of_lt' small

/-- The tests and the cut find the word that a real equals, at any magnitude. -/
theorem wholeWord?_eq_some_iff {x : Binary64} {word : UInt64} :
    x.wholeWord? = some word ↔ x.value = word.toNat := by
  unfold wholeWord?
  constructor
  · intro found
    split at found
    · next passes =>
        cases found
        simp only [Bool.and_eq_true, value_le_iff, value_zero, isWhole_iff,
          lt_largest_iff] at passes
        obtain ⟨⟨positive, n, whole⟩, small⟩ := passes
        -- a whole number in the range is a natural, and so the cut gives back what was there
        rw [whole] at positive small
        obtain ⟨n, rfl⟩ := Int.eq_ofNat_of_zero_le (Int.cast_nonneg_iff.mp positive)
        rw [Int.cast_natCast] at whole small
        rw [toNat_toUInt64 whole (Nat.cast_lt.mp small), whole]
    · cases found
  · intro equals
    have small := word.toNat_lt
    have cut : x.toUInt64 = word := UInt64.toNat_inj.mp (toNat_toUInt64 equals small)
    rw [if_pos, cut]
    simp only [Bool.and_eq_true, value_le_iff, value_zero, isWhole_iff, lt_largest_iff, equals]
    exact ⟨⟨Nat.cast_nonneg _, word.toNat, (Int.cast_natCast _).symm⟩, Nat.cast_lt.mpr small⟩

/-! ## Negative integers -/

theorem divRound_pos {num den : ℕ} (positive : 0 < den) (most : den ≤ num) :
    0 < divRound num den := by
  refine Nat.pos_of_ne_zero fun none => ?_
  have near := @le_two_mul_divRound num den positive
  rw [none, Nat.zero_mul] at near
  omega

theorem floorLog2_le (num : ℕ) : floorLog2 num 1 ≤ num.log2 := by
  unfold floorLog2
  dsimp only
  split <;> omega

/-- A positive natural is at least the unit to which it is rounded. -/
theorem unit_le {num : ℕ} (positive : 0 < num) {exponent : ℤ}
    (unit : exponent = max (-1074) (floorLog2 num 1 - 52)) :
    1 * Nat.pow 2 exponent.toNat ≤ num * Nat.pow 2 (-exponent).toNat := by
  have bound : exponent.toNat ≤ num.log2 := by
    have := floorLog2_le num
    omega
  calc 1 * Nat.pow 2 exponent.toNat
      ≤ 2 ^ num.log2 := by
        rw [Nat.one_mul]
        exact Nat.pow_le_pow_right Nat.two_pos bound
    _ ≤ num := Nat.log2_self_le positive.ne'
    _ ≤ num * Nat.pow 2 (-exponent).toNat := Nat.le_mul_of_pos_right _ (Nat.two_pow_pos _)

/-- A positive natural is never rounded to zero. -/
theorem mantissa_ofRatio?_pos {negative : Bool} {num : ℕ} (positive : 0 < num) {x : Binary64}
    (rounded : ofRatio? negative num 1 = some x) : x.negative = negative ∧ 0 < x.mantissa := by
  unfold ofRatio? at rounded
  rw [if_neg positive.ne'] at rounded
  dsimp only at rounded
  have filled := divRound_pos (Nat.mul_pos Nat.one_pos (Nat.two_pow_pos _))
    (unit_le positive rfl)
  obtain ⟨fits, same⟩ := Option.dite_none_right_eq_some.mp rounded
  cases same
  refine ⟨rfl, ?_⟩
  dsimp only
  split
  · exact Nat.two_pow_pos 52
  · exact filled

theorem value_ofInt?_neg {n : ℤ} (negative : n < 0) {x : Binary64} (rounded : ofInt? n = some x) :
    x.value < 0 := by
  rw [ofInt?, decide_eq_true negative] at rounded
  obtain ⟨sign, filled⟩ := mantissa_ofRatio?_pos (Int.natAbs_pos.mpr negative.ne) rounded
  have positive : (0 : ℚ) < x.mantissa := Nat.cast_pos.mpr filled
  rw [value, sign, if_pos rfl, neg_one_mul, neg_mul, neg_lt_zero]
  positivity

end Binary64

/-! ## Identifiers -/

namespace Message

theorem usableId?_integer {value : ℤ} {kept : Number.Kept value} {id : RequestId} :
    usableId? (.number (.integer value kept)) = some id ↔ (value : ℚ) = id.value.toNat := by
  have bounds : value < 18_446_744_073_709_551_616 := kept.2
  rw [← Int.cast_natCast, Int.cast_inj]
  by_cases positive : 0 ≤ value
  · have word : (UInt64.ofNat value.toNat).toNat = value.toNat :=
      UInt64.toNat_ofNat_of_lt' (by rw [UInt64.size]; omega)
    simp only [usableId?, Number.toUInt64?, if_pos positive, Option.some.injEq]
    constructor
    · rintro rfl
      dsimp only
      omega
    · intro equals
      obtain ⟨name⟩ := id
      congr 1
      rw [← UInt64.toNat_inj, word]
      dsimp only at equals
      omega
  · have differs : value ≠ id.value.toNat := by omega
    simp only [usableId?, Number.toUInt64?, if_neg positive, Number.toReal?, differs, iff_false]
    split
    · next x rounded =>
        have below := Binary64.value_ofInt?_neg (not_le.mp positive) rounded
        intro found
        obtain ⟨word, cut, _⟩ := Option.map_eq_some_iff.mp found
        rw [Binary64.wholeWord?_eq_some_iff.mp cut] at below
        exact absurd below (not_lt.mpr (Nat.cast_nonneg _))
    · intro found
      cases found

theorem usableId?_real {x : Binary64} {id : RequestId} :
    usableId? (.number (.real x)) = some id ↔ x.value = id.value.toNat := by
  simp only [usableId?, Number.toUInt64?, Number.toReal?, Option.map_eq_some_iff,
    Binary64.wholeWord?_eq_some_iff]
  constructor
  · rintro ⟨word, equals, rfl⟩
    exact equals
  · exact fun equals => ⟨id.value, equals, rfl⟩

theorem usableId?_number {number : Number} {id : RequestId} :
    usableId? (.number number) = some id ↔ number.value = id.value.toNat := by
  cases number with
  | integer value kept => exact usableId?_integer
  | real x => exact usableId?_real

/-- Of the identifier only the request matters that it names. -/
theorem ofMembers_congr {members other : List (String × Json)}
    (agree : Table.AgreeBeyond "id" members other)
    (same : (Table.find? "id" members).bind usableId? = (Table.find? "id" other).bind usableId?) :
    ofMembers members = ofMembers other := by
  have field := fun key (apart : key ≠ "id") => agree key apart
  cases numbered : (Table.find? "id" members).bind usableId? with
  | some id =>
      rw [ofMembers_of_usable numbered, ofMembers_of_usable (same ▸ numbered)]
      simp [responseOf, field]
  | none =>
      by_cases named : ∃ event, Table.find? "event" members = some (.string event)
      · obtain ⟨event, named⟩ := named
        rw [ofMembers_of_named numbered named,
          ofMembers_of_named (same ▸ numbered) ((field "event" (by decide)) ▸ named)]
        simp [Push.ofMembers, field]
      · have unnamed := not_exists.mp named
        rw [ofMembers_of_unnamed numbered unnamed,
          ofMembers_of_unnamed (same ▸ numbered) ((field "event" (by decide)) ▸ unnamed),
          addressFault, addressFault, field "errors" (by decide)]

end Message

open Message in
/-- A number names a request exactly if its exact value is the identifier, however large it is and
however it is held; no other value names one. So frames that differ only in how the number is
written are the same message. -/
theorem named_exactly :
    (∀ number id, usableId? (.number number) = some id ↔ number.value = id.value.toNat) ∧
      (∀ value, (∀ number, value ≠ .number number) → usableId? value = none) ∧
      ∀ text other members others first second,
        objectOf text = .ok members → objectOf other = .ok others →
        Table.AgreeBeyond "id" members others →
        Table.find? "id" members = some (.number first) →
        Table.find? "id" others = some (.number second) →
        first.value = second.value → decode text = decode other := by
  refine ⟨fun _ _ => usableId?_number, ?_, ?_⟩
  · intro value other
    cases value with
    | number number => exact absurd rfl (other number)
    | _ => rfl
  · intro text other members others first second read again agree named renamed equal
    have same : usableId? (.number first) = usableId? (.number second) :=
      Option.ext fun id => by rw [usableId?_number, usableId?_number, equal]
    rw [decode_of_objectOf read, decode_of_objectOf again, ofMembers_congr agree]
    rw [named, renamed, Option.bind_some, Option.bind_some, same]

/-- The largest real below `2 ^ 64`. -/
def largestReal : Binary64 :=
  ⟨false, 9007199254740991, 11, by decide⟩

/-- A refusal of the request that the largest real names, with an integer for a number. -/
def refusedByInteger : List Char :=
  "\x7b\"id\":18446744073709549568,\"success\":false\x7d".toList

/-- The same refusal with a real for a number. -/
def refusedByReal : List Char :=
  "\x7b\"id\":18446744073709549568.0,\"success\":false\x7d".toList

/-- The members of these refusals. -/
def refusedMembers (number : Number) : List (String × Json) :=
  [("id", .number number), ("success", .bool false)]

open Message in
/-- At the top of the range both spellings name the same request, and the next real names none. -/
theorem named_exactly_largestReal :
    usableId? (.number (.real largestReal)) = some ⟨18446744073709549568⟩ ∧
      usableId? (.number (.real Binary64.top)) = none ∧
      usableId? (.number (.real (.zero true))) = some ⟨0⟩ ∧ usableId? (.string "7") = none ∧
      objectOf refusedByInteger = .ok (refusedMembers (.integer 18446744073709549568 (by decide))) ∧
      objectOf refusedByReal = .ok (refusedMembers (.real largestReal)) ∧
      decode refusedByInteger = decode refusedByReal := by
  obtain ⟨exact, others, same⟩ := named_exactly
  have equals : largestReal.value = (18446744073709549568 : ℕ) := by
    norm_num [Binary64.value, largestReal]
  have read : objectOf refusedByInteger =
      .ok (refusedMembers (.integer 18446744073709549568 (by decide))) :=
    objectOf_of_object (by decide +kernel)
  have again : objectOf refusedByReal = .ok (refusedMembers (.real largestReal)) :=
    objectOf_of_object (by decide +kernel)
  have agree (first second : Number) :
      Table.AgreeBeyond "id" (refusedMembers first) (refusedMembers second) :=
    fun key apart => by simp [refusedMembers, Table.find?, Ne.symm apart]
  refine ⟨(exact _ _).mpr equals, ?_, (exact _ _).mpr (Binary64.value_zero true),
    others _ (by simp), read, again, same _ _ _ _ _ _ read again (agree _ _) rfl rfl equals.symm⟩
  refine Option.eq_none_iff_forall_ne_some.mpr fun id found => ?_
  have equal : Binary64.top.value = id.value.toNat := (exact _ _).mp found
  rw [Binary64.value_top, Nat.cast_inj] at equal
  exact absurd equal id.value.toNat_lt.ne'

end Intercom
