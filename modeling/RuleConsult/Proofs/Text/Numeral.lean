import RuleConsult.Text.Numeral
import Mathlib.Algebra.Group.Nat.Defs
import Mathlib.Data.List.Basic
import Mathlib.Data.List.TakeWhile

/-!
# Numerals are read back

A natural number is written with ASCII digits, which are decimal digits of their face value. The
limit on the length of numerals is no obstacle where a number came from a numeral: its usual
notation has no more digits than that numeral had.

* `readNumeral_of_isDigit`: a numeral of ASCII digits is read unless it is too long;
* `readNumeral_toString`: the notation of a number is read as that number, if the number is small
  enough;
* `isReadable_of_readNumeral`: every number that was read is small enough.
-/

namespace RuleConsult.Text

/-- The numbers whose notation is not too long. -/
def IsReadable (n : Nat) : Prop := n < 10 ^ maxNumeralDigits

/-- The digits of ASCII have their usual values. -/
theorem decimalValue?_of_isDigit {c : Char} (h : c.isDigit = true) :
    decimalValue? c = some (c.toNat - 48) := by
  have hc : 48 ≤ c.toNat ∧ c.toNat ≤ 57 := Char.isDigit_iff_toNat.1 h
  have hfirst : decimalZeros.find? (fun first => first ≤ c.toNat && c.toNat < first + 10) =
      some 0x30 := by
    rw [decimalZeros, List.find?_cons_of_pos]
    simp only [Bool.and_eq_true, decide_eq_true_eq]
    omega
  rw [decimalValue?, hfirst]
  rfl

/-- The value of a digit of any script is below ten. -/
theorem decimalValue?_lt {c : Char} {value : Nat} (h : decimalValue? c = some value) :
    value < 10 := by
  obtain ⟨first, hfirst, rfl⟩ := Option.map_eq_some_iff.1 h
  have := List.find?_some hfirst
  simp only [Bool.and_eq_true, decide_eq_true_eq] at this
  omega

theorem toList_toString (n : Nat) : (toString (n : Int)).toList = Nat.toDigits 10 n :=
  Nat.toList_repr

/-- The notation of a number holds ASCII digits only. -/
theorem isDigit_of_mem_toString {n : Nat} {c : Char} (h : c ∈ (toString (n : Int)).toList) :
    c.isDigit = true := by
  rw [toList_toString] at h
  exact Nat.isDigit_of_mem_toDigits (by decide) (by decide) h

theorem toList_toString_ne_nil (n : Nat) : (toString (n : Int)).toList ≠ [] := by
  rw [toList_toString]
  exact Nat.toDigits_ne_nil

/-- ASCII digits are digits. -/
theorem isDigits_of_isDigit {text : String} (hne : text.toList ≠ [])
    (hall : ∀ c ∈ text.toList, c.isDigit = true) : isDigits text = true := by
  rw [isDigits, Bool.and_eq_true, List.all_eq_true]
  refine ⟨by simpa using hne, fun c hc => ?_⟩
  rw [isDigit, decimalValue?_of_isDigit (hall c hc)]
  rfl

theorem isDigits_toString (n : Nat) : isDigits (toString (n : Int)) = true :=
  isDigits_of_isDigit (toList_toString_ne_nil n) fun _ => isDigit_of_mem_toString

/-- Decimal values make up a number with at most as many digits. -/
theorem ofDecimals_lt {values : List Nat} (h : ∀ value ∈ values, value < 10) :
    ofDecimals values < 10 ^ values.length := by
  -- The induction needs any number in the place of what the digits before make up.
  have general : ∀ (values : List Nat) (n : Nat), (∀ value ∈ values, value < 10) →
      values.foldl (fun n value => 10 * n + value) n < (n + 1) * 10 ^ values.length := by
    intro values
    induction values with
    | nil => intro n _; simp
    | cons value values ih =>
      intro n hvalues
      rw [List.foldl_cons]
      have hvalue := hvalues value List.mem_cons_self
      refine Nat.lt_of_lt_of_le (ih _ fun v hv => hvalues v (List.mem_cons_of_mem _ hv)) ?_
      rw [List.length_cons, Nat.pow_succ, Nat.mul_comm _ 10, ← Nat.mul_assoc]
      exact Nat.mul_le_mul_right _ (by omega)
  have := general values 0 h
  rwa [Nat.zero_add, Nat.one_mul] at this

/-- Every number that was read can be read again. -/
theorem isReadable_of_readNumeral {text : String} {n : Nat} (h : readNumeral text = .ok n) :
    IsReadable n := by
  simp only [readNumeral] at h
  split at h
  · cases h
  · rename_i hlong
    split at h
    · cases h
    · rename_i hdecimal
      simp only [Bool.or_eq_true, decide_eq_true_eq, not_or] at hdecimal
      cases h
      -- All characters are leading digits, and so no more than are allowed.
      have hlen : (text.toList.filterMap decimalValue?).length ≤ maxNumeralDigits := by
        have := List.length_filterMap_le decimalValue? text.toList
        omega
      refine Nat.lt_of_lt_of_le (ofDecimals_lt fun value hvalue => ?_)
        (Nat.pow_le_pow_right (by decide) hlen)
      obtain ⟨c, -, hc⟩ := List.mem_filterMap.1 hvalue
      exact decimalValue?_lt hc

/-- What is read as a number is written in digits. -/
theorem isDigits_of_readNumeral {text : String} {n : Nat} (h : readNumeral text = .ok n) :
    isDigits text = true := by
  simp only [readNumeral] at h
  split at h
  · cases h
  · split at h
    · cases h
    · rename_i hdecimal
      simp only [Bool.or_eq_true, decide_eq_true_eq, not_or, Nat.not_lt] at hdecimal
      -- The leading digits are the whole text.
      have hall := (List.takeWhile_prefix _).eq_of_length_le hdecimal.2
      rw [List.takeWhile_eq_self_iff] at hall
      rw [isDigits, Bool.and_eq_true, List.all_eq_true]
      refine ⟨by simpa using hdecimal.1, fun c hc => ?_⟩
      rw [isDigit, hall c hc, Bool.true_or]

/-- What is written in ASCII digits is read unless it is too long. -/
theorem readNumeral_of_isDigit {text : String} (hne : text.toList ≠ [])
    (hall : ∀ c ∈ text.toList, c.isDigit = true) :
    readNumeral text =
      if maxNumeralDigits < text.length then .error (.tooLong text.length)
      else .ok (ofDecimals (text.toList.map fun c => c.toNat - 48)) := by
  have hvalue : ∀ c ∈ text.toList, decimalValue? c = some (c.toNat - 48) := fun c hc =>
    decimalValue?_of_isDigit (hall c hc)
  have hleading : text.toList.takeWhile (fun c => (decimalValue? c).isSome) = text.toList := by
    rw [List.takeWhile_eq_self_iff]
    intro c hc
    rw [hvalue c hc]
    rfl
  have hmap : text.toList.filterMap decimalValue? = text.toList.map fun c => c.toNat - 48 := by
    rw [← List.filterMap_eq_map]
    exact List.filterMap_congr hvalue
  simp only [readNumeral, hleading, hmap, String.length_toList]
  split
  · rfl
  · exact if_neg (by simp [hne])

/-- The notation of a number is read as that number. -/
theorem readNumeral_toString {n : Nat} (h : IsReadable n) :
    readNumeral (toString (n : Int)) = .ok n := by
  have hlen : (toString (n : Int)).length ≤ maxNumeralDigits := by
    rw [← String.length_toList, toList_toString]
    exact (Nat.length_toDigits_le_iff (by decide) (by decide)).2 h
  rw [readNumeral_of_isDigit (toList_toString_ne_nil n) fun _ => isDigit_of_mem_toString,
    if_neg (Nat.not_lt.2 hlen), toList_toString, ofDecimals, List.foldl_map]
  exact congrArg Except.ok Nat.ofDigitChars_ten_toDigits

end RuleConsult.Text
