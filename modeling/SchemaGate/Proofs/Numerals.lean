import Mathlib.Data.List.TakeWhile
import SchemaGate.Text.Blank
import SchemaGate.Text.Decimal
/-!
Decimal numerals. A numeral is a run of digits, perhaps after a sign, and stands for one integer.
Main statement: the readers of bounded width accept exactly the numerals in their range, and read
the integer that the numeral stands for.
-/

set_option autoImplicit false

namespace SchemaGate.Text

/-- A nonempty run of decimal digits and the number that it writes. -/
structure Digits (s : List Char) (n : Nat) : Prop where
  nonempty : s ≠ []
  digits : ∀ c ∈ s, c.isDigit = true
  value : Nat.ofDigitChars 10 s 0 = n

/-- The integer that a text stands for: `[+-]?[0-9]+`. -/
inductive Numeral : List Char → Int → Prop where
  | plain {s : List Char} {n : Nat} (h : Digits s n) : Numeral s n
  | plus {s : List Char} {n : Nat} (h : Digits s n) : Numeral ('+' :: s) n
  | minus {s : List Char} {n : Nat} (h : Digits s n) : Numeral ('-' :: s) (-n)

/-- The number that a text without a minus sign stands for. -/
inductive UnsignedNumeral : List Char → Nat → Prop where
  | plain {s : List Char} {n : Nat} (h : Digits s n) : UnsignedNumeral s n
  | plus {s : List Char} {n : Nat} (h : Digits s n) : UnsignedNumeral ('+' :: s) n

private theorem digitsValue_eq_ofDigitChars (acc : Nat) (s : List Char) :
    digitsValue acc s = Nat.ofDigitChars 10 s acc := by
  induction s generalizing acc with
  | nil => rfl
  | cons c s ih =>
    change digitsValue (10 * acc + (c.toNat - '0'.toNat)) s = _
    rw [ih, Nat.ofDigitChars_cons]

section Written

theorem digits_natDigits (n : Nat) : Digits (natDigits n) n := by
  unfold natDigits
  refine ⟨Nat.toDigits_ne_nil, ?_, Nat.ofDigitChars_ten_toDigits⟩
  intro c h
  exact Nat.isDigit_of_mem_toDigits (by decide) (by decide) h

theorem natDigits_injective : Function.Injective natDigits := by
  intro n m h
  have first := (digits_natDigits n).value
  have second := (digits_natDigits m).value
  rw [h] at first
  exact first.symm.trans second

end Written

section Read

theorem readNat?_eq_some_iff {s : List Char} {n : Nat} : readNat? s = some n ↔ Digits s n := by
  have value : digitsValue 0 s = Nat.ofDigitChars 10 s 0 := digitsValue_eq_ofDigitChars 0 s
  unfold readNat?
  split
  · next bad =>
    constructor
    · intro h
      simp at h
    · intro h
      have nonempty := h.nonempty
      have digits := List.all_eq_true.mpr h.digits
      simp [digits, nonempty] at bad
  · next good =>
    simp only [Bool.or_eq_true, List.isEmpty_iff, Bool.not_eq_true', not_or,
      Bool.not_eq_false, List.all_eq_true] at good
    rw [Option.some.injEq, value]
    exact ⟨fun h => ⟨good.1, good.2, h⟩, fun h => h.value⟩

private theorem Digits.head_isDigit {c : Char} {s : List Char} {n : Nat} (h : Digits (c :: s) n) :
    c.isDigit = true :=
  h.digits c List.mem_cons_self

private theorem readInt?_eq_some_iff {s : List Char} {v : Int} :
    readInt? s = some v ↔ Numeral s v := by
  constructor
  · intro h
    unfold readInt? at h
    split at h
    · obtain ⟨n, read, rfl⟩ := Option.map_eq_some_iff.mp h
      exact .plus (readNat?_eq_some_iff.mp read)
    · obtain ⟨m, held, rfl⟩ := Option.map_eq_some_iff.mp h
      obtain ⟨n, read, same⟩ := Option.bind_eq_some_iff.mp held
      obtain rfl : (n : Int) = m := Option.some.inj same
      exact .minus (readNat?_eq_some_iff.mp read)
    · obtain ⟨n, read, rfl⟩ := Option.map_eq_some_iff.mp h
      exact .plain (readNat?_eq_some_iff.mp read)
  · intro h
    cases h with
    | plus h => rw [readInt?, readNat?_eq_some_iff.mpr h]; rfl
    | minus h => rw [readInt?, readNat?_eq_some_iff.mpr h]; rfl
    | plain h =>
      rw [readInt?.eq_def]
      split
      · exact absurd h.head_isDigit (by decide)
      · exact absurd h.head_isDigit (by decide)
      · rw [readNat?_eq_some_iff.mpr h]
        rfl

theorem readSigned64?_eq_some_iff {s : List Char} {v : Int} :
    readSigned64? s = some v ↔ Numeral s v ∧ isSigned64 v = true := by
  rw [readSigned64?, Option.filter_eq_some_iff, readInt?_eq_some_iff]

theorem Numeral.mem {s : List Char} {v : Int} {c : Char} (h : Numeral s v) (member : c ∈ s) :
    c = '+' ∨ c = '-' ∨ c.isDigit = true := by
  cases h with
  | plain h => exact .inr (.inr (h.digits c member))
  | plus h =>
    rcases List.mem_cons.mp member with rfl | member
    · exact .inl rfl
    · exact .inr (.inr (h.digits c member))
  | minus h =>
    rcases List.mem_cons.mp member with rfl | member
    · exact .inr (.inl rfl)
    · exact .inr (.inr (h.digits c member))

theorem Numeral.unique {s : List Char} {v w : Int} (hv : Numeral s v) (hw : Numeral s w) :
    v = w := by
  have first := readInt?_eq_some_iff.mpr hv
  have second := readInt?_eq_some_iff.mpr hw
  exact Option.some.inj (first.symm.trans second)

theorem numeral_ofInt (v : Int) : Numeral (ofInt v).toList v := by
  cases v with
  | ofNat n =>
    rw [ofInt, ofNat, String.toList_ofList]
    exact .plain (digits_natDigits n)
  | negSucc n =>
    rw [ofInt, String.toList_ofList]
    exact .minus (digits_natDigits (n + 1))

theorem ofInt_injective : Function.Injective ofInt := by
  intro v w h
  have first := numeral_ofInt v
  rw [h] at first
  exact first.unique (numeral_ofInt w)

private def afterPlus (s : List Char) : List Char :=
  match s with
  | '+' :: r => if r.isEmpty then s else r
  | _ => s

private def readPlain64 (s : List Char) : Except UnsignedFault Nat :=
  if s.isEmpty then .error .empty
  else if wordSize ≤ digitsValue 0 (s.takeWhile Char.isDigit) then .error .tooLarge
  else if !s.all Char.isDigit then .error .notDigit
  else .ok (digitsValue 0 (s.takeWhile Char.isDigit))

private theorem readUnsigned64_eq (s : List Char) : readUnsigned64 s = readPlain64 (afterPlus s) :=
  rfl

private theorem readPlain64_of_digits {s : List Char} {n : Nat} (h : Digits s n)
    (fits : n < wordSize) : readPlain64 s = .ok n := by
  have nonempty : s.isEmpty = false := List.isEmpty_eq_false_iff.mpr h.nonempty
  have digits : s.all Char.isDigit = true := List.all_eq_true.mpr h.digits
  have whole : s.takeWhile Char.isDigit = s := List.takeWhile_eq_self_iff.mpr h.digits
  have value : digitsValue 0 s = n := (digitsValue_eq_ofDigitChars 0 s).trans h.value
  have small : ¬ wordSize ≤ n := Nat.not_le.mpr fits
  rw [readPlain64, nonempty, digits, whole, value, if_neg small]
  rfl

private theorem afterPlus_of_numeral {s : List Char} {n : Nat} (h : UnsignedNumeral s n) :
    Digits (afterPlus s) n := by
  cases h with
  | plain h =>
    unfold afterPlus
    split
    · exact absurd h.head_isDigit (by decide)
    · exact h
  | @plus digits n h =>
    have nonempty : digits.isEmpty = false := List.isEmpty_eq_false_iff.mpr h.nonempty
    have signed : afterPlus ('+' :: digits) = digits := by simp [afterPlus, nonempty]
    rw [signed]
    exact h

theorem readUnsigned64_of_numeral {s : List Char} {n : Nat} (h : UnsignedNumeral s n)
    (fits : n < wordSize) : readUnsigned64 s = .ok n := by
  rw [readUnsigned64_eq]
  exact readPlain64_of_digits (afterPlus_of_numeral h) fits

end Read

end SchemaGate.Text
