import Mathlib.Data.List.TakeWhile
import TokenServer.Json.Printer
import TokenServer.Proofs.InstantText
import TokenServer.Text.Integer

/-! Integers are read from the texts that spell them, and from no others. Reading stops at the first digit that leads
out of bounds; that is no loss, since no further digit leads back. -/

namespace TokenServer

/-- What has no blanks is what is left of it between blanks. -/
theorem trim_padded {before text after : List Char} (leading : ∀ c ∈ before, isBlank c = true)
    (trailing : ∀ c ∈ after, isBlank c = true) (unblank : ∀ c ∈ text, isBlank c = false) :
    trim (before ++ text ++ after) = text := by
  have started : trimStart (before ++ text ++ after) = trimStart (text ++ after) := by
    rw [trimStart, List.append_assoc, List.dropWhile_append_of_pos leading, trimStart]
  cases text with
  | nil =>
    have ended : trimStart after = [] := List.dropWhile_eq_nil_iff.mpr trailing
    rw [trim, started, List.nil_append, ended]
    rfl
  | cons c rest =>
    have first : trimStart (c :: rest ++ after) = c :: rest ++ after :=
      trimStart_of_unblank fun other head => unblank other (Option.some.inj head ▸ List.mem_cons_self)
    have last : trimStart (c :: rest).reverse = (c :: rest).reverse :=
      trimStart_of_unblank fun other head => unblank other (List.mem_reverse.mp (List.mem_of_head? head))
    have backwards : ∀ c ∈ after.reverse, isBlank c = true := fun c member => trailing c (List.mem_reverse.mp member)
    rw [trim, started, first, List.reverse_append, trimStart, List.dropWhile_append_of_pos backwards]
    exact (congrArg List.reverse last).trans (List.reverse_reverse _)

theorem trim_eq_nil_iff {text : List Char} : trim text = [] ↔ ∀ c ∈ text, isBlank c = true := by
  have ends : trim text = [] ↔ trimStart text = [] := by
    rw [trim, List.reverse_eq_nil_iff, trimStart, List.dropWhile_eq_nil_iff]
    constructor
    · intro blank
      cases left : trimStart text with
      | nil => rfl
      | cons c rest =>
        have unblank := List.head?_dropWhile_not isBlank text
        rw [← trimStart, left] at unblank
        have blank := blank c (by simp [left])
        simp [blank] at unblank
    · intro nothing c member
      simp [nothing] at member
  rw [ends, trimStart, List.dropWhile_eq_nil_iff]

namespace Digit

/-- The value of digits behind others that are worth `value`. -/
def onwards (value : Nat) (digits : List Char) : Nat :=
  digits.foldl (fun value c => value * 10 + (c.toNat - '0'.toNat)) value

theorem onwards_cons (value : Nat) (c : Char) (rest : List Char) :
    onwards value (c :: rest) = onwards (value * 10 + (c.toNat - '0'.toNat)) rest := by
  rw [onwards, List.foldl_cons, onwards]

theorem le_onwards (value : Nat) (digits : List Char) : value ≤ onwards value digits := by
  induction digits generalizing value with
  | nil => exact Nat.le_refl value
  | cons c rest ih =>
    have more : value ≤ value * 10 + (c.toNat - '0'.toNat) := by omega
    exact Nat.le_trans more (ih _)

end Digit

namespace IntegerBounds

variable {bounds : IntegerBounds}

theorem contains_iff {value : Int} : bounds.contains value = true ↔ bounds.low ≤ value ∧ value ≤ bounds.high := by
  simp [contains]

theorem int64_contains (value : Int64) : int64.contains value.toInt = true :=
  contains_iff.mpr ⟨value.le_toInt, value.toInt_le⟩

theorem nat64_contains (value : UInt64) : nat64.contains value.toNat = true := by
  have bound := value.toNat_lt
  simp only [contains_iff, nat64]
  omega

theorem nat32_contains (value : UInt32) : nat32.contains value.toNat = true := by
  have bound := value.toNat_lt
  simp only [contains_iff, nat32]
  omega

theorem toInt_ofInt_of_contains {value : Int} (within : int64.contains value = true) :
    (Int64.ofInt value).toInt = value := by
  obtain ⟨low, high⟩ := contains_iff.mp within
  exact Int64.toInt_ofInt_of_le low (Int.lt_add_one_of_le high)

theorem toNat_ofNat_of_nat64 {value : Int} (within : nat64.contains value = true) :
    ((UInt64.ofNat value.toNat).toNat : Int) = value := by
  simp only [contains_iff, nat64] at within
  have small : value.toNat < UInt64.size := by
    dsimp only [UInt64.size]
    omega
  rw [UInt64.toNat_ofNat_of_lt' small, Int.toNat_of_nonneg within.1]

theorem toNat_ofNat_of_nat32 {value : Int} (within : nat32.contains value = true) :
    ((UInt32.ofNat value.toNat).toNat : Int) = value := by
  simp only [contains_iff, nat32] at within
  have small : value.toNat < UInt32.size := by
    dsimp only [UInt32.size]
    omega
  rw [UInt32.toNat_ofNat_of_lt' small, Int.toNat_of_nonneg within.1]

/-- What lies between zero and a number within bounds is within bounds. -/
theorem contains_of_le (zero : bounds.contains 0 = true) {sign : Int} (unit : sign = 1 ∨ sign = -1) {small great : Nat}
    (le : small ≤ great) (within : bounds.contains (sign * great) = true) :
    bounds.contains (sign * small) = true := by
  rw [contains_iff] at zero within ⊢
  rcases unit with rfl | rfl <;> omega

theorem readDigits_cons_of_contains {sign value next : Int} {c : Char} {rest : List Char}
    (digit : Digit.isDecimal c = true) (follows : value * 10 + sign * ((c.toNat - '0'.toNat : Nat) : Int) = next)
    (inside : bounds.contains next = true) :
    bounds.readDigits sign value (c :: rest) = bounds.readDigits sign next rest := by
  have limits := contains_iff.mp inside
  simp only [readDigits, Digit.decimal?, if_pos digit, follows]
  rw [if_neg (Int.not_lt.mpr limits.2), if_neg (Int.not_lt.mpr limits.1)]

theorem readDigits_cons_of_not_contains {sign value next : Int} {c : Char} {rest : List Char}
    (digit : Digit.isDecimal c = true) (follows : value * 10 + sign * ((c.toNat - '0'.toNat : Nat) : Int) = next)
    (outside : ¬bounds.contains next = true) : ∃ fault, bounds.readDigits sign value (c :: rest) = .error fault := by
  simp only [readDigits, Digit.decimal?, if_pos digit, follows]
  by_cases high : bounds.high < next
  · exact ⟨.tooLarge, if_pos high⟩
  · by_cases low : next < bounds.low
    · exact ⟨.tooSmall, (if_neg high).trans (if_pos low)⟩
    · exact absurd (contains_iff.mpr ⟨Int.not_lt.mp low, Int.not_lt.mp high⟩) outside

/-- Digits are read exactly if the number that they spell is within bounds; the numbers on the way there are then
within bounds too. -/
theorem readDigits_eq_ok_iff (zero : bounds.contains 0 = true) {sign : Int} (unit : sign = 1 ∨ sign = -1)
    {value : Nat} {digits : List Char} {result : Int} (within : bounds.contains (sign * value) = true) :
    bounds.readDigits sign (sign * value) digits = .ok result ↔
      (∀ c ∈ digits, Digit.isDecimal c = true) ∧ result = sign * Digit.onwards value digits ∧
        bounds.contains result = true := by
  induction digits generalizing value with
  | nil =>
    rw [readDigits, Except.ok.injEq]
    constructor
    · rintro rfl
      exact ⟨nofun, rfl, within⟩
    · exact fun spelled => spelled.2.1.symm
  | cons c rest ih =>
    rw [List.forall_mem_cons]
    cases digit : Digit.isDecimal c with
    | false => simp [readDigits, Digit.decimal?, digit]
    | true =>
      have next : sign * value * 10 + sign * ((c.toNat - '0'.toNat : Nat) : Int) =
          sign * ((value * 10 + (c.toNat - '0'.toNat) : Nat) : Int) := by
        rcases unit with rfl | rfl <;> omega
      have ahead := Digit.le_onwards (value * 10 + (c.toNat - '0'.toNat)) rest
      rw [Digit.onwards_cons]
      generalize value * 10 + (c.toNat - '0'.toNat) = reached at next ahead ⊢
      by_cases inside : bounds.contains (sign * reached) = true
      · rw [readDigits_cons_of_contains digit next inside, ih inside]
        simp
      · -- What comes after is farther out, so that neither side holds.
        obtain ⟨fault, failed⟩ := @readDigits_cons_of_not_contains bounds _ _ _ _ rest digit next inside
        simp only [failed, reduceCtorEq, true_and, false_iff, not_and]
        rintro - rfl within
        exact inside (contains_of_le zero unit ahead within)

/-- The texts of integers: decimal digits, which a plus may precede, or a minus where numbers can be negative. -/
inductive Spells (bounds : IntegerBounds) : List Char → Int → Prop where
  | plain {digits : List Char} (given : digits ≠ []) (decimal : ∀ c ∈ digits, Digit.isDecimal c = true) :
    Spells bounds digits (Digit.decimalValue digits)
  | plus {digits : List Char} (given : digits ≠ []) (decimal : ∀ c ∈ digits, Digit.isDecimal c = true) :
    Spells bounds ('+' :: digits) (Digit.decimalValue digits)
  | minus {digits : List Char} (negative : bounds.low < 0) (given : digits ≠ [])
    (decimal : ∀ c ∈ digits, Digit.isDecimal c = true) :
    Spells bounds ('-' :: digits) (-Digit.decimalValue digits)

namespace Spells

variable {text : List Char} {value : Int}

theorem unblank (spells : bounds.Spells text value) : ∀ c ∈ text, isBlank c = false := by
  have digits {rest : List Char} (decimal : ∀ c ∈ rest, Digit.isDecimal c = true) : ∀ c ∈ rest, isBlank c = false :=
    fun c member => Instant.Reading.unblank_of_isDecimal (decimal c member)
  cases spells with
  | plain _ decimal => exact digits decimal
  | plus _ decimal => exact List.forall_mem_cons.mpr ⟨by decide, digits decimal⟩
  | minus _ _ decimal => exact List.forall_mem_cons.mpr ⟨by decide, digits decimal⟩

end Spells

theorem spells_printInt {value : Int} (within : bounds.contains value = true) :
    bounds.Spells (Json.printInt value) value := by
  cases value with
  | ofNat value =>
    have spells : bounds.Spells _ _ :=
      .plain (Digit.decimals_ne_nil (n := value)) fun _ => Digit.isDecimal_of_mem_decimals
    rwa [Digit.decimalValue_decimals] at spells
  | negSucc value =>
    have negative : bounds.low < 0 := Int.lt_of_le_of_lt (contains_iff.mp within).1 (Int.negSucc_lt_zero value)
    have spells := Spells.minus negative (Digit.decimals_ne_nil (n := value + 1))
      fun _ => Digit.isDecimal_of_mem_decimals
    rwa [Digit.decimalValue_decimals] at spells

theorem readDigits_zero_eq_ok_iff (zero : bounds.contains 0 = true) {sign : Int} (unit : sign = 1 ∨ sign = -1)
    {digits : List Char} {result : Int} :
    bounds.readDigits sign 0 digits = .ok result ↔
      (∀ c ∈ digits, Digit.isDecimal c = true) ∧ result = sign * Digit.decimalValue digits ∧
        bounds.contains result = true := by
  have start : sign * ((0 : Nat) : Int) = 0 := Int.mul_zero sign
  have read := @readDigits_eq_ok_iff bounds zero sign unit 0 digits result (start ▸ zero)
  rwa [start] at read

/-- An integer is read exactly from the texts that spell it, and only within bounds. -/
theorem read_eq_ok_iff (zero : bounds.contains 0 = true) {text : List Char} {value : Int} :
    bounds.read text = .ok value ↔ bounds.Spells text value ∧ bounds.contains value = true := by
  constructor
  · intro read
    revert read
    fun_cases IntegerBounds.read bounds text with
    | case1 => exact nofun
    | case2 => exact nofun
    | case3 => exact nofun
    | case4 digits given =>
      rw [readDigits_zero_eq_ok_iff zero (.inl rfl), Int.one_mul]
      rintro ⟨decimal, rfl, within⟩
      exact ⟨.plus given decimal, within⟩
    | case5 digits given negative =>
      rw [readDigits_zero_eq_ok_iff zero (.inr rfl), Int.neg_one_mul]
      rintro ⟨decimal, rfl, within⟩
      exact ⟨.minus negative given decimal, within⟩
    | case6 => exact nofun
    | case7 _ given =>
      rw [readDigits_zero_eq_ok_iff zero (.inl rfl), Int.one_mul]
      rintro ⟨decimal, rfl, within⟩
      exact ⟨.plain given decimal, within⟩
  · rintro ⟨spells, within⟩
    cases spells with
    | plain given decimal =>
      have unsigned {c : Char} (sign : Digit.isDecimal c = false) (rest : List Char) : text ≠ c :: rest := by
        rintro rfl
        rw [decimal c List.mem_cons_self] at sign
        cases sign
      have plus := unsigned (c := '+') (by decide)
      have minus := unsigned (c := '-') (by decide)
      rw [IntegerBounds.read.eq_6 _ _ given (plus []) (minus []) plus minus]
      exact (readDigits_zero_eq_ok_iff zero (.inl rfl)).mpr ⟨decimal, (Int.one_mul _).symm, within⟩
    | plus given decimal =>
      rw [IntegerBounds.read.eq_4 _ _ given]
      exact (readDigits_zero_eq_ok_iff zero (.inl rfl)).mpr ⟨decimal, (Int.one_mul _).symm, within⟩
    | minus negative given decimal =>
      rw [IntegerBounds.read.eq_5 _ _ given, if_pos negative]
      exact (readDigits_zero_eq_ok_iff zero (.inr rfl)).mpr ⟨decimal, (Int.neg_one_mul _).symm, within⟩

end IntegerBounds

end TokenServer
