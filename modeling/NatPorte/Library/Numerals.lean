/-
Numerals: words over an ordered alphabet of digits, most significant digit first.

Words are compared symbol by symbol.  For numerals of one length this is the order of
their values; of two lengths, the shorter numeral is compared with as many leading
digits of the longer one.
-/

import Mathlib.Data.Char
import Mathlib.Data.Nat.Digits.Lemmas

/-- The digits of an alphabet, in the order of their values. -/
structure Numerals (Symbol : Type) [LinearOrder Symbol] where
  base : Nat
  IsDigit : Symbol → Prop
  digit : Symbol → Nat
  below : ∀ symbol, IsDigit symbol → digit symbol < base
  ordered : ∀ left right, IsDigit left → IsDigit right →
    (left < right ↔ digit left < digit right)

namespace Numerals

variable {Symbol : Type} [LinearOrder Symbol] (system : Numerals Symbol)

/-- Every symbol is a digit. -/
def Written (word : List Symbol) : Prop := ∀ symbol ∈ word, system.IsDigit symbol

def value (word : List Symbol) : Nat :=
  word.foldl (fun number symbol => number * system.base + system.digit symbol) 0

/-- The first symbol that differs decides; a word comes before its extensions. -/
def wordLe : List Symbol → List Symbol → Bool
  | [], _ => true
  | _ :: _, [] => false
  | first :: left, second :: right => if first = second then wordLe left right else first < second

/-- The first numeral is at most as many leading digits of the second, or, when it is
the longer one, as many of its own leading digits are less than the second. -/
def LeadingLe (left right : List Symbol) : Prop :=
  if left.length ≤ right.length then
    system.value left ≤ system.value right / system.base ^ (right.length - left.length)
  else system.value left / system.base ^ (left.length - right.length) < system.value right

variable {system}

theorem Written.tail {symbol : Symbol} {word : List Symbol}
    (written : system.Written (symbol :: word)) : system.Written word :=
  fun other member => written other (List.mem_cons_of_mem symbol member)

theorem digit_injective {left right : Symbol} (leftDigit : system.IsDigit left)
    (rightDigit : system.IsDigit right) (same : system.digit left = system.digit right) :
    left = right := by
  rcases lt_trichotomy left right with less | equal | greater
  · have smaller := (system.ordered left right leftDigit rightDigit).mp less
    omega
  · exact equal
  · have smaller := (system.ordered right left rightDigit leftDigit).mp greater
    omega

theorem foldl_value (word : List Symbol) (number : Nat) :
    word.foldl (fun number symbol => number * system.base + system.digit symbol) number =
      number * system.base ^ word.length + system.value word := by
  induction word generalizing number with
  | nil => simp [value]
  | cons symbol word ih =>
      rw [value, List.foldl_cons, List.foldl_cons, ih, ih (0 * system.base + _), Nat.zero_mul,
        Nat.zero_add, Nat.add_mul, List.length_cons, Nat.pow_succ', Nat.mul_assoc, Nat.add_assoc]

theorem value_cons (symbol : Symbol) (word : List Symbol) :
    system.value (symbol :: word) =
      system.digit symbol * system.base ^ word.length + system.value word := by
  rw [value, List.foldl_cons, foldl_value, Nat.zero_mul, Nat.zero_add]

theorem value_lt {word : List Symbol} (written : system.Written word) :
    system.value word < system.base ^ word.length := by
  induction word with
  | nil => exact Nat.one_pos
  | cons symbol word ih =>
      have digit := system.below symbol (written symbol List.mem_cons_self)
      have rest := ih written.tail
      have whole : (system.digit symbol + 1) * system.base ^ word.length ≤
          system.base * system.base ^ word.length := Nat.mul_le_mul_right _ digit
      rw [value_cons, List.length_cons, Nat.pow_succ']
      rw [Nat.add_mul, Nat.one_mul] at whole
      omega

theorem value_cons_div {symbol : Symbol} {word : List Symbol} {cut : Nat}
    (positive : 0 < system.base) (short : cut ≤ word.length) :
    system.value (symbol :: word) / system.base ^ cut =
      system.digit symbol * system.base ^ (word.length - cut) +
        system.value word / system.base ^ cut := by
  have split : system.base ^ word.length =
      system.base ^ (word.length - cut) * system.base ^ cut := by
    rw [← Nat.pow_add, Nat.sub_add_cancel short]
  rw [value_cons, split, ← Nat.mul_assoc, Nat.add_comm,
    Nat.add_mul_div_right _ _ (Nat.pow_pos positive), Nat.add_comm]

theorem value_div_lt {word : List Symbol} {cut : Nat} (written : system.Written word)
    (short : cut ≤ word.length) :
    system.value word / system.base ^ cut < system.base ^ (word.length - cut) := by
  apply Nat.div_lt_of_lt_mul
  rw [← Nat.pow_add, Nat.add_sub_cancel' short]
  exact value_lt written

theorem leading_decides {first second unit low high : Nat} (lowRest : low < unit)
    (highRest : high < unit) :
    (first * unit + low ≤ second * unit + high ↔
      first < second ∨ first = second ∧ low ≤ high) ∧
    (first * unit + low < second * unit + high ↔
      first < second ∨ first = second ∧ low < high) := by
  rcases Nat.lt_trichotomy first second with less | rfl | greater
  · have step : (first + 1) * unit ≤ second * unit := Nat.mul_le_mul_right unit less
    rw [Nat.add_mul, Nat.one_mul] at step
    omega
  · omega
  · have step : (second + 1) * unit ≤ first * unit := Nat.mul_le_mul_right unit greater
    rw [Nat.add_mul, Nat.one_mul] at step
    omega

theorem wordLe_cons {first second : Symbol} {left right : List Symbol}
    (firstDigit : system.IsDigit first) (secondDigit : system.IsDigit second) :
    wordLe (first :: left) (second :: right) = true ↔
      system.digit first < system.digit second ∨
        system.digit first = system.digit second ∧ wordLe left right = true := by
  rw [wordLe, ← system.ordered first second firstDigit secondDigit]
  by_cases same : first = second
  · rw [if_pos same, same]
    simp
  · have different : system.digit first ≠ system.digit second :=
      fun equal => same (digit_injective firstDigit secondDigit equal)
    rw [if_neg same, decide_eq_true_eq]
    simp [different]

theorem wordLe_iff {left right : List Symbol} (leftWritten : system.Written left)
    (rightWritten : system.Written right) :
    wordLe left right = true ↔ system.LeadingLe left right := by
  induction left generalizing right with
  | nil => simp [wordLe, LeadingLe, value]
  | cons first left ih =>
      cases right with
      | nil => simp [wordLe, LeadingLe, value]
      | cons second right =>
          have firstDigit := leftWritten first List.mem_cons_self
          have secondDigit := rightWritten second List.mem_cons_self
          have positive : 0 < system.base := Nat.zero_lt_of_lt (system.below first firstDigit)
          rw [wordLe_cons firstDigit secondDigit, ih leftWritten.tail rightWritten.tail, LeadingLe,
            LeadingLe, List.length_cons, List.length_cons, Nat.add_sub_add_right,
            Nat.add_sub_add_right]
          by_cases short : left.length ≤ right.length
          · have width : right.length - (right.length - left.length) = left.length := by omega
            have inside := value_div_lt rightWritten.tail (Nat.sub_le right.length left.length)
            rw [width] at inside
            rw [if_pos short, if_pos (Nat.succ_le_succ short),
              value_cons_div positive (Nat.sub_le _ _), width, value_cons]
            exact (leading_decides (value_lt leftWritten.tail) inside).1.symm
          · have width : left.length - (left.length - right.length) = right.length := by omega
            have inside := value_div_lt leftWritten.tail (Nat.sub_le left.length right.length)
            rw [width] at inside
            rw [if_neg short, if_neg (fun longer => short (Nat.le_of_succ_le_succ longer)),
              value_cons_div positive (Nat.sub_le _ _), width, value_cons]
            exact (leading_decides inside (value_lt rightWritten.tail)).2.symm

/-- Zero is one digit, and no other number begins with it. -/
structure Plain (system : Numerals Symbol) (word : List Symbol) : Prop where
  written : system.Written word
  nonempty : word ≠ []
  leading : ∀ first rest, word = first :: rest → rest ≠ [] → system.digit first ≠ 0

theorem length_le_of_value {left right : List Symbol} (leftWritten : system.Written left)
    (leftNonempty : left ≠ []) (rightPlain : system.Plain right)
    (same : system.value left = system.value right) : right.length ≤ left.length := by
  obtain ⟨rightWritten, -, leading⟩ := rightPlain
  cases right with
  | nil => exact Nat.zero_le _
  | cons second right =>
      by_cases single : right = []
      · rw [single]
        exact List.length_pos_iff.mpr leftNonempty
      · by_contra longer
        have positive := Nat.pos_of_ne_zero (leading second right rfl single)
        have base : 0 < system.base :=
          Nat.zero_lt_of_lt (system.below second (rightWritten second List.mem_cons_self))
        have short : left.length ≤ right.length := by
          rw [List.length_cons] at longer
          omega
        have below := value_lt leftWritten
        have grows := Nat.pow_le_pow_right base short
        have unit := Nat.le_mul_of_pos_left (system.base ^ right.length) positive
        rw [same, value_cons] at below
        omega

theorem eq_of_value {left right : List Symbol} (leftWritten : system.Written left)
    (rightWritten : system.Written right) (width : left.length = right.length)
    (same : system.value left = system.value right) : left = right := by
  induction left generalizing right with
  | nil => exact (List.length_eq_zero_iff.mp width.symm).symm
  | cons first left ih =>
      cases right with
      | nil => cases width
      | cons second right =>
          have widths : left.length = right.length := Nat.succ.inj width
          have leftRest := value_lt leftWritten.tail
          have rightRest := value_lt rightWritten.tail
          rw [← widths] at rightRest
          rw [value_cons, value_cons, ← widths] at same
          have low := (@leading_decides (system.digit first) (system.digit second) _ _ _ leftRest
            rightRest).1.mp (Nat.le_of_eq same)
          have high := (@leading_decides (system.digit second) (system.digit first) _ _ _ rightRest
            leftRest).1.mp (Nat.le_of_eq same.symm)
          have digits : system.digit first = system.digit second := by omega
          have rests : system.value left = system.value right := by omega
          rw [digit_injective (leftWritten first List.mem_cons_self)
              (rightWritten second List.mem_cons_self) digits,
            ih leftWritten.tail rightWritten.tail widths rests]

theorem Plain.unique {left right : List Symbol} (leftPlain : system.Plain left)
    (rightPlain : system.Plain right) (same : system.value left = system.value right) :
    left = right := by
  have notLonger := length_le_of_value leftPlain.written leftPlain.nonempty rightPlain same
  have notShorter := length_le_of_value rightPlain.written rightPlain.nonempty leftPlain same.symm
  exact eq_of_value leftPlain.written rightPlain.written (Nat.le_antisymm notShorter notLonger) same

end Numerals
