/-
Printed JSON texts.

The printer writes a value without white space; an object can also be laid out with white
space between its tokens.  Both are texts of the value, and plain text when its strings are.
-/

import NatPorte.Library.JsonText

namespace JsonText

def integerText (number : Int) : List Char :=
  (if number < 0 then ['-'] else []) ++ Nat.toDigits 10 number.natAbs

/-- An integer is written without an exponent. -/
def numberText (mantissa exponent : Int) : List Char :=
  integerText mantissa ++ if exponent = 0 then [] else 'e' :: integerText exponent

def escapeChar (char : Char) : List Char :=
  match char with
  | '"' => ['\\', '"']
  | '\\' => ['\\', '\\']
  | '\x08' => ['\\', 'b']
  | '\x0c' => ['\\', 'f']
  | '\n' => ['\\', 'n']
  | '\r' => ['\\', 'r']
  | '\t' => ['\\', 't']
  | char =>
      if char.toNat < 0x20 then
        ['\\', 'u', '0', '0', Nat.digitChar (char.toNat / 16), Nat.digitChar (char.toNat % 16)]
      else [char]

def escaped (chars : List Char) : List Char := chars.flatMap escapeChar

/-- What goes before an item. -/
def separator (first : Bool) : List Char := if first then [] else [',']

mutual

def stringify : Json → List Char
  | .null => ['n', 'u', 'l', 'l']
  | .bool true => ['t', 'r', 'u', 'e']
  | .bool false => ['f', 'a', 'l', 's', 'e']
  | .number mantissa exponent => numberText mantissa exponent
  | .string chars => '"' :: (escaped chars ++ ['"'])
  | .array list => '[' :: stringifyItems true list
  | .object list => '{' :: stringifyMembers true list
termination_by structural json => json

def stringifyItems (first : Bool) : List Json → List Char
  | [] => [']']
  | json :: list => separator first ++ (stringify json ++ stringifyItems false list)
termination_by structural list => list

def stringifyMembers (first : Bool) : List (List Char × Json) → List Char
  | [] => ['}']
  | (name, json) :: list =>
      separator first ++
        ('"' :: (escaped name ++ '"' :: ':' :: (stringify json ++ stringifyMembers false list)))
termination_by structural list => list

end

theorem toDigits_digits (number : Nat) : Digits (Nat.toDigits 10 number) :=
  ⟨Nat.toDigits_ne_nil, fun _ member => Nat.isDigit_of_mem_toDigits (by decide) (by decide) member⟩

theorem toDigits_whole (number : Nat) : Whole (Nat.toDigits 10 number) := by
  refine ⟨toDigits_digits number, ?_⟩
  induction number using Nat.strongRecOn with
  | ind number ih =>
      intro rest isCons
      by_cases small : number < 10
      · rw [Nat.toDigits_of_lt_base small] at isCons
        exact (List.cons.inj isCons).2.symm
      · -- the leading digits are those of a smaller number, which is not zero
        rw [Nat.toDigits_of_base_le (by decide) (Nat.le_of_not_lt small)] at isCons
        have nonempty : Nat.toDigits 10 (number / 10) ≠ [] := Nat.toDigits_ne_nil
        cases leading : Nat.toDigits 10 (number / 10) with
        | nil => exact absurd leading nonempty
        | cons char more =>
            rw [leading, List.cons_append] at isCons
            have isZero := (List.cons.inj isCons).1
            rw [isZero] at leading
            have alone := ih (number / 10) (by omega) more leading
            have read := @Nat.ofDigitChars_ten_toDigits (number / 10)
            rw [leading, alone] at read
            have zero : Nat.ofDigitChars 10 ['0'] 0 = 0 := by decide
            omega

theorem integer_signed (number : Int) :
    signed (decide (number < 0)) (Nat.ofDigitChars 10 (Nat.toDigits 10 number.natAbs) 0) =
      number := by
  rw [Nat.ofDigitChars_ten_toDigits, signed]
  split
  · next negative =>
      have less := of_decide_eq_true negative
      omega
  · next positive =>
      have notLess := of_decide_eq_false (Bool.eq_false_iff.mpr positive)
      omega

theorem exponent_derived (exponent : Int) :
    Exponent (if exponent = 0 then [] else 'e' :: integerText exponent) exponent := by
  by_cases zero : exponent = 0
  · rw [if_pos zero, zero]
    exact .absent
  · have isSign : Sign (if exponent < 0 then ['-'] else []) (decide (exponent < 0)) := by
      by_cases negative : exponent < 0
      · rw [if_pos negative, decide_eq_true negative]
        exact .minus
      · rw [if_neg negative, decide_eq_false negative]
        exact .absent
    have derived := Exponent.digits (.inl rfl) isSign (toDigits_digits exponent.natAbs)
    rw [integer_signed] at derived
    rw [if_neg zero]
    exact derived

theorem numberText_derived (mantissa exponent : Int) :
    NumberText (numberText mantissa exponent) mantissa exponent := by
  have derived := NumberText.mk (decide (mantissa < 0)) (toDigits_whole mantissa.natAbs) .absent
    (exponent_derived exponent)
  rw [List.append_nil, integer_signed, List.length_nil, Int.natCast_zero, Int.sub_zero,
    List.nil_append, ← List.append_assoc] at derived
  rw [numberText, integerText]
  simpa only [decide_eq_true_eq] using derived

theorem escapeChar_quoted {char : Char} {text chars : List Char} (isQuoted : Quoted text chars) :
    Quoted (escapeChar char ++ text) (char :: chars) := by
  unfold escapeChar
  split
  case h_8 notQuote notBackslash _ _ _ _ _ =>
    split
    · next control =>
        have codes : ∀ code < 0x20, hexChar '0' '0' (Nat.digitChar (code / 16))
            (Nat.digitChar (code % 16)) = some (Char.ofNat code) := by decide +kernel
        refine .unicode ?_ isQuoted
        rw [codes char.toNat control, Char.ofNat_toNat]
    · next printable =>
        exact .plain notQuote notBackslash (Nat.le_of_not_lt printable) isQuoted
  all_goals exact .escape rfl isQuoted

theorem escaped_quoted (chars : List Char) : Quoted (escaped chars) chars := by
  induction chars with
  | nil => exact .nil
  | cons char chars ih => exact escapeChar_quoted ih

theorem numberEnds_cons {char : Char} (other : isNumeric char = false) (rest : List Char) :
    NumberEnds (char :: rest) := by
  intro first isFirst
  cases isFirst
  exact other

mutual

theorem stringify_derives : ∀ (json : Json) (rest : List Char), NumberEnds rest →
    Derives (.value json) (stringify json ++ rest) rest
  | .null, rest, _ => .null rest
  | .bool true, rest, _ => .isTrue rest
  | .bool false, rest, _ => .isFalse rest
  | .number mantissa exponent, _, ends => .number (numberText_derived mantissa exponent) ends
  | .string chars, rest, _ => by
      rw [stringify, List.cons_append, List.append_assoc]
      exact .string rest (escaped_quoted chars)
  | .array list, rest, _ => by
      by_cases empty : list = []
      · rw [empty]
        exact .emptyArray rest spaces_nil
      · exact .array (stringifyItems_derives list empty rest)
  | .object list, rest, _ => by
      by_cases empty : list = []
      · rw [empty]
        exact .emptyObject rest spaces_nil
      · exact .object (stringifyMembers_derives list empty rest)
termination_by json => sizeOf json

theorem stringifyItems_derives : ∀ (list : List Json), list ≠ [] → ∀ rest : List Char,
    Derives (.items list) (stringifyItems true list ++ rest) rest
  | [], nonempty, _ => absurd rfl nonempty
  | [json], _, rest => by
      have derived := stringify_derives json (']' :: rest) (numberEnds_cons rfl rest)
      rw [stringifyItems, stringifyItems, separator, if_pos rfl, List.nil_append, List.append_assoc]
      exact @Derives.lastItem json [] _ [] rest spaces_nil derived spaces_nil
  | json :: next :: list, _, rest => by
      have later := stringifyItems_derives (next :: list) (List.cons_ne_nil _ _) rest
      have derived := stringify_derives json (',' :: (stringifyItems true (next :: list) ++ rest))
        (numberEnds_cons rfl _)
      rw [stringifyItems, separator, if_pos rfl, List.nil_append, List.append_assoc]
      exact @Derives.item json _ [] _ [] _ rest spaces_nil derived spaces_nil later
termination_by list => sizeOf list

theorem stringifyMembers_derives : ∀ (list : List (List Char × Json)), list ≠ [] →
    ∀ rest : List Char, Derives (.members list) (stringifyMembers true list ++ rest) rest
  | [], nonempty, _ => absurd rfl nonempty
  | [(name, json)], _, rest => by
      have derived := stringify_derives json ('}' :: rest) (numberEnds_cons rfl rest)
      have member := @Derives.lastMember _ name json [] [] [] _ [] rest spaces_nil
        (escaped_quoted name) spaces_nil spaces_nil derived spaces_nil
      simpa only [stringifyMembers, separator, if_true, List.nil_append, List.cons_append,
        List.append_assoc] using member
  | (name, json) :: next :: list, _, rest => by
      have later := stringifyMembers_derives (next :: list) (List.cons_ne_nil _ _) rest
      have derived := stringify_derives json
        (',' :: (stringifyMembers true (next :: list) ++ rest)) (numberEnds_cons rfl _)
      have member := @Derives.member _ name json _ [] [] [] _ [] _ rest spaces_nil
        (escaped_quoted name) spaces_nil spaces_nil derived spaces_nil later
      rw [stringifyMembers, separator, if_pos rfl, List.nil_append, List.cons_append,
        List.append_assoc, List.cons_append, List.cons_append, List.append_assoc]
      exact member
termination_by list => sizeOf list

end

theorem numberEnds_nil : NumberEnds [] := by
  intro char first
  cases first

theorem stringify_denotes (json : Json) : Denotes (stringify json) json :=
  ⟨[], stringify json, [], rfl, spaces_nil, spaces_nil,
    by simpa only [List.append_nil] using stringify_derives json [] numberEnds_nil⟩

structure Laid where
  before : List Char
  name : List Char
  between : List Char
  middle : List Char
  json : Json
  after : List Char
  beforeSpaces : Spaces before := by decide
  betweenSpaces : Spaces between := by decide
  middleSpaces : Spaces middle := by decide
  afterSpaces : Spaces after := by decide

/-- The members as they are laid out, up to the closing bracket. -/
def laidMembers (first : Bool) : List Laid → List Char
  | [] => ['}']
  | laid :: list =>
      separator first ++ (laid.before ++ '"' :: (escaped laid.name ++ '"' :: (laid.between ++ ':' ::
        (laid.middle ++ (stringify laid.json ++ (laid.after ++ laidMembers false list))))))

def laidObject (list : List Laid) : List Char := '{' :: laidMembers true list

def Laid.member (laid : Laid) : List Char × Json := (laid.name, laid.json)

theorem spaces_numberEnds {after : List Char} (spaces : Spaces after) {char : Char}
    (other : isNumeric char = false) (rest : List Char) : NumberEnds (after ++ char :: rest) := by
  cases after with
  | nil => exact numberEnds_cons other rest
  | cons space after =>
      have isSpace := spaces space List.mem_cons_self
      simp only [JsonText.isSpace, Bool.or_eq_true, beq_iff_eq] at isSpace
      refine numberEnds_cons ?_ _
      rcases isSpace with ((rfl | rfl) | rfl) | rfl <;> rfl

theorem laidMembers_derives {list : List Laid} (nonempty : list ≠ []) (rest : List Char) :
    Derives (.members (list.map Laid.member)) (laidMembers true list ++ rest) rest := by
  induction list with
  | nil => exact absurd rfl nonempty
  | cons laid list ih =>
      cases list with
      | nil =>
          have derived := stringify_derives laid.json (laid.after ++ '}' :: rest)
            (spaces_numberEnds laid.afterSpaces rfl rest)
          have member := Derives.lastMember laid.beforeSpaces (escaped_quoted laid.name)
            laid.betweenSpaces laid.middleSpaces derived laid.afterSpaces
          change Derives (.members [(laid.name, laid.json)]) _ rest
          simpa only [laidMembers, separator, if_true, List.nil_append, List.cons_append,
            List.append_assoc] using member
      | cons next list =>
          have later := ih (List.cons_ne_nil _ _)
          have derived := stringify_derives laid.json
            (laid.after ++ ',' :: (laidMembers true (next :: list) ++ rest))
            (spaces_numberEnds laid.afterSpaces rfl _)
          have member := Derives.member laid.beforeSpaces (escaped_quoted laid.name)
            laid.betweenSpaces laid.middleSpaces derived laid.afterSpaces later
          change Derives (.members ((laid.name, laid.json) :: (next :: list).map Laid.member)) _ rest
          simpa only [laidMembers, separator, if_true, Bool.false_eq_true, if_false,
            List.nil_append, List.cons_append, List.append_assoc] using member

theorem laidObject_denotes {list : List Laid} (nonempty : list ≠ []) :
    Denotes (laidObject list) (.object (list.map Laid.member)) := by
  refine ⟨[], laidObject list, [], rfl, spaces_nil, spaces_nil, ?_⟩
  have derived := laidMembers_derives nonempty []
  rw [List.append_nil] at derived
  exact .object derived

/-- ASCII, and no control character. -/
def isPlain (char : Char) : Bool := 0x20 ≤ char.toNat && char.toNat < 0x7f

def Plain (text : List Char) : Prop := ∀ char ∈ text, isPlain char = true

instance (text : List Char) : Decidable (Plain text) :=
  decidable_of_iff (text.all isPlain = true) List.all_eq_true

mutual

def Json.hasPlain : Json → Bool
  | .null => true
  | .bool _ => true
  | .number _ _ => true
  | .string chars => chars.all isPlain
  | .array list => itemsPlain list
  | .object list => membersPlain list
termination_by structural json => json

def itemsPlain : List Json → Bool
  | [] => true
  | json :: list => json.hasPlain && itemsPlain list
termination_by structural list => list

def membersPlain : List (List Char × Json) → Bool
  | [] => true
  | (name, json) :: list => name.all isPlain && (json.hasPlain && membersPlain list)
termination_by structural list => list

end

section PlainText

variable {text front back : List Char}

theorem Plain.append (frontPlain : Plain front) (backPlain : Plain back) : Plain (front ++ back) := by
  intro char member
  rcases List.mem_append.mp member with inFront | inBack
  · exact frontPlain char inFront
  · exact backPlain char inBack

theorem isPlain_of_isDigit {char : Char} (isDigit : char.isDigit = true) : isPlain char = true := by
  simp only [Char.isDigit, Bool.and_eq_true, decide_eq_true_eq] at isDigit
  have low : 48 ≤ char.toNat := UInt32.le_iff_toNat_le.mp isDigit.1
  have high : char.toNat ≤ 57 := UInt32.le_iff_toNat_le.mp isDigit.2
  rw [isPlain, Bool.and_eq_true, decide_eq_true_eq, decide_eq_true_eq]
  omega

theorem integerText_plain (number : Int) : Plain (integerText number) := by
  refine Plain.append ?_ fun char member => isPlain_of_isDigit ((toDigits_digits _).2 char member)
  split <;> decide

theorem numberText_plain (mantissa exponent : Int) : Plain (numberText mantissa exponent) := by
  refine (integerText_plain mantissa).append ?_
  split
  · decide
  · exact Plain.append (by decide : Plain ['e']) (integerText_plain exponent)

theorem escaped_plain {chars : List Char} (plain : chars.all isPlain = true) :
    Plain (escaped chars) := by
  intro char member
  obtain ⟨original, inChars, inEscape⟩ := List.mem_flatMap.mp member
  have isPlainOriginal := List.all_eq_true.mp plain original inChars
  unfold escapeChar at inEscape
  split at inEscape
  case h_8 =>
    split at inEscape
    · next control =>
        rw [isPlain, Bool.and_eq_true, decide_eq_true_eq, decide_eq_true_eq] at isPlainOriginal
        omega
    · rw [List.mem_singleton.mp inEscape]
      exact isPlainOriginal
  all_goals exact List.all_eq_true.mp (by decide) char inEscape

theorem separator_plain (first : Bool) : Plain (separator first) := by
  cases first <;> decide

mutual

theorem stringify_plain : ∀ json : Json, json.hasPlain = true → Plain (stringify json)
  | .null, _ => (by decide : Plain ['n', 'u', 'l', 'l'])
  | .bool true, _ => (by decide : Plain ['t', 'r', 'u', 'e'])
  | .bool false, _ => (by decide : Plain ['f', 'a', 'l', 's', 'e'])
  | .number mantissa exponent, _ => numberText_plain mantissa exponent
  | .string chars, plain =>
      Plain.append (by decide : Plain ['"'])
        ((escaped_plain plain).append (by decide : Plain ['"']))
  | .array list, plain => Plain.append (by decide : Plain ['[']) (itemsPlain_text true list plain)
  | .object list, plain => Plain.append (by decide : Plain ['{']) (membersPlain_text true list plain)
termination_by json => sizeOf json

theorem itemsPlain_text (first : Bool) : ∀ list : List Json, itemsPlain list = true →
    Plain (stringifyItems first list)
  | [], _ => (by decide : Plain [']'])
  | json :: list, plain => by
      rw [itemsPlain, Bool.and_eq_true] at plain
      exact (separator_plain first).append
        ((stringify_plain json plain.1).append (itemsPlain_text false list plain.2))
termination_by list => sizeOf list

theorem membersPlain_text (first : Bool) : ∀ list : List (List Char × Json),
    membersPlain list = true → Plain (stringifyMembers first list)
  | [], _ => (by decide : Plain ['}'])
  | (name, json) :: list, plain => by
      rw [membersPlain, Bool.and_eq_true, Bool.and_eq_true] at plain
      have value := (stringify_plain json plain.2.1).append (membersPlain_text false list plain.2.2)
      have named := (escaped_plain plain.1).append
        (Plain.append (by decide : Plain ['"', ':']) value)
      exact (separator_plain first).append (Plain.append (by decide : Plain ['"']) named)
termination_by list => sizeOf list

end

end PlainText

end JsonText
