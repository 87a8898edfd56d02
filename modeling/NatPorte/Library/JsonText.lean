/-
JSON texts.

The grammar says which texts stand for a value, with any white space between the tokens,
and the parser reads every one of them.  A string is a sequence of characters, so that an
escaped surrogate stands for nothing.
-/

import Mathlib.Data.List.TakeWhile

namespace JsonText

/-- A number is `mantissa * 10 ^ exponent`. -/
inductive Json where
  | null
  | bool (value : Bool)
  | number (mantissa exponent : Int)
  | string (chars : List Char)
  | array (items : List Json)
  | object (members : List (List Char × Json))

/-! ### Grammar -/

def isSpace (char : Char) : Bool := char == ' ' || char == '\t' || char == '\n' || char == '\r'

def Spaces (text : List Char) : Prop := ∀ char ∈ text, isSpace char = true

instance (text : List Char) : Decidable (Spaces text) :=
  decidable_of_iff (text.all isSpace = true) List.all_eq_true

def Digits (text : List Char) : Prop := text ≠ [] ∧ ∀ char ∈ text, char.isDigit = true

def signed (negative : Bool) (magnitude : Nat) : Int := if negative then -magnitude else magnitude

/-- No other numeral than `0` begins with it. -/
structure Whole (text : List Char) : Prop where
  digits : Digits text
  leading : ∀ rest, text = '0' :: rest → rest = []

inductive Fraction : List Char → List Char → Prop
  | absent : Fraction [] []
  | digits {text : List Char} : Digits text → Fraction ('.' :: text) text

inductive Sign : List Char → Bool → Prop
  | absent : Sign [] false
  | plus : Sign ['+'] false
  | minus : Sign ['-'] true

inductive Exponent : List Char → Int → Prop
  | absent : Exponent [] 0
  | digits {marker : Char} {sign text : List Char} {negative : Bool} :
      marker = 'e' ∨ marker = 'E' → Sign sign negative → Digits text →
      Exponent (marker :: (sign ++ text)) (signed negative (Nat.ofDigitChars 10 text 0))

inductive NumberText : List Char → Int → Int → Prop
  | mk (negative : Bool) {whole fraction digits exponent : List Char} {shift : Int} :
      Whole whole → Fraction fraction digits → Exponent exponent shift →
      NumberText
        ((if negative then ['-'] else []) ++ (whole ++ (fraction ++ exponent)))
        (signed negative (Nat.ofDigitChars 10 (whole ++ digits) 0)) (shift - digits.length)

/-- The characters that go on with a number. -/
def isNumeric (char : Char) : Bool :=
  char.isDigit || char == '.' || char == 'e' || char == 'E'

def NumberEnds (rest : List Char) : Prop := ∀ char ∈ rest.head?, isNumeric char = false

def unescape : Char → Option Char
  | '"' => some '"'
  | '\\' => some '\\'
  | '/' => some '/'
  | 'b' => some '\x08'
  | 'f' => some '\x0c'
  | 'n' => some '\n'
  | 'r' => some '\r'
  | 't' => some '\t'
  | _ => none

def hexDigit (char : Char) : Option Nat :=
  if char.isDigit then some (char.toNat - '0'.toNat)
  else if 'a' ≤ char ∧ char ≤ 'f' then some (char.toNat - 'a'.toNat + 10)
  else if 'A' ≤ char ∧ char ≤ 'F' then some (char.toNat - 'A'.toNat + 10)
  else none

/-- The character of four hexadecimal digits. -/
def hexChar (first second third fourth : Char) : Option Char :=
  match hexDigit first, hexDigit second, hexDigit third, hexDigit fourth with
  | some first, some second, some third, some fourth =>
      let code := ((first * 16 + second) * 16 + third) * 16 + fourth
      if code.isValidChar then some (Char.ofNat code) else none
  | _, _, _, _ => none

/-- What stands between the quotes of a string. -/
inductive Quoted : List Char → List Char → Prop
  | nil : Quoted [] []
  | plain {char : Char} {text chars : List Char} :
      char ≠ '"' → char ≠ '\\' → 0x20 ≤ char.toNat → Quoted text chars →
      Quoted (char :: text) (char :: chars)
  | escape {code char : Char} {text chars : List Char} :
      unescape code = some char → Quoted text chars → Quoted ('\\' :: code :: text) (char :: chars)
  | unicode {first second third fourth char : Char} {text chars : List Char} :
      hexChar first second third fourth = some char → Quoted text chars →
      Quoted ('\\' :: 'u' :: first :: second :: third :: fourth :: text) (char :: chars)

inductive Part where
  | value (json : Json)
  | items (list : List Json)
  | members (list : List (List Char × Json))

/-- The text begins with the part, and the rest follows.  The items of an array and the
members of an object end with the closing bracket. -/
inductive Derives : Part → List Char → List Char → Prop
  | null (rest : List Char) : Derives (.value .null) ('n' :: 'u' :: 'l' :: 'l' :: rest) rest
  | isTrue (rest : List Char) :
      Derives (.value (.bool true)) ('t' :: 'r' :: 'u' :: 'e' :: rest) rest
  | isFalse (rest : List Char) :
      Derives (.value (.bool false)) ('f' :: 'a' :: 'l' :: 's' :: 'e' :: rest) rest
  | number {text rest : List Char} {mantissa exponent : Int} :
      NumberText text mantissa exponent → NumberEnds rest →
      Derives (.value (.number mantissa exponent)) (text ++ rest) rest
  | string {text chars : List Char} (rest : List Char) : Quoted text chars →
      Derives (.value (.string chars)) ('"' :: (text ++ '"' :: rest)) rest
  | emptyArray {inside : List Char} (rest : List Char) : Spaces inside →
      Derives (.value (.array [])) ('[' :: (inside ++ ']' :: rest)) rest
  | array {list : List Json} {text rest : List Char} : Derives (.items list) text rest →
      Derives (.value (.array list)) ('[' :: text) rest
  | emptyObject {inside : List Char} (rest : List Char) : Spaces inside →
      Derives (.value (.object [])) ('{' :: (inside ++ '}' :: rest)) rest
  | object {list : List (List Char × Json)} {text rest : List Char} :
      Derives (.members list) text rest → Derives (.value (.object list)) ('{' :: text) rest
  | lastItem {json : Json} {before text after rest : List Char} :
      Spaces before → Derives (.value json) text (after ++ ']' :: rest) → Spaces after →
      Derives (.items [json]) (before ++ text) rest
  | item {json : Json} {list : List Json} {before text after more rest : List Char} :
      Spaces before → Derives (.value json) text (after ++ ',' :: more) → Spaces after →
      Derives (.items list) more rest →
      Derives (.items (json :: list)) (before ++ text) rest
  | lastMember {name chars : List Char} {json : Json}
      {before between middle text after rest : List Char} :
      Spaces before → Quoted name chars → Spaces between → Spaces middle →
      Derives (.value json) text (after ++ '}' :: rest) → Spaces after →
      Derives (.members [(chars, json)])
        (before ++ '"' :: (name ++ '"' :: (between ++ ':' :: (middle ++ text)))) rest
  | member {name chars : List Char} {json : Json} {list : List (List Char × Json)}
      {before between middle text after more rest : List Char} :
      Spaces before → Quoted name chars → Spaces between → Spaces middle →
      Derives (.value json) text (after ++ ',' :: more) → Spaces after →
      Derives (.members list) more rest →
      Derives (.members ((chars, json) :: list))
        (before ++ '"' :: (name ++ '"' :: (between ++ ':' :: (middle ++ text)))) rest

/-- The text stands for the value. -/
def Denotes (text : List Char) (json : Json) : Prop :=
  ∃ before body after, text = before ++ body ∧ Spaces before ∧ Spaces after ∧
    Derives (.value json) body after

/-! ### Parser -/

def skip (text : List Char) : List Char := text.dropWhile isSpace

def digits (text : List Char) : Option (List Char × List Char) :=
  if text.takeWhile Char.isDigit = [] then none
  else some (text.takeWhile Char.isDigit, text.dropWhile Char.isDigit)

def whole : List Char → Option (List Char × List Char)
  | '0' :: rest => some (['0'], rest)
  | text => digits text

def fraction : List Char → Option (List Char × List Char)
  | '.' :: rest => digits rest
  | text => some ([], text)

def minus : List Char → Bool × List Char
  | '-' :: rest => (true, rest)
  | text => (false, text)

def sign : List Char → Bool × List Char
  | '+' :: rest => (false, rest)
  | text => minus text

def exponent : List Char → Option (Int × List Char)
  | [] => some (0, [])
  | marker :: rest =>
      if marker = 'e' ∨ marker = 'E' then
        (digits (sign rest).2).map fun found =>
          (signed (sign rest).1 (Nat.ofDigitChars 10 found.1 0), found.2)
      else some (0, marker :: rest)

def number (text : List Char) : Option (Json × List Char) := do
  let (wholePart, text') ← whole (minus text).2
  let (fractionPart, text') ← fraction text'
  let (shift, rest) ← exponent text'
  return (.number (signed (minus text).1 (Nat.ofDigitChars 10 (wholePart ++ fractionPart) 0))
    (shift - fractionPart.length), rest)

/-- A string from behind its opening quote. -/
def quoted : List Char → Option (List Char × List Char)
  | [] => none
  | '"' :: rest => some ([], rest)
  | '\\' :: 'u' :: first :: second :: third :: fourth :: rest =>
      match hexChar first second third fourth, quoted rest with
      | some char, some (chars, rest) => some (char :: chars, rest)
      | _, _ => none
  | '\\' :: code :: rest =>
      match unescape code, quoted rest with
      | some char, some (chars, rest) => some (char :: chars, rest)
      | _, _ => none
  | char :: rest =>
      if char = '\\' ∨ char.toNat < 0x20 then none
      else
        match quoted rest with
        | some (chars, rest) => some (char :: chars, rest)
        | none => none

mutual

def value : Nat → List Char → Option (Json × List Char)
  | 0, _ => none
  | fuel + 1, text =>
      match text with
      | '"' :: rest => (quoted rest).map fun found => (.string found.1, found.2)
      | '[' :: rest =>
          match skip rest with
          | ']' :: rest => some (.array [], rest)
          | _ => (items fuel rest).map fun found => (.array found.1, found.2)
      | '{' :: rest =>
          match skip rest with
          | '}' :: rest => some (.object [], rest)
          | _ => (members fuel rest).map fun found => (.object found.1, found.2)
      | 'n' :: 'u' :: 'l' :: 'l' :: rest => some (.null, rest)
      | 't' :: 'r' :: 'u' :: 'e' :: rest => some (.bool true, rest)
      | 'f' :: 'a' :: 'l' :: 's' :: 'e' :: rest => some (.bool false, rest)
      | _ => number text

def items : Nat → List Char → Option (List Json × List Char)
  | 0, _ => none
  | fuel + 1, text =>
      match value fuel (skip text) with
      | none => none
      | some (json, rest) =>
          match skip rest with
          | ',' :: rest => (items fuel rest).map fun found => (json :: found.1, found.2)
          | ']' :: rest => some ([json], rest)
          | _ => none

def members : Nat → List Char → Option (List (List Char × Json) × List Char)
  | 0, _ => none
  | fuel + 1, text =>
      match skip text with
      | '"' :: rest =>
          match quoted rest with
          | none => none
          | some (name, rest) =>
              match skip rest with
              | ':' :: rest =>
                  match value fuel (skip rest) with
                  | none => none
                  | some (json, rest) =>
                      match skip rest with
                      | ',' :: rest =>
                          (members fuel rest).map fun found => ((name, json) :: found.1, found.2)
                      | '}' :: rest => some ([(name, json)], rest)
                      | _ => none
              | _ => none
      | _ => none

end

/-- A value and nothing else.  No part of a text needs more rounds than twice its length. -/
def parse (text : List Char) : Option Json :=
  match value (2 * text.length) (skip text) with
  | some (json, rest) => if skip rest = [] then some json else none
  | none => none

section Spaces

variable {before text rest : List Char} {char : Char}

theorem spaces_nil : Spaces [] := by
  intro char member
  cases member

theorem skip_spaces (spaces : Spaces before) (starts : isSpace char = false) :
    skip (before ++ char :: rest) = char :: rest := by
  rw [skip, List.dropWhile_append_of_pos spaces, List.dropWhile_cons_of_neg]
  rw [starts]
  exact Bool.false_ne_true

theorem skip_only (spaces : Spaces before) : skip before = [] := by
  rw [skip, List.dropWhile_eq_nil_iff]
  exact spaces

end Spaces

section Numbers

variable {text rest : List Char}

theorem digits_append (isDigits : Digits text)
    (ends : ∀ char ∈ rest.head?, char.isDigit = false) : digits (text ++ rest) = some (text, rest) := by
  have stops : rest.takeWhile Char.isDigit = [] ∧ rest.dropWhile Char.isDigit = rest := by
    cases rest with
    | nil => exact ⟨rfl, rfl⟩
    | cons char rest =>
        have notDigit := ends char rfl
        constructor
        · rw [List.takeWhile_cons_of_neg (by rw [notDigit]; exact Bool.false_ne_true)]
        · rw [List.dropWhile_cons_of_neg (by rw [notDigit]; exact Bool.false_ne_true)]
  rw [digits, List.takeWhile_append_of_pos isDigits.2, List.dropWhile_append_of_pos isDigits.2,
    stops.1, stops.2, List.append_nil, if_neg isDigits.1]

theorem Digits.head (isDigits : Digits text) (rest : List Char) :
    ∃ char more, text ++ rest = char :: more ∧ char.isDigit = true := by
  obtain ⟨nonempty, all⟩ := isDigits
  cases text with
  | nil => exact absurd rfl nonempty
  | cons char text => exact ⟨char, text ++ rest, rfl, all char List.mem_cons_self⟩

theorem whole_append (isWhole : Whole text)
    (ends : ∀ char ∈ rest.head?, char.isDigit = false) : whole (text ++ rest) = some (text, rest) := by
  obtain ⟨isDigits, leading⟩ := isWhole
  cases text with
  | nil => exact absurd rfl isDigits.1
  | cons char text =>
      by_cases zero : char = '0'
      · subst zero
        rw [leading text rfl]
        rfl
      · rw [List.cons_append, whole, ← List.cons_append, digits_append isDigits ends]
        intro more same
        exact zero (List.cons.inj same).1

theorem fraction_append {digits : List Char} (isFraction : Fraction text digits)
    (ends : ∀ char ∈ rest.head?, char.isDigit = false ∧ char ≠ '.') :
    fraction (text ++ rest) = some (digits, rest) := by
  cases isFraction with
  | absent =>
      cases rest with
      | nil => rfl
      | cons char rest =>
          rw [List.nil_append, fraction]
          intro more same
          exact (ends char rfl).2 (List.cons.inj same).1
  | digits isDigits =>
      rw [List.cons_append, fraction]
      exact digits_append isDigits fun char first => (ends char first).1

theorem sign_append {negative : Bool} (isSign : Sign text negative) (starts : Digits rest)
    (more : List Char) : sign (text ++ (rest ++ more)) = (negative, rest ++ more) := by
  cases isSign with
  | plus => rfl
  | minus => rfl
  | absent =>
      obtain ⟨char, tail, isCons, isDigit⟩ := starts.head more
      rw [isCons, List.nil_append, sign, minus]
      · intro later same
        rw [(List.cons.inj same).1] at isDigit
        cases isDigit
      · intro later same
        rw [(List.cons.inj same).1] at isDigit
        cases isDigit

theorem exponent_append {shift : Int} (isExponent : Exponent text shift) (ends : NumberEnds rest) :
    exponent (text ++ rest) = some (shift, rest) := by
  cases isExponent with
  | absent =>
      cases rest with
      | nil => rfl
      | cons char rest =>
          have numeric := ends char rfl
          rw [List.nil_append, exponent, if_neg]
          rintro (same | same)
          · rw [same] at numeric
            cases numeric
          · rw [same] at numeric
            cases numeric
  | digits isMarker isSign isDigits =>
      rw [List.cons_append, exponent, if_pos isMarker, List.append_assoc,
        sign_append isSign isDigits, digits_append isDigits]
      · rfl
      · intro char first
        have numeric := ends char first
        simp only [isNumeric, Bool.or_eq_false_iff] at numeric
        exact numeric.1.1.1

theorem minus_append (negative : Bool) (starts : Digits text) :
    minus ((if negative then ['-'] else []) ++ (text ++ rest)) = (negative, text ++ rest) := by
  cases negative with
  | true => rfl
  | false =>
      obtain ⟨char, tail, isCons, isDigit⟩ := starts.head rest
      rw [isCons]
      change minus (char :: tail) = _
      rw [minus]
      intro later same
      rw [(List.cons.inj same).1] at isDigit
      cases isDigit

theorem Exponent.head {shift : Int} (isExponent : Exponent text shift) (ends : NumberEnds rest) :
    ∀ char ∈ (text ++ rest).head?, char.isDigit = false ∧ char ≠ '.' := by
  intro char first
  cases isExponent with
  | absent =>
      have numeric := ends char first
      simp only [isNumeric, Bool.or_eq_false_iff, beq_eq_false_iff_ne] at numeric
      exact ⟨numeric.1.1.1, numeric.1.1.2⟩
  | digits isMarker isSign isDigits =>
      cases first
      rcases isMarker with rfl | rfl
      · decide
      · decide

theorem Fraction.head {digits : List Char} (isFraction : Fraction text digits)
    (ends : ∀ char ∈ rest.head?, char.isDigit = false ∧ char ≠ '.') :
    ∀ char ∈ (text ++ rest).head?, char.isDigit = false := by
  intro char first
  cases isFraction with
  | absent => exact (ends char first).1
  | digits isDigits =>
      cases first
      decide

theorem number_append {mantissa shift : Int} (isNumber : NumberText text mantissa shift)
    (ends : NumberEnds rest) : number (text ++ rest) = some (.number mantissa shift, rest) := by
  obtain ⟨negative, isWhole, isFraction, isExponent⟩ := isNumber
  have behindFraction := isExponent.head ends
  have behindWhole := isFraction.head behindFraction
  simp only [number, List.append_assoc]
  rw [minus_append negative isWhole.digits, whole_append isWhole behindWhole]
  simp only [Option.bind_eq_bind, Option.bind_some]
  rw [fraction_append isFraction behindFraction]
  simp only [Option.bind_some]
  rw [exponent_append isExponent ends]
  rfl

end Numbers

theorem quoted_append {text chars : List Char} (isQuoted : Quoted text chars) (rest : List Char) :
    quoted (text ++ '"' :: rest) = some (chars, rest) := by
  induction isQuoted with
  | nil => rfl
  | plain notQuote notBackslash printable _ ih =>
      rw [List.cons_append, quoted, ih, if_neg]
      · rintro (same | control)
        · exact notBackslash same
        · omega
      · exact notQuote
      · intro first second third fourth more same
        exact absurd same notBackslash
      · intro code more same
        exact absurd same notBackslash
  | @escape code char text chars isEscape _ ih =>
      rw [List.cons_append, List.cons_append, quoted, isEscape, ih]
      intro first second third fourth more same
      subst same
      cases isEscape
  | unicode isHex _ ih =>
      simp only [List.cons_append]
      rw [quoted, isHex, ih]

section Parts

variable {part : Part} {text rest : List Char}

theorem NumberText.starts {mantissa shift : Int} (isNumber : NumberText text mantissa shift) :
    ∃ char more, text = char :: more ∧
      char ∉ [' ', '\t', '\n', '\r', '"', '[', ']', '{', 'n', 't', 'f'] := by
  obtain ⟨negative, isWhole, isFraction, isExponent⟩ := isNumber
  cases negative with
  | true => exact ⟨'-', _, rfl, by decide⟩
  | false =>
      obtain ⟨char, more, isCons, isDigit⟩ := isWhole.digits.head (_ ++ _)
      refine ⟨char, more, isCons, ?_⟩
      intro member
      have noDigits : [' ', '\t', '\n', '\r', '"', '[', ']', '{', 'n', 't', 'f'].all
          (fun char => !char.isDigit) = true := by decide
      have notDigit := List.all_eq_true.mp noDigits char member
      rw [isDigit] at notDigit
      cases notDigit

/-- What a part begins with, behind its white space. -/
def Part.Starts (text : List Char) : Part → Prop
  | .value _ => ∃ char more, text = char :: more ∧ isSpace char = false ∧ char ≠ ']'
  | .items _ => ∃ char more, skip text = char :: more ∧ char ≠ ']'
  | .members _ => ∃ more, skip text = '"' :: more

theorem Derives.starts (derives : Derives part text rest) : part.Starts text := by
  induction derives with
  | number isNumber =>
      obtain ⟨char, more, isCons, other⟩ := isNumber.starts
      simp only [List.mem_cons, List.not_mem_nil, or_false, not_or] at other
      refine ⟨char, more ++ _, by rw [isCons]; rfl, ?_, other.2.2.2.2.2.2.1⟩
      simp [isSpace, other]
  | lastItem spaces _ _ ih =>
      obtain ⟨char, more, rfl, notSpace, notClosing⟩ := ih
      exact ⟨char, more, skip_spaces spaces notSpace, notClosing⟩
  | item spaces _ _ _ ih =>
      obtain ⟨char, more, rfl, notSpace, notClosing⟩ := ih
      exact ⟨char, more, skip_spaces spaces notSpace, notClosing⟩
  | lastMember spaces => exact ⟨_, skip_spaces spaces rfl⟩
  | member spaces => exact ⟨_, skip_spaces spaces rfl⟩
  | _ => exact ⟨_, _, rfl, rfl, by decide⟩

theorem Derives.shorter (derives : Derives part text rest) : rest.length < text.length := by
  induction derives with
  | number isNumber =>
      obtain ⟨char, more, isCons, -⟩ := isNumber.starts
      rw [isCons, List.length_append, List.length_cons]
      omega
  | _ =>
      simp only [List.length_append, List.length_cons] at *
      omega

def ReadBy (fuel : Nat) (text rest : List Char) : Part → Prop
  | .value json => value fuel text = some (json, rest)
  | .items list => items fuel text = some (list, rest)
  | .members list => members fuel text = some (list, rest)

theorem Derives.readBy (derives : Derives part text rest) (fuel : Nat)
    (enough : 2 * text.length ≤ fuel + 2 * rest.length) : ReadBy fuel text rest part := by
  induction derives generalizing fuel with
  | null rest =>
      obtain _ | fuel := fuel
      · simp only [List.length_cons] at enough
        omega
      · rfl
  | isTrue rest =>
      obtain _ | fuel := fuel
      · simp only [List.length_cons] at enough
        omega
      · rfl
  | isFalse rest =>
      obtain _ | fuel := fuel
      · simp only [List.length_cons] at enough
        omega
      · rfl
  | number isNumber ends =>
      have shorter := (Derives.number isNumber ends).shorter
      obtain _ | fuel := fuel
      · omega
      · have read := number_append isNumber ends
        obtain ⟨char, more, isCons, other⟩ := isNumber.starts
        rw [isCons, List.cons_append] at read ⊢
        rw [ReadBy, value, read]
        all_goals
          intros
          rename_i same
          rw [(List.cons.inj same).1] at other
          exact other (by decide)
  | string rest isQuoted =>
      have shorter := (Derives.string rest isQuoted).shorter
      obtain _ | fuel := fuel
      · omega
      · rw [ReadBy, value, quoted_append isQuoted]
        rfl
  | emptyArray rest spaces =>
      have shorter := (Derives.emptyArray rest spaces).shorter
      obtain _ | fuel := fuel
      · omega
      · rw [ReadBy, value, skip_spaces spaces rfl]
        rfl
  | array inner ih =>
      have shorter := (Derives.array inner).shorter
      obtain _ | fuel := fuel
      · omega
      · have read := ih fuel (by rw [List.length_cons] at enough; omega)
        obtain ⟨char, more, isCons, notClosing⟩ := inner.starts
        rw [ReadBy] at read
        rw [ReadBy, value, read]
        split
        · next closing =>
            rw [isCons] at closing
            exact absurd (List.cons.inj closing).1 notClosing
        · rfl
  | emptyObject rest spaces =>
      have shorter := (Derives.emptyObject rest spaces).shorter
      obtain _ | fuel := fuel
      · omega
      · rw [ReadBy, value, skip_spaces spaces rfl]
        rfl
  | object inner ih =>
      have shorter := (Derives.object inner).shorter
      obtain _ | fuel := fuel
      · omega
      · have read := ih fuel (by rw [List.length_cons] at enough; omega)
        obtain ⟨more, isCons⟩ := inner.starts
        rw [ReadBy] at read
        rw [ReadBy, value, read]
        split
        · next closing =>
            rw [isCons] at closing
            cases closing
        · rfl
  | lastItem before inner after ih =>
      have shorter := inner.shorter
      simp only [List.length_append, List.length_cons] at enough shorter
      obtain _ | fuel := fuel
      · omega
      · have read := ih fuel (by simp only [List.length_append, List.length_cons]; omega)
        obtain ⟨char, more, rfl, notSpace, -⟩ := inner.starts
        rw [ReadBy] at read
        rw [ReadBy, items, skip_spaces before notSpace, read]
        simp only
        rw [skip_spaces after rfl]
        rfl
  | item before inner after others ih later =>
      have shorter := inner.shorter
      have shorterLater := others.shorter
      simp only [List.length_append, List.length_cons] at enough shorter
      obtain _ | fuel := fuel
      · omega
      · have read := ih fuel (by simp only [List.length_append, List.length_cons]; omega)
        have readLater := later fuel (by omega)
        obtain ⟨char, more, rfl, notSpace, -⟩ := inner.starts
        rw [ReadBy] at read
        rw [ReadBy] at readLater
        rw [ReadBy, items, skip_spaces before notSpace, read]
        simp only
        rw [skip_spaces after rfl]
        simp only
        rw [readLater]
        rfl
  | lastMember before isQuoted between middle inner after ih =>
      have shorter := inner.shorter
      simp only [List.length_append, List.length_cons] at enough shorter
      obtain _ | fuel := fuel
      · omega
      · have read := ih fuel (by simp only [List.length_append, List.length_cons]; omega)
        obtain ⟨char, more, rfl, notSpace, -⟩ := inner.starts
        rw [ReadBy] at read
        rw [ReadBy, members, skip_spaces before rfl]
        simp only
        rw [quoted_append isQuoted]
        simp only
        rw [skip_spaces between rfl]
        simp only
        rw [skip_spaces middle notSpace, read]
        simp only
        rw [skip_spaces after rfl]
        rfl
  | member before isQuoted between middle inner after others ih later =>
      have shorter := inner.shorter
      have shorterLater := others.shorter
      simp only [List.length_append, List.length_cons] at enough shorter
      obtain _ | fuel := fuel
      · omega
      · have read := ih fuel (by simp only [List.length_append, List.length_cons]; omega)
        have readLater := later fuel (by omega)
        obtain ⟨char, more, rfl, notSpace, -⟩ := inner.starts
        rw [ReadBy] at read
        rw [ReadBy] at readLater
        rw [ReadBy, members, skip_spaces before rfl]
        simp only
        rw [quoted_append isQuoted]
        simp only
        rw [skip_spaces between rfl]
        simp only
        rw [skip_spaces middle notSpace, read]
        simp only
        rw [skip_spaces after rfl]
        simp only
        rw [readLater]
        rfl

theorem Denotes.parse {json : Json} (denotes : Denotes text json) : parse text = some json := by
  obtain ⟨before, body, after, rfl, spacesBefore, spacesAfter, derives⟩ := denotes
  have read := derives.readBy (2 * (before ++ body).length)
    (by rw [List.length_append]; omega)
  obtain ⟨char, more, rfl, notSpace, -⟩ := derives.starts
  rw [ReadBy] at read
  rw [JsonText.parse, skip_spaces spacesBefore notSpace, read]
  simp only
  rw [skip_only spacesAfter, if_pos rfl]

end Parts

end JsonText
