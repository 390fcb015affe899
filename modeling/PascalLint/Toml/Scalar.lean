import PascalLint.Text.Search
import PascalLint.Toml.Value

/-! # Scalars of TOML

Booleans, numbers, dates and times are words: what stands between the marks that separate values.
A word is read as a whole, so what follows a number without a separator spoils it, unless an
underscore lets the word pass for an integer that nobody has read yet.
-/

namespace PascalLint.Toml

/-! ## Digits -/

/-- The number that a digit stands for, in any base up to sixteen. -/
def digitValue (c : Char) : Nat :=
  if c.isDigit then c.toNat - '0'.toNat
  else if 'a' ≤ c && c ≤ 'f' then c.toNat - 'a'.toNat + 10
  else c.toNat - 'A'.toNat + 10

/-- The number that digits of a base stand for. -/
def numberValue (base : Nat) (digits : List Char) : Nat :=
  digits.foldl (fun n digit => base * n + digitValue digit) 0

/-- Holds of hexadecimal digits. -/
def isHexDigit (c : Char) : Bool :=
  c.isDigit || 'a' ≤ c && c ≤ 'f' || 'A' ≤ c && c ≤ 'F'

/-- The word itself, if it consists of one or more decimal digits. -/
def digits? (word : List Char) : Option (List Char) :=
  if !word.isEmpty && word.all Char.isDigit then some word else none

/-- A sign, and what is behind it. The flag is set for a minus sign. -/
def sign : List Char → Bool × List Char
  | '-' :: rest => (true, rest)
  | '+' :: rest => (false, rest)
  | word => (false, word)

/-- Holds if each underscore stands between two digits, given the parts of a word between its
    underscores. -/
def areJoined (isDigit : Char → Bool) : List (List Char) → Bool
  | before :: after :: parts =>
    before.getLast?.any isDigit && after.head?.any isDigit && areJoined isDigit (after :: parts)
  | _ => true

/-- A word without its underscores, each of which has to stand between two digits. -/
def joined? (isDigit : Char → Bool) (word : List Char) : Option (List Char) :=
  let parts := Text.splitOn '_' word
  if areJoined isDigit parts then some parts.flatten else none

/-! ## Integers -/

/-- The number that a sign and decimal digits stand for. -/
def signed? (word : List Char) : Option Int :=
  let (negative, rest) := sign word
  (digits? rest).map fun digits =>
    if negative then -(numberValue 10 digits : Int) else numberValue 10 digits

/-- An integer of a base other than ten, behind the mark of its base. Without any digits it is a
    broken one. -/
def basedInteger? (base : Nat) (isDigit : Char → Bool) (word : List Char) : Option Value :=
  if word.all fun c => isDigit c || c == '_' then
    (joined? isDigit word).map fun digits =>
      if digits.isEmpty then .brokenInteger else .integer (numberValue base digits)
  else none

/-- A decimal integer. It does not begin with a zero, unless that is the only digit. What begins
    with digits and an underscore has the outline of an integer, whatever comes later. -/
def decimalInteger? (word : List Char) : Option Value :=
  match (sign word).2 with
  | [] | '0' :: _ :: _ => none
  | digits =>
    match digits.dropWhile Char.isDigit with
    | [] | '_' :: _ =>
      (joined? isHexDigit word).map fun word =>
        match signed? word with
        | some n => .integer n
        | none => .brokenInteger
    | _ => none

/-! ## Floating point numbers -/

/-- Holds of the letter before an exponent. -/
def isExponentLetter (c : Char) : Bool :=
  c == 'e' || c == 'E'

/-- A finite floating point number. It has a fraction, an exponent, or both; the digits in front
    of them do not begin with a zero, unless that is the only one. -/
def float? (word : List Char) : Option FloatLiteral :=
  (joined? Char.isDigit word).bind fun text =>
    let (negative, rest) := sign text
    let mantissa := rest.takeWhile (!isExponentLetter ·)
    let exponent : Option Int := match rest.dropWhile (!isExponentLetter ·) with
      | [] => some 0
      | _ :: behind => signed? behind
    let whole := digits? (mantissa.takeWhile (· != '.'))
    let fraction := match mantissa.dropWhile (· != '.') with
      | [] => some []
      | _ :: behind => digits? behind
    match whole, fraction, exponent with
    | some whole, some fraction, some exponent =>
      if 2 ≤ whole.length && (sign word).2.head? == some '0' then none
      else some (.finite negative (numberValue 10 (whole ++ fraction)) (exponent - fraction.length))
    | _, _, _ => none

/-! ## Dates and times -/

/-- A number of two digits that is not greater than `most`. -/
def twoDigits? (most : Nat) : List Char → Option (Nat × List Char)
  | a :: b :: rest =>
    if a.isDigit && b.isDigit && numberValue 10 [a, b] ≤ most then
      some (numberValue 10 [a, b], rest)
    else none
  | _ => none

/-- The number of days of a month. -/
def daysOf (year month : Nat) : Nat :=
  if month = 2 then
    if year % 4 = 0 && (year % 100 != 0 || year % 400 = 0) then 29 else 28
  else if month = 4 || month = 6 || month = 9 || month = 11 then 30
  else 31

/-- What is behind a date. -/
def date? : List Char → Option (List Char)
  | a :: b :: c :: d :: '-' :: rest =>
    if [a, b, c, d].all Char.isDigit then
      match twoDigits? 12 rest with
      | some (month, '-' :: rest) =>
        match twoDigits? (daysOf (numberValue 10 [a, b, c, d]) month) rest with
        | some (day, rest) => if month = 0 || day = 0 then none else some rest
        | none => none
      | _ => none
    else none
  | _ => none

/-- What is behind a time of day, which may do without the seconds. -/
def time? (word : List Char) : Option (List Char) :=
  match twoDigits? 23 word with
  | some (_, ':' :: rest) =>
    match twoDigits? 59 rest with
    | some (_, ':' :: rest) =>
      match twoDigits? 60 rest with
      | some (_, '.' :: rest) =>
        if (rest.takeWhile Char.isDigit).isEmpty then none
        else some (rest.dropWhile Char.isDigit)
      | some (_, rest) => some rest
      | none => none
    | some (_, rest) => some rest
    | none => none
  | _ => none

/-- Holds of nothing and of the distance from universal time. -/
def isOffset : List Char → Bool
  | [] | ['Z'] | ['z'] => true
  | '+' :: rest | '-' :: rest =>
    match twoDigits? 23 rest with
    | some (_, ':' :: rest) => (twoDigits? 59 rest).any fun (_, behind) => behind.isEmpty
    | _ => false
  | _ => false

/-- Holds of a time of day with or without the distance from universal time. -/
def isTimeWithOffset (word : List Char) : Bool :=
  (time? word).any isOffset

/-- Holds of a date, a time of day, or both. -/
def isMoment (word : List Char) : Bool :=
  match date? word with
  | some [] => true
  | some ('T' :: rest) | some ('t' :: rest) | some (' ' :: rest) => isTimeWithOffset rest
  | some _ => false
  | none => time? word == some []

/-! ## Words -/

/-- The characters that separate values or begin a comment. -/
def separators : List Char :=
  ['=', ',', '[', ']', '\x7b', '\x7d', '#', ' ', '\t', '\r', '\n']

/-- Holds of the characters of a word: all but the separators. -/
def isWord (c : Char) : Bool :=
  !separators.contains c

/-- The value of a word that begins with a digit or a sign. What follows the first digits says
    whether it is a date or a time, a floating point number or an integer. -/
def number? (word : List Char) : Option Value :=
  let rest := (sign word).2.dropWhile Char.isDigit
  match rest with
  | '-' :: _ | ':' :: _ => if isMoment word then some .moment else none
  | _ =>
    if rest.any fun c => c == '.' || isExponentLetter c then (float? word).map .float
    else decimalInteger? word

/-- The value that a word is. -/
def wordValue? (word : List Char) : Option Value :=
  match word with
  | ['t', 'r', 'u', 'e'] => some (.boolean true)
  | ['f', 'a', 'l', 's', 'e'] => some (.boolean false)
  | '0' :: 'x' :: digits => basedInteger? 16 isHexDigit digits
  | '0' :: 'o' :: digits => basedInteger? 8 (fun c => '0' ≤ c && c ≤ '7') digits
  | '0' :: 'b' :: digits => basedInteger? 2 (fun c => c == '0' || c == '1') digits
  | _ =>
    match sign word with
    | (negative, ['i', 'n', 'f']) => some (.float (.infinite negative))
    | (_, ['n', 'a', 'n']) => some (.float .notANumber)
    | _ => number? word

/-- A word. A date and a time of day with a space between them are one word. -/
def scalar (input : List Char) : Option (Value × List Char) :=
  let word := input.takeWhile isWord
  let rest := input.dropWhile isWord
  match date? word, rest with
  | some [], ' ' :: c :: behind =>
    if c.isDigit then
      let time := (c :: behind).takeWhile isWord
      if isTimeWithOffset time then some (.moment, (c :: behind).dropWhile isWord) else none
    else some (.moment, rest)
  | _, _ => (wordValue? word).map (·, rest)

end PascalLint.Toml
