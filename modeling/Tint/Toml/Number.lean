import Tint.Toml.Text
import Tint.Toml.Value

/-!
# Numbers and dates of TOML

Readers for integers, floats, dates and times.  A date goes before a number that starts in the same
way, and a float before an integer.
-/

namespace Tint.Toml

open Tint.Unicode

/-- Decimal digits. -/
def isDecimal (c : Char) : Bool :=
  '0' ≤ c && c ≤ '9'

/-- The number that decimal digits stand for. -/
def decimalNumber (digits : List Char) : Nat :=
  digits.foldl (fun number c => number * 10 + (c.toNat - '0'.toNat)) 0

/-- Reads digits with single underscores between them; there must be a digit on both sides of each.
`done` holds the digits so far, last first. -/
def readDigitsFrom (isDigit : Char → Bool) (done : List Char) :
    List Char → Option (List Char × List Char)
  | [] => some (done.reverse, [])
  | c :: rest =>
      if isDigit c then readDigitsFrom isDigit (c :: done) rest
      else if c == '_' then
        match rest with
        | digit :: rest =>
            if isDigit digit then readDigitsFrom isDigit (digit :: done) rest else none
        | [] => none
      else some (done.reverse, c :: rest)

/-- Reads one digit at least. -/
def readDigits (isDigit : Char → Bool) : List Char → Option (List Char × List Char)
  | c :: rest => if isDigit c then readDigitsFrom isDigit [c] rest else none
  | [] => none

/-- Takes a sign; `true` for a minus. -/
def takeSign : List Char → Bool × List Char
  | '+' :: rest => (false, rest)
  | '-' :: rest => (true, rest)
  | cs => (false, cs)

/-- Reads the digits of a decimal integer; a zero stands alone. -/
def readDecimal : List Char → Option (List Char × List Char)
  | '0' :: rest => some (['0'], rest)
  | cs => readDigits isDecimal cs

/-- Integers have 64 bits. -/
def integerInRange (value : Int) : Bool :=
  -0x8000000000000000 ≤ value && value < 0x8000000000000000

/-- An integer, if it is in range. -/
def integerValue? (value : Int) (rest : List Char) : Option (Value × List Char) :=
  if integerInRange value then some (.integer value, rest) else none

/-- Reads an integer: decimal with an optional sign, or hexadecimal, octal or binary without one. -/
def readInteger (cs : List Char) : Option (Value × List Char) :=
  let based (isDigit : Char → Bool) (base : Nat) (cs : List Char) : Option (Value × List Char) := do
    let (digits, rest) ← readDigits isDigit cs
    integerValue? (digits.foldl (fun number c => number * base + (hexDigit? c).getD 0) 0 : Nat) rest
  match cs with
  | '0' :: 'x' :: rest => based (fun c => (hexDigit? c).isSome) 16 rest
  | '0' :: 'o' :: rest => based (fun c => '0' ≤ c && c ≤ '7') 8 rest
  | '0' :: 'b' :: rest => based (fun c => c == '0' || c == '1') 2 rest
  | cs => do
      let (negative, cs) := takeSign cs
      let (digits, rest) ← readDecimal cs
      let number : Int := decimalNumber digits
      integerValue? (if negative then -number else number) rest

/-- Whether the digits of a fraction, moved by a power of ten, round to a number beyond all finite
floats: at least half a unit above the largest one. -/
def overflows (digits : List Char) (exponent : Int) : Bool :=
  let digits := digits.dropWhile (· == '0')
  let size : Int := digits.length + exponent
  if digits.isEmpty || size < 309 then false
  else if 309 < size then true
  else
    let bound := Nat.pow 2 1024 - Nat.pow 2 970
    let number := decimalNumber digits
    if 0 ≤ exponent then bound ≤ number * Nat.pow 10 exponent.toNat
    else bound * Nat.pow 10 (-exponent).toNat ≤ number

/-- Reads an exponent, if there is one. -/
def readExponent (cs : List Char) : Option (Option Int × List Char) :=
  match cs with
  | c :: rest =>
      if c == 'e' || c == 'E' then do
        let (negative, rest) := takeSign rest
        let (digits, rest) ← readDigits isDecimal rest
        let number : Int := decimalNumber digits
        return (some (if negative then -number else number), rest)
      else some (none, cs)
  | [] => some (none, [])

/-- Reads a float: a fraction, an exponent or both after a decimal integer, or an infinity or
not-a-number with an optional sign.  A positive number beyond all finite floats is refused. -/
def readFloat (cs : List Char) : Option (Value × List Char) :=
  let written (rest : List Char) : Value :=
    .float (String.ofList (cs.take (cs.length - rest.length)))
  let (negative, digitsOn) := takeSign cs
  match digitsOn with
  | 'i' :: 'n' :: 'f' :: rest => some (written rest, rest)
  | 'n' :: 'a' :: 'n' :: rest => some (written rest, rest)
  | _ => do
      let (whole, rest) ← readDecimal digitsOn
      let (fraction, rest) ← match rest with
        | '.' :: rest => (readDigits isDecimal rest).map fun (digits, rest) => (some digits, rest)
        | rest => some (none, rest)
      let (exponent, rest) ← readExponent rest
      if fraction.isNone && exponent.isNone then none
      else
        let decimals := fraction.getD []
        let power : Int := exponent.getD 0 - decimals.length
        if !negative && overflows (whole ++ decimals) power then none
        else some (written rest, rest)

/-- Reads exactly `count` decimal digits as a number. -/
def readFixed (count : Nat) (cs : List Char) : Option (Nat × List Char) :=
  let digits := cs.take count
  if digits.length = count ∧ digits.all isDecimal then some (decimalNumber digits, cs.drop count)
  else none

/-- Reads one character. -/
def readChar (c : Char) : List Char → Option (List Char)
  | d :: rest => if d = c then some rest else none
  | [] => none

/-- The number of days of a month. -/
def daysOfMonth (year month : Nat) : Nat :=
  if month = 2 then
    if year % 4 = 0 ∧ (year % 100 ≠ 0 ∨ year % 400 = 0) then 29 else 28
  else if month = 4 ∨ month = 6 ∨ month = 9 ∨ month = 11 then 30
  else 31

/-- The characters after a date. -/
def afterDate? (cs : List Char) : Option (List Char) := do
  let (year, cs) ← readFixed 4 cs
  let cs ← readChar '-' cs
  let (month, cs) ← readFixed 2 cs
  let cs ← readChar '-' cs
  let (day, cs) ← readFixed 2 cs
  if 1 ≤ month ∧ month ≤ 12 ∧ 1 ≤ day ∧ day ≤ daysOfMonth year month then some cs else none

/-- The characters after an hour and a minute. -/
def afterMinute? (cs : List Char) : Option (List Char) := do
  let (hour, cs) ← readFixed 2 cs
  let cs ← readChar ':' cs
  let (minute, cs) ← readFixed 2 cs
  if hour ≤ 23 ∧ minute ≤ 59 then some cs else none

/-- The characters after a time of day.  There may be a leap second, and parts of a second after a
period. -/
def afterTime? (cs : List Char) : Option (List Char) := do
  let cs ← afterMinute? cs
  let cs ← readChar ':' cs
  let (second, cs) ← readFixed 2 cs
  if 60 < second then none
  else match cs with
    | '.' :: digit :: rest =>
        if isDecimal digit then some (rest.dropWhile isDecimal) else some cs
    | cs => some cs

/-- The characters after an offset from universal time, if there is one. -/
def afterOffset? : List Char → Option (List Char)
  | 'Z' :: rest => some rest
  | 'z' :: rest => some rest
  | '+' :: rest => afterMinute? rest
  | '-' :: rest => afterMinute? rest
  | rest => some rest

/-- Whether the characters start as a date does, with four digits and a hyphen. -/
def startsAsDate (cs : List Char) : Bool :=
  ((readFixed 4 cs).bind fun (_, rest) => readChar '-' rest).isSome

/-- Whether the characters start as a time does, with two digits and a colon. -/
def startsAsTime (cs : List Char) : Bool :=
  ((readFixed 2 cs).bind fun (_, rest) => readChar ':' rest).isSome

/-- The characters after a time that may follow a date, with its offset. -/
def afterDateTime? (rest : List Char) : Option (List Char) :=
  match rest with
  | mark :: time =>
      if (mark == 'T' || mark == 't' || mark == ' ') && startsAsTime time then
        (afterTime? time).bind afterOffset?
      else some rest
  | [] => some []

/-- Reads a number, a date or a time. -/
def readNumeric (cs : List Char) : Option (Value × List Char) :=
  let dated (rest : List Char) : Value × List Char :=
    (.dateTime (String.ofList (cs.take (cs.length - rest.length))), rest)
  if startsAsDate cs then ((afterDate? cs).bind afterDateTime?).map dated
  else if startsAsTime cs then (afterTime? cs).map dated
  else (readFloat cs).or (readInteger cs)

end Tint.Toml
