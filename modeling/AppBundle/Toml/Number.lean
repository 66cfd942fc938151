import AppBundle.Json.Parser
import AppBundle.Toml

/-!
# Bare values of TOML

Numbers, dates, times and truth values are words of letters, digits and a few signs. Underscores
may stand between digits. Integers have 64 bits, and a float that a double cannot hold is no value.
-/

namespace AppBundle

namespace Toml

/-- A character of a bare value. -/
def isBareValueChar (c : Char) : Bool := c.isAlphanum || "_+-.:".toList.contains c

/-- Digits with single underscores between them. -/
def isDigitRun (isDigit : Char → Bool) : Text → Bool
  | [] => false
  | [c] => isDigit c
  | c :: '_' :: cs => isDigit c && isDigitRun isDigit cs
  | c :: cs => isDigit c && isDigitRun isDigit cs

/-- The value of digits to a base; underscores do not count. -/
def valueOf (base : Nat) (t : Text) : Nat :=
  t.foldl (fun n c =>
    match Json.hexValue? c with
    | some digit => base * n + digit
    | none => n) 0

/-- The sign in front of a word, and the word without it. -/
def splitSign : Text → Bool × Text
  | '+' :: cs => (false, cs)
  | '-' :: cs => (true, cs)
  | cs => (false, cs)

/-- Decimal digits without a needless zero in front. -/
def isDecimal (t : Text) : Bool :=
  isDigitRun Char.isDigit t && (t.head? ≠ some '0' || t.length = 1)

/-- A number in the notation of its base. -/
def based? (base : Nat) (isDigit : Char → Bool) (t : Text) : Option Int :=
  if isDigitRun isDigit t ∧ valueOf base t < Nat.pow 2 63 then some (valueOf base t) else none

def isHexDigit (c : Char) : Bool := (Json.hexValue? c).isSome

def integer? (t : Text) : Option Int :=
  match t with
  | '0' :: 'x' :: cs => based? 16 isHexDigit cs
  | '0' :: 'o' :: cs => based? 8 (fun c => '0' ≤ c && c ≤ '7') cs
  | '0' :: 'b' :: cs => based? 2 (fun c => c = '0' || c = '1') cs
  | _ =>
    let (negative, digits) := splitSign t
    if isDecimal digits then
      let n := valueOf 10 digits
      if negative then if n ≤ Nat.pow 2 63 then some (-n) else none
      else if n < Nat.pow 2 63 then some n else none
    else none

def isFloat (t : Text) : Bool :=
  let (negative, unsigned) := splitSign t
  if unsigned = "inf".toList ∨ unsigned = "nan".toList then true
  else
    let isExponentMark (c : Char) : Bool := c = 'e' || c = 'E'
    let mantissa := unsigned.takeWhile (!isExponentMark ·)
    let exponent := (unsigned.dropWhile (!isExponentMark ·)).drop 1
    let hasExponent := mantissa.length < unsigned.length
    let whole := mantissa.takeWhile (· ≠ '.')
    let fraction := (mantissa.dropWhile (· ≠ '.')).drop 1
    let hasFraction := whole.length < mantissa.length
    let (negativeExponent, exponentDigits) := splitSign exponent
    let scale : Int := valueOf 10 exponentDigits
    let plain (t : Text) : Text := t.filter Char.isDigit
    isDecimal whole && (!hasFraction || isDigitRun Char.isDigit fraction)
      && (!hasExponent || isDigitRun Char.isDigit exponentDigits)
      && (hasFraction || hasExponent)
      && (negative || !Json.isHuge (plain (whole ++ fraction)) (plain fraction).length
        (if negativeExponent then -scale else scale))

/-- The number of two decimal digits. -/
def twoDigits? : Text → Option Nat
  | [a, b] => if a.isDigit ∧ b.isDigit then some (valueOf 10 [a, b]) else none
  | _ => none

def daysOf (year month : Nat) : Nat :=
  if month = 2 then
    if year % 4 = 0 ∧ (year % 100 ≠ 0 ∨ year % 400 = 0) then 29 else 28
  else if month ∈ [4, 6, 9, 11] then 30 else 31

/-- A date as `year-month-day`. -/
def isDate (t : Text) : Bool :=
  match t.splitBy (· = '-') with
  | [year, month, day] =>
    match twoDigits? month, twoDigits? day with
    | some m, some d =>
      year.length = 4 && year.all Char.isDigit && 1 ≤ m && m ≤ 12 && 1 ≤ d
        && d ≤ daysOf (valueOf 10 year) m
    | _, _ => false
  | _ => false

/-- A time as `hour:minute:second`, perhaps with a fraction. -/
def isTime (t : Text) : Bool :=
  match t.splitBy (· = ':') with
  | [hour, minute, second] =>
    let whole := second.takeWhile (· ≠ '.')
    let fraction := (second.dropWhile (· ≠ '.')).drop 1
    let inRange (t : Text) (limit : Nat) : Bool := (twoDigits? t).any (· ≤ limit)
    inRange hour 23 && inRange minute 59 && inRange whole 60
      && (whole = second || (fraction ≠ [] && fraction.all Char.isDigit))
  | _ => false

/-- A time with an offset: `Z`, or a sign with hours and minutes. -/
def isTimeWithOffset (t : Text) : Bool :=
  match t.getLast? with
  | some 'Z' | some 'z' => isTime t.dropLast
  | _ =>
    let isSign (c : Char) : Bool := c = '+' || c = '-'
    let time := t.takeWhile (!isSign ·)
    let offset : Text := (t.dropWhile (!isSign ·)).drop 1
    isTime time && (time = t ||
      match offset.splitBy (· = ':') with
      | [hour, minute] =>
        (twoDigits? hour).any (· ≤ 23) && (twoDigits? minute).any (· ≤ 59)
      | _ => false)

def isDatetime (t : Text) : Bool :=
  isDate t || isTime t ||
    (match t.drop 10 with
      | c :: time => (c = 'T' || c = 't') && isDate (t.take 10) && isTimeWithOffset time
      | [] => false)

/-- A bare value and what follows it. A date may be followed by a time after a space. -/
def readBareValue (t : Text) : Option (Item × Text) :=
  let word := t.takeWhile isBareValueChar
  let rest := t.dropWhile isBareValueChar
  if word = "true".toList then some (.boolean true, rest)
  else if word = "false".toList then some (.boolean false, rest)
  else if isDatetime word then
    match rest with
    | ' ' :: later =>
      if isDate word ∧ isTimeWithOffset (later.takeWhile isBareValueChar) then
        some (.datetime, later.dropWhile isBareValueChar)
      else some (.datetime, rest)
    | _ => some (.datetime, rest)
  else if isFloat word then some (.float, rest)
  else (integer? word).map fun n => (.integer n, rest)

end Toml

end AppBundle
