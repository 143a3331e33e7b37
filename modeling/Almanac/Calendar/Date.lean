import Almanac.Basic

set_option autoImplicit false

/-!
# Dates

The proleptic Gregorian calendar from 1 January -262143 to 31 December 262142, with a year zero.
Days are numbered in order, 1 January of year zero being day zero; a date is moved by going to its
number and back.
-/
namespace Almanac

namespace Calendar

def firstYear : Int := -262143

def lastYear : Int := 262142

def isLeap (year : Int) : Bool := year % 4 = 0 && (year % 100 ≠ 0 || year % 400 = 0)

def monthLengths (year : Int) : List Nat :=
  [31, if isLeap year then 29 else 28, 31, 30, 31, 30, 31, 31, 30, 31, 30, 31]

def monthLength (year : Int) (month : Nat) : Nat := ((0 :: monthLengths year)[month]?).getD 0

end Calendar

structure Date where
  year : Int
  month : Nat
  day : Nat
  firstYear_le : Calendar.firstYear ≤ year
  le_lastYear : year ≤ Calendar.lastYear
  one_le_day : 1 ≤ day
  day_le : day ≤ Calendar.monthLength year month
deriving DecidableEq

namespace Date

open Calendar

def of? (year : Int) (month day : Nat) : Option Date :=
  if hy : firstYear ≤ year ∧ year ≤ lastYear then
    if hd : 1 ≤ day ∧ day ≤ monthLength year month then
      some ⟨year, month, day, hy.1, hy.2, hd.1, hd.2⟩
    else none
  else none

def yearStart (year : Int) : Int :=
  365 * year + (year + 3) / 4 - (year + 99) / 100 + (year + 399) / 400

def daysBeforeMonth (year : Int) (month : Nat) : Nat := ((monthLengths year).take (month - 1)).sum

def number (date : Date) : Int :=
  yearStart date.year + daysBeforeMonth date.year date.month + (date.day - 1)

/-- The year that holds a day: the mean length of a year gives it up to one. -/
def yearOfNumber (n : Int) : Int :=
  let guess := 400 * n / 146097
  if yearStart (guess + 1) ≤ n then guess + 1
  else if yearStart guess ≤ n then guess
  else guess - 1

/-- The month and day of the day that comes `days` after the first of `month`, given the lengths
of the months from there on. -/
def monthAndDay (month : Nat) : List Nat → (days : Nat) → Nat × Nat
  | [], days => (month, days + 1)
  | length :: rest, days =>
    if days < length then (month, days + 1) else monthAndDay (month + 1) rest (days - length)

def ofNumber? (n : Int) : Option Date :=
  let year := yearOfNumber n
  let (month, day) := monthAndDay 1 (monthLengths year) (n - yearStart year).toNat
  of? year month day

def addDays? (date : Date) (days : Nat) : Option Date := ofNumber? (date.number + days)

end Date

inductive DateError where
  | invalid
  | outOfRange
  | tooShort
  | tooLong
deriving DecidableEq

def DateError.message : DateError → String
  | invalid => "input contains invalid characters"
  | outOfRange => "input is out of range"
  | tooShort => "premature end of input"
  | tooLong => "trailing input"

namespace Date

def padded (width n : Nat) : List Char :=
  let digits := Nat.toDigits 10 n
  List.replicate (width - digits.length) '0' ++ digits

/-- A year has four digits at least, and a sign unless it lies between 0 and 9999. -/
def yearText (year : Int) : List Char :=
  let sign := if year < 0 then ['-'] else if 9999 < year then ['+'] else []
  sign ++ padded 4 year.natAbs

def text (date : Date) : String :=
  String.ofList
    (yearText date.year ++ '-' :: padded 2 date.month ++ '-' :: padded 2 date.day)

/-- The rest of a number of at most `room` more digits that must stay within 64 bits. -/
def digitsFrom (room value : Nat) : List Char → Except DateError (Nat × List Char)
  | [] => .ok (value, [])
  | c :: rest =>
    match room, digitValue? c with
    | 0, _ => .ok (value, c :: rest)
    | _, none => .ok (value, c :: rest)
    | room + 1, some d =>
      if 10 * value + d < 2 ^ 63 then digitsFrom room (10 * value + d) rest
      else .error .outOfRange

def digits (width : Nat) : List Char → Except DateError (Nat × List Char)
  | [] => .error .tooShort
  | c :: rest =>
    if (digitValue? c).isSome then digitsFrom width 0 (c :: rest) else .error .invalid

def readYear (cs : List Char) : Except DateError (Int × List Char) :=
  let (sign, width, cs) : Int × Nat × List Char := match cs with
    | '-' :: rest => (-1, rest.length, rest)
    | '+' :: rest => (1, rest.length, rest)
    | _ => (1, 4, cs)
  do
    let (n, rest) ← digits width cs
    let year := sign * n
    if -2 ^ 31 ≤ year ∧ year < 2 ^ 31 then .ok (year, rest) else .error .outOfRange

def readPart (last : Nat) (cs : List Char) : Except DateError (Nat × List Char) := do
  let (n, rest) ← digits 2 cs
  if 1 ≤ n ∧ n ≤ last then .ok (n, rest) else .error .outOfRange

def readHyphen : List Char → Except DateError (List Char)
  | [] => .error .tooShort
  | c :: rest => if c = '-' then .ok rest else .error .invalid

def dropBlanks (cs : List Char) : List Char := cs.dropWhile isBlank

/-- Reads a date, field by field from the left. -/
def read (s : String) : Except DateError Date := do
  let (year, cs) ← readYear (dropBlanks s.toList)
  let cs ← readHyphen (dropBlanks cs)
  let (month, cs) ← readPart 12 (dropBlanks cs)
  let cs ← readHyphen (dropBlanks cs)
  let (day, cs) ← readPart 31 (dropBlanks cs)
  if dropBlanks cs = [] then
    match of? year month day with
    | some date => .ok date
    | none => .error .outOfRange
  else .error .tooLong

end Date

end Almanac
