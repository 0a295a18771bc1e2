/-
This file reads TOML dates and times.
-/

import TapeShell.Toml
import TapeShell.Toml.Blank

namespace TapeShell.Toml

/-- This function reads a number of exactly two digits within its bounds. -/
def readTwoDigits (low high : Nat) : Reader Nat
  | first :: second :: rest => do
      let number ← Text.Decimal.natural? [first, second]
      if low ≤ number ∧ number ≤ high then some (number, rest) else none
  | _ => none

def expect (character : Char) : Reader Unit
  | first :: rest => if first = character then some ((), rest) else none
  | [] => none

def isLeapYear (year : Nat) : Bool :=
  year % 4 == 0 && (year % 100 != 0 || year % 400 == 0)

def daysInMonth (year month : Nat) : Nat :=
  if month = 2 then (if isLeapYear year then 29 else 28)
  else if month = 4 ∨ month = 6 ∨ month = 9 ∨ month = 11 then 30
  else 31

/-- Digits after the ninth are cut off, and zeros at the end are dropped. -/
def trimFraction (digits : List Char) : List Char :=
  ((digits.take 9).reverse.dropWhile (· == '0')).reverse

/-- A point without a digit after it belongs to no fraction. -/
def readSecondFraction (text : List Char) : List Char × List Char :=
  match text with
  | '.' :: digit :: rest =>
      if digit.isDigit then
        (trimFraction (digit :: rest.takeWhile Char.isDigit), rest.dropWhile Char.isDigit)
      else ([], text)
  | _ => ([], text)

/-- A second may be the leap second. -/
def readClock : Reader Clock := fun text => do
  let (hour, afterHour) ← readTwoDigits 0 23 text
  let (_, afterColon) ← expect ':' afterHour
  let (minute, afterMinute) ← readTwoDigits 0 59 afterColon
  let (_, afterMark) ← expect ':' afterMinute
  let (second, afterSecond) ← readTwoDigits 0 60 afterMark
  let (fraction, rest) := readSecondFraction afterSecond
  some (⟨hour, minute, second, fraction⟩, rest)

def readMinutes : Reader Nat := fun text => do
  let (hours, afterHours) ← readTwoDigits 0 23 text
  let (_, afterColon) ← expect ':' afterHours
  let (minutes, rest) ← readTwoDigits 0 59 afterColon
  some (hours * 60 + minutes, rest)

/-- An offset is a letter or a signed time, and it may be missing. -/
def readOffset : Reader (Option Offset)
  | 'Z' :: rest => some (some .universal, rest)
  | 'z' :: rest => some (some .universal, rest)
  | '+' :: rest => (readMinutes rest).map fun (count, after) => (some (.minutes count), after)
  | '-' :: rest => (readMinutes rest).map fun (count, after) => (some (.minutes (-count)), after)
  | text => some (none, text)

/-- An hour and a colon decide that a time follows. -/
def startsClock (text : List Char) : Bool :=
  match readTwoDigits 0 23 text with
  | some (_, ':' :: _) => true
  | _ => false

/-- A year and a dash decide that a date follows. -/
def startsDate : List Char → Bool
  | a :: b :: c :: d :: '-' :: _ => [a, b, c, d].all Char.isDigit
  | _ => false

def readDate : Reader Date := fun text => do
  let year ← Text.Decimal.natural? (text.take 4)
  let (_, afterYear) ← expect '-' (text.drop 4)
  let (month, afterMonth) ← readTwoDigits 1 12 afterYear
  let (_, afterDash) ← expect '-' afterMonth
  let (day, rest) ← readTwoDigits 1 (daysInMonth year month) afterDash
  some (⟨year, month, day⟩, rest)

def isTimeMark (character : Char) : Bool :=
  character == 'T' || character == 't' || character == ' '

/-- A date may go on with a time after one letter or one space. -/
def readDateTime : Reader Moment := fun text => do
  let (date, afterDate) ← readDate text
  match afterDate with
  | mark :: start =>
      if isTimeMark mark && startsClock start then do
        let (clock, afterClock) ← readClock start
        let (offset, rest) ← readOffset afterClock
        some (.both date clock offset, rest)
      else some (.date date, afterDate)
  | [] => some (.date date, [])

/-- This function reads a date, a time or both. -/
def readMoment : Reader Moment := fun text =>
  if startsDate text then readDateTime text
  else (readClock text).map fun (clock, rest) => (.clock clock, rest)

end TapeShell.Toml
