/-
This file defines the dates and times of TOML and writes them in one spelling.
-/

import TapeShell.Text.Decimal

namespace TapeShell.Toml

structure Date where
  year : Nat
  month : Nat
  day : Nat
  deriving DecidableEq, Repr

/-- The fraction of a second has at most nine digits and does not end in a zero. -/
structure Clock where
  hour : Nat
  minute : Nat
  second : Nat
  fraction : List Char
  deriving DecidableEq, Repr

/-- An offset is counted in minutes, and universal time has a letter of its own. -/
inductive Offset where
  | universal
  | minutes (ahead : Int)
  deriving DecidableEq, Repr

/-- A moment has a date, a time of day or both, and only a moment with both has an offset. -/
inductive Moment where
  | date (value : Date)
  | clock (value : Clock)
  | both (day : Date) (time : Clock) (offset : Option Offset)
  deriving DecidableEq, Repr

/-- This function fills a number with zeros up to a width. -/
def padded (width number : Nat) : List Char :=
  let digits := Text.Decimal.digits number
  List.replicate (width - digits.length) '0' ++ digits

def Date.render (date : Date) : List Char :=
  padded 4 date.year ++ '-' :: padded 2 date.month ++ '-' :: padded 2 date.day

def Clock.render (clock : Clock) : List Char :=
  padded 2 clock.hour ++ ':' :: padded 2 clock.minute ++ ':' :: padded 2 clock.second ++
    (if clock.fraction.isEmpty then [] else '.' :: clock.fraction)

def Offset.render : Offset → List Char
  | .universal => ['Z']
  | .minutes ahead =>
      (if ahead < 0 then '-' else '+') ::
        padded 2 (ahead.natAbs / 60) ++ ':' :: padded 2 (ahead.natAbs % 60)

def Moment.render : Moment → String
  | .date value => String.ofList value.render
  | .clock value => String.ofList value.render
  | .both day time none => String.ofList (day.render ++ 'T' :: time.render)
  | .both day time (some offset) =>
      String.ofList (day.render ++ 'T' :: time.render ++ offset.render)

end TapeShell.Toml
