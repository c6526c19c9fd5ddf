import ProcCall.Number.Integer
import ProcCall.Unicode.Ranges

/-! # Dates and times

The proleptic calendar with a leap second allowed in every minute. Writing is strict.
Reading accepts blanks before every number and short months, days and hours, so it
takes more texts than writing gives.
-/

namespace ProcCall

structure Date where
  year : Int
  month : Nat
  day : Nat
  deriving DecidableEq, Repr

/-- The second is 60 in a leap second. -/
structure TimeOfDay where
  hour : Nat
  minute : Nat
  second : Nat
  nano : Nat
  deriving DecidableEq, Repr

structure Timestamp where
  date : Date
  time : TimeOfDay
  deriving DecidableEq, Repr

def TimeOfDay.midnight : TimeOfDay := ⟨0, 0, 0, 0⟩

namespace Date

def isLeapYear (y : Int) : Bool := y % 4 == 0 && (y % 100 != 0 || y % 400 == 0)

def daysIn (y : Int) (month : Nat) : Nat :=
  if month = 2 then (if isLeapYear y then 29 else 28)
  else if month = 4 ∨ month = 6 ∨ month = 9 ∨ month = 11 then 30
  else 31

def firstYear : Int := -262143

def lastYear : Int := 262142

def isValid (d : Date) : Bool :=
  firstYear ≤ d.year && d.year ≤ lastYear && 1 ≤ d.month && d.month ≤ 12 &&
    1 ≤ d.day && d.day ≤ daysIn d.year d.month

def next (d : Date) : Date :=
  if d.day < daysIn d.year d.month then { d with day := d.day + 1 }
  else if d.month < 12 then ⟨d.year, d.month + 1, 1⟩
  else ⟨d.year + 1, 1, 1⟩

def previous (d : Date) : Date :=
  if 1 < d.day then { d with day := d.day - 1 }
  else if 1 < d.month then ⟨d.year, d.month - 1, daysIn d.year (d.month - 1)⟩
  else ⟨d.year - 1, 12, 31⟩

/-- Years outside four digits carry a sign. -/
def writeYear (y : Int) : List Char :=
  if 0 ≤ y ∧ y ≤ 9999 then Numeral.padded 4 y.toNat
  else (if y < 0 then '-' else '+') :: Numeral.padded 4 y.natAbs

def chars (d : Date) : List Char :=
  writeYear d.year ++ '-' :: Numeral.padded 2 d.month ++ '-' :: Numeral.padded 2 d.day

end Date

namespace TimeOfDay

/-- Three, six or nine digits, the fewest that are exact. -/
def writeFraction (nano : Nat) : List Char :=
  if nano = 0 then []
  else if nano % 1000000 = 0 then '.' :: Numeral.padded 3 (nano / 1000000)
  else if nano % 1000 = 0 then '.' :: Numeral.padded 6 (nano / 1000)
  else '.' :: Numeral.padded 9 nano

def chars (t : TimeOfDay) : List Char :=
  Numeral.padded 2 t.hour ++ ':' :: Numeral.padded 2 t.minute ++
    ':' :: Numeral.padded 2 t.second ++ writeFraction t.nano

end TimeOfDay

namespace Timestamp

/-- The two halves with a separator between them. -/
def chars (separator : Char) (t : Timestamp) : List Char :=
  t.date.chars ++ separator :: t.time.chars

/-- The same instant seen `minutes` (less than a day) further west. -/
def shiftBack (t : Timestamp) (minutes : Int) : Timestamp :=
  let total : Int := t.time.hour * 60 + t.time.minute - minutes
  let ofDay := (total % 1440).toNat
  { date := if total < 0 then t.date.previous else if total < 1440 then t.date else t.date.next
    time := { t.time with hour := ofDay / 60, minute := ofDay % 60 } }

end Timestamp

/-! ## Reading -/

namespace Calendar

open Unicode

/-- Up to `most` digits, one at least. -/
def scanDigits (most : Nat) (s : List Char) : Option (Nat × List Char) :=
  let ds := (s.take most).takeWhile Char.isDigit
  (Numeral.readNat ds).map fun n => (n, s.drop ds.length)

/-- A number with blanks before it. -/
def scanNumber (s : List Char) : Option (Nat × List Char) := scanDigits 2 (trimLeft s)

/-- Four digits at most unless there is a sign. -/
def scanYear (s : List Char) : Option (Int × List Char) :=
  match trimLeft s with
  | '-' :: cs => (scanDigits cs.length cs).map fun (n, rest) => (-(n : Int), rest)
  | '+' :: cs => (scanDigits cs.length cs).map fun (n, rest) => ((n : Int), rest)
  | cs => (scanDigits 4 cs).map fun (n, rest) => ((n : Int), rest)

def scanChar (c : Char) : List Char → Option (List Char)
  | [] => none
  | d :: cs => if c = d then some cs else none

/-- A separator with blanks before it. -/
def scanMark (c : Char) (s : List Char) : Option (List Char) := scanChar c (trimLeft s)

def scanDate (s : List Char) : Option (Date × List Char) := do
  let (year, s) ← scanYear s
  let s ← scanMark '-' s
  let (month, s) ← scanNumber s
  let s ← scanMark '-' s
  let (day, s) ← scanNumber s
  let d : Date := ⟨year, month, day⟩
  if d.isValid then some (d, s) else none

def scanHourMinute (s : List Char) : Option ((Nat × Nat) × List Char) := do
  let (hour, s) ← scanNumber s
  let s ← scanMark ':' s
  let (minute, s) ← scanNumber s
  if hour < 24 ∧ minute < 60 then some ((hour, minute), s) else none

/-- Nine digits of the fraction count, further ones are skipped. -/
def scanFraction : List Char → Option (Nat × List Char)
  | '.' :: cs => do
    let (n, rest) ← scanDigits 9 cs
    let used := cs.length - rest.length
    some (n * Nat.pow 10 (9 - used), rest.dropWhile Char.isDigit)
  | cs => some (0, cs)

def scanSeconds (s : List Char) : Option ((Nat × Nat) × List Char) := do
  let s ← scanMark ':' s
  let (second, s) ← scanNumber s
  if second ≤ 60 then
    let (nano, s) ← scanFraction s
    some ((second, nano), s)
  else none

def scanTime (s : List Char) : Option (TimeOfDay × List Char) := do
  let ((hour, minute), s) ← scanHourMinute s
  let ((second, nano), s) ← scanSeconds s
  some (⟨hour, minute, second, nano⟩, s)

/-- Nothing but blanks is left. -/
def finish {α : Type} : α × List Char → Option α
  | (a, rest) => if (trimLeft rest).isEmpty then some a else none

def readDate? (s : List Char) : Option Date := (scanDate s).bind finish

/-- The seconds may be left out. -/
def readTime? (s : List Char) : Option TimeOfDay := do
  let ((hour, minute), rest) ← scanHourMinute s
  match scanSeconds rest with
  | some ((second, nano), rest) => finish (⟨hour, minute, second, nano⟩, rest)
  | none => finish (⟨hour, minute, 0, 0⟩, rest)

def readTimestamp? (s : List Char) : Option Timestamp := do
  let (date, s) ← scanDate s
  let s ← scanMark 'T' s
  let (time, s) ← scanTime s
  finish (⟨date, time⟩, s)

def digitPair? : List Char → Option (Nat × List Char)
  | a :: b :: cs => do some (10 * (← Numeral.digitValue? a) + (← Numeral.digitValue? b), cs)
  | _ => none

/-- Hours and minutes east of Greenwich, as minutes. -/
def scanHoursMinutes (s : List Char) : Option (Nat × List Char) := do
  let (hours, s) ← digitPair? s
  let (minutes, s) ← digitPair? (s.dropWhile fun c => c = ':' || isWhiteSpace c)
  if minutes < 60 ∧ hours < 24 then some (hours * 60 + minutes, s) else none

/-- Greenwich by letter or by name, or a signed distance from it. -/
def scanOffset (s : List Char) : Option (Int × List Char) :=
  if (s.take 3).map Char.toUpper = ['U', 'T', 'C'] then some (0, s.drop 3)
  else match s with
    | c :: cs =>
      if c = 'Z' ∨ c = 'z' then some (0, cs)
      else if c = '+' then (scanHoursMinutes cs).map fun (n, rest) => ((n : Int), rest)
      else if c = '-' ∨ c = '\u2212' then
        (scanHoursMinutes cs).map fun (n, rest) => (-(n : Int), rest)
      else none
    | [] => none

/-- A timestamp with an offset, as the timestamp at Greenwich. -/
def readInstant? (s : List Char) : Option Timestamp := do
  let (date, s) ← scanDate s
  let s ← match s with
    | c :: cs => if c = 'T' ∨ c = 't' ∨ c = ' ' then some cs else none
    | [] => none
  let (time, s) ← scanTime s
  let (minutes, s) ← scanOffset (trimLeft s)
  let t := Timestamp.shiftBack ⟨date, time⟩ minutes
  if s.isEmpty && t.date.isValid then some t else none

end Calendar

end ProcCall
