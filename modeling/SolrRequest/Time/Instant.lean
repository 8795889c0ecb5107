import SolrRequest.Number.Digits
import SolrRequest.Text.Whitespace
import SolrRequest.Time.Date

/-!
# Instants

An instant is a date of Universal Time, a second of that day and the nanoseconds of that second. A
leap second is the second 59 of a minute with a thousand million nanoseconds or more, and is
written as second 60.

* `Instant.text` writes an instant with a given number of fraction digits, the rest being cut off.
* `Instant.ofText?` reads a date, a time and an offset from Universal Time. Spaces may stand
  around the parts, single digits may stand for two, and a signed year may have any length.
-/

namespace SolrRequest.Time

open Number Text

-- Powers are those of the core library, whatever else is imported.
attribute [local instance (1100)] instPowNat

def secondsPerDay : Nat := 86400

def nanosPerSecond : Nat := 1000000000

/-- A moment of Universal Time. -/
structure Instant where
  date : Date
  /-- The second of the day. -/
  second : Nat
  /-- The nanosecond of the second; a thousand million or more in a leap second. -/
  nanosecond : Nat
  second_lt : second < 86400
  nanosecond_lt : nanosecond < 2000000000
  leap : 1000000000 ≤ nanosecond → second % 60 = 59
deriving Repr, DecidableEq

/-- How many digits of the fraction of a second are written. -/
inductive Precision where
  | seconds
  | millis
  | micros
  | nanos
deriving Repr, DecidableEq

namespace Precision

def digits : Precision → Nat
  | seconds => 0
  | millis => 3
  | micros => 6
  | nanos => 9

def ofDigits? (n : Nat) : Option Precision :=
  [seconds, millis, micros, nanos].find? (·.digits == n)

end Precision

namespace Instant

def ofParts? (date : Date) (second nanosecond : Nat) : Option Instant :=
  if h : second < 86400 ∧ nanosecond < 2000000000 ∧
      (1000000000 ≤ nanosecond → second % 60 = 59) then
    some ⟨date, second, nanosecond, h.1, h.2.1, h.2.2⟩
  else none

/-! ## Writing -/

def isLeap (t : Instant) : Bool :=
  nanosPerSecond ≤ t.nanosecond

/-- The nanoseconds after the written second. -/
def fraction (t : Instant) : Nat :=
  t.nanosecond % nanosPerSecond

/-- Years of four digits have no sign, all others have one. -/
def yearText (year : Int) : List Char :=
  if 0 ≤ year ∧ year ≤ 9999 then padded 4 year.natAbs
  else (if year < 0 then '-' else '+') :: padded 4 year.natAbs

def dateText (d : Date) : List Char :=
  yearText d.year ++ '-' :: padded 2 d.month ++ '-' :: padded 2 d.day

def fractionText (p : Precision) (nanosecond : Nat) : List Char :=
  match p with
  | .seconds => []
  | _ => '.' :: padded p.digits (nanosecond / 10 ^ (9 - p.digits))

def timeText (t : Instant) : List Char :=
  padded 2 (t.second / 3600) ++ ':' :: padded 2 (t.second / 60 % 60) ++
    ':' :: padded 2 (t.second % 60 + if t.isLeap then 1 else 0)

/-- The text of an instant with a number of fraction digits; what is finer is cut off. -/
def text (p : Precision) (t : Instant) : String :=
  String.ofList (dateText t.date ++ 'T' :: t.timeText ++ fractionText p t.fraction ++ ['Z'])

/-- The fewest fraction digits that lose nothing. -/
def exactPrecision (t : Instant) : Precision :=
  if t.fraction = 0 then .seconds
  else if t.fraction % 1000000 = 0 then .millis
  else if t.fraction % 1000 = 0 then .micros
  else .nanos

/-- The text of an instant that loses nothing. -/
def exactText (t : Instant) : String :=
  t.text t.exactPrecision

/-! ## Reading -/

/-- Reads a number of one up to `width` digits. -/
def readDigits (width : Nat) (s : List Char) : Option (Nat × List Char) :=
  let digits := (s.take width).takeWhile Char.isDigit
  if digits = [] then none else some (digitsValue digits, s.drop digits.length)

/-- Reads a number of one up to `width` digits, after any spaces. -/
def readNumber (width : Nat) (s : List Char) : Option (Nat × List Char) :=
  readDigits width (trimStart s)

/-- Reads one given character. -/
def readChar (c : Char) : List Char → Option (List Char)
  | [] => none
  | x :: r => if x = c then some r else none

/-- Reads a year: up to four digits, or a sign and any number of digits. -/
def readYear (s : List Char) : Option (Int × List Char) :=
  match trimStart s with
  | '-' :: r => (readDigits r.length r).map fun (n, r) => (-(n : Int), r)
  | '+' :: r => (readDigits r.length r).map fun (n, r) => ((n : Int), r)
  | s => (readDigits 4 s).map fun (n, r) => ((n : Int), r)

/-- Reads year, month and day with hyphens between them. -/
def readDate (s : List Char) : Option (Date × List Char) := do
  let (year, s) ← readYear s
  let s ← readChar '-' (trimStart s)
  let (month, s) ← readNumber 2 s
  let s ← readChar '-' (trimStart s)
  let (day, s) ← readNumber 2 s
  let date ← Date.ofParts? year month day
  return (date, s)

/-- Reads an optional fraction of a second as nanoseconds; digits after the ninth are dropped. -/
def readFraction : List Char → Option (Nat × List Char)
  | '.' :: s =>
    let (digits, rest) := takeDigits s
    if digits = [] then none
    else some (digitsValue (digits.take 9) * 10 ^ (9 - digits.length), rest)
  | s => some (0, s)

/-- Reads hours, minutes, seconds and a fraction, as the second of the day and its nanoseconds. -/
def readTime (s : List Char) : Option (Nat × Nat × List Char) := do
  let (hour, s) ← readNumber 2 s
  let s ← readChar ':' (trimStart s)
  let (minute, s) ← readNumber 2 s
  let s ← readChar ':' (trimStart s)
  let (second, s) ← readNumber 2 s
  let (nano, s) ← readFraction s
  if hour < 24 ∧ minute < 60 ∧ second ≤ 60 then
    if second = 60 then return (hour * 3600 + minute * 60 + 59, nano + nanosPerSecond, s)
    else return (hour * 3600 + minute * 60 + second, nano, s)
  else none

/-- Reads two digits. -/
def readPair : List Char → Option (Nat × List Char)
  | a :: b :: r =>
    if a.isDigit ∧ b.isDigit then some (10 * digitValue a + digitValue b, r) else none
  | _ => none

/-- Reads hours and minutes of an offset, with colons or spaces or nothing between them. -/
def readOffsetDigits (s : List Char) : Option (Nat × List Char) := do
  let (hours, s) ← readPair s
  let (minutes, s) ← readPair (s.dropWhile fun c => c == ':' || isSpace c)
  if minutes < 60 then return (hours * 3600 + minutes * 60, s) else none

/-- Reads the offset from Universal Time, in seconds: `Z`, `UTC`, or a sign, hours and minutes. -/
def readOffset (s : List Char) : Option (Int × List Char) :=
  match s with
  | 'Z' :: r => some (0, r)
  | 'z' :: r => some (0, r)
  | '+' :: r => (readOffsetDigits r).map fun (n, r) => ((n : Int), r)
  | '-' :: r => (readOffsetDigits r).map fun (n, r) => (-(n : Int), r)
  | '−' :: r => (readOffsetDigits r).map fun (n, r) => (-(n : Int), r)
  | a :: b :: c :: r =>
    if a.toUpper = 'U' ∧ b.toUpper = 'T' ∧ c.toUpper = 'C' then some (0, r) else none
  | _ => none

/-- The instant of a local date and time at an offset of less than a day. -/
def ofLocal? (date : Date) (second nanosecond : Nat) (offset : Int) : Option Instant :=
  let shifted : Int := second - offset
  if offset.natAbs < secondsPerDay then
    if shifted < 0 then
      date.previous?.bind (ofParts? · (shifted + secondsPerDay).toNat nanosecond)
    else if (secondsPerDay : Int) ≤ shifted then
      date.next?.bind (ofParts? · (shifted - secondsPerDay).toNat nanosecond)
    else ofParts? date shifted.toNat nanosecond
  else none

/-- Reads the mark between date and time. -/
def readMark : List Char → Option (List Char)
  | [] => none
  | c :: r => if c = 'T' ∨ c = 't' ∨ c = ' ' then some r else none

/-- Reads an instant; only spaces may follow it. -/
def ofText? (s : String) : Option Instant := do
  let (date, s) ← readDate s.toList
  let s ← readMark s
  let (second, nano, s) ← readTime s
  let (offset, s) ← readOffset (trimStart s)
  if trimStart s = [] then ofLocal? date second nano offset else none

end Instant

example : (Instant.ofText? "2012-02-29T23:00:00.5-01:00").map (Instant.text .millis) =
    some "2012-03-01T00:00:00.500Z" := by decide

end SolrRequest.Time
