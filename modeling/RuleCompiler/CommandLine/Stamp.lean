import RuleCompiler.Compilation.Report
import RuleCompiler.Text.Numeral

/-!
Stamps of compilations: a random identifier of version 4, and the time in UTC with as many digits
of the second as it needs, in groups of three.
-/

namespace RuleCompiler

structure CalendarDate where
  year : Nat
  month : Nat
  day : Nat
  deriving DecidableEq, Repr

namespace CalendarDate

/-- The date so many days after the first day of 1970. Years are counted from March, so that a leap
day comes last, in eras of 400 years. -/
def ofDays (days : Nat) : CalendarDate :=
  let shifted := days + 719468
  let era := shifted / 146097
  let dayOfEra := shifted % 146097
  let yearOfEra := (dayOfEra + dayOfEra / 36524 - dayOfEra / 1460 - dayOfEra / 146096) / 365
  let dayOfYear := dayOfEra + yearOfEra / 100 - 365 * yearOfEra - yearOfEra / 4
  let monthFromMarch := (5 * dayOfYear + 2) / 153
  let month := if monthFromMarch < 10 then monthFromMarch + 3 else monthFromMarch - 9
  { year := yearOfEra + 400 * era + (if month ≤ 2 then 1 else 0)
    month
    day := dayOfYear - (153 * monthFromMarch + 2) / 5 + 1 }

example : ofDays 0 = ⟨1970, 1, 1⟩ := by decide
example : ofDays 19782 = ⟨2024, 2, 29⟩ := by decide
example : ofDays 20819 = ⟨2027, 1, 1⟩ := by decide

end CalendarDate

namespace RunStamp

/-- A number in decimal, with zeros before it up to a width. -/
def padded (width value : Nat) : String :=
  let digits := toString value
  String.ofList (List.replicate (width - digits.length) '0') ++ digits

/-- The part of a second, with the point before it. -/
def fractionText (nanoseconds : Nat) : String :=
  if nanoseconds = 0 then ""
  else if nanoseconds % 1000000 = 0 then "." ++ padded 3 (nanoseconds / 1000000)
  else if nanoseconds % 1000 = 0 then "." ++ padded 6 (nanoseconds / 1000)
  else "." ++ padded 9 nanoseconds

/-- The date and time so many nanoseconds after the start of 1970, without a zone. -/
def timeText (nanoseconds : Nat) : String :=
  let seconds := nanoseconds / 1000000000
  let date := CalendarDate.ofDays (seconds / 86400)
  let inDay := seconds % 86400
  padded 4 date.year ++ "-" ++ padded 2 date.month ++ "-" ++ padded 2 date.day ++ "T" ++
    padded 2 (inDay / 3600) ++ ":" ++ padded 2 (inDay / 60 % 60) ++ ":" ++
    padded 2 (inDay % 60) ++ fractionText (nanoseconds % 1000000000)

/-- An identifier made of 16 random bytes. -/
def identifier (bytes : List UInt8) : String :=
  let marked := bytes.mapIdx fun place byte =>
    if place = 6 then (byte &&& 0x0F) ||| 0x40
    else if place = 8 then (byte &&& 0x3F) ||| 0x80
    else byte
  let group := fun (start length : Nat) =>
    Text.hexOfBytes ((marked.drop start).take length)
  "-".intercalate [group 0 4, group 4 2, group 6 2, group 8 2, group 10 6]

def ofClock (nanoseconds : Nat) (bytes : List UInt8) : RunStamp :=
  { id := identifier bytes, startedAt := timeText nanoseconds }

end RunStamp

end RuleCompiler
