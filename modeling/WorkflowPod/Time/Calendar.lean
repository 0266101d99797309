/-! The proleptic Gregorian calendar: dates and days counted from 1970-01-01. -/
namespace WorkflowPod.Time

def isLeapYear (year : Int) : Bool :=
  year % 4 == 0 && (year % 100 != 0 || year % 400 == 0)

def monthLength (year : Int) (month : Nat) : Nat :=
  match month with
  | 1 | 3 | 5 | 7 | 8 | 10 | 12 => 31
  | 4 | 6 | 9 | 11 => 30
  | 2 => if isLeapYear year then 29 else 28
  | _ => 0

structure Date where
  year : Int
  month : Nat
  day : Nat
  deriving DecidableEq, Repr

def Date.isValid (d : Date) : Bool :=
  1 ≤ d.day && d.day ≤ monthLength d.year d.month

/-- Days from 1970-01-01 to a date. Years are counted from March in spans of four centuries. -/
def Date.dayNumber (d : Date) : Int :=
  let year := if d.month ≤ 2 then d.year - 1 else d.year
  let span := year.fdiv 400
  let yearOfSpan := year - span * 400
  let month := (d.month + 9) % 12
  let dayOfYear : Int := (153 * month + 2) / 5 + d.day - 1
  let dayOfSpan := yearOfSpan * 365 + yearOfSpan.fdiv 4 - yearOfSpan.fdiv 100 + dayOfYear
  span * 146097 + dayOfSpan - 719468

def Date.ofDayNumber (n : Int) : Date :=
  let z := n + 719468
  let span := z.fdiv 146097
  let dayOfSpan := z - span * 146097
  let yearOfSpan := (dayOfSpan - dayOfSpan.fdiv 1460 + dayOfSpan.fdiv 36524
    - dayOfSpan.fdiv 146096).fdiv 365
  let dayOfYear := dayOfSpan - (365 * yearOfSpan + yearOfSpan.fdiv 4 - yearOfSpan.fdiv 100)
  let monthFromMarch := (5 * dayOfYear + 2).fdiv 153
  let day := dayOfYear - (153 * monthFromMarch + 2).fdiv 5 + 1
  let month := if monthFromMarch < 10 then monthFromMarch + 3 else monthFromMarch - 9
  let year := yearOfSpan + span * 400
  ⟨if month ≤ 2 then year + 1 else year, month.toNat, day.toNat⟩

end WorkflowPod.Time
