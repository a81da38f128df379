

/-! Instants in universal time, by civil date. A leap second is a fraction of a second or more
past the last second of a minute. -/
namespace RegistrySeeding.Time

structure Date where
  year : Int
  month : Nat
  day : Nat
  deriving DecidableEq, Repr

def isLeap (year : Int) : Bool := year % 4 = 0 && (year % 100 ≠ 0 || year % 400 = 0)

def monthLength (year : Int) (month : Nat) : Nat :=
  if month = 2 then if isLeap year then 29 else 28
  else if month = 4 ∨ month = 6 ∨ month = 9 ∨ month = 11 then 30
  else 31

def yearInRange (year : Int) : Bool := -262143 ≤ year && year ≤ 262142

def Date.valid (d : Date) : Bool :=
  yearInRange d.year && 1 ≤ d.month && d.month ≤ 12 && 1 ≤ d.day
    && d.day ≤ monthLength d.year d.month

def Date.next (d : Date) : Date :=
  if d.day < monthLength d.year d.month then { d with day := d.day + 1 }
  else if d.month < 12 then ⟨d.year, d.month + 1, 1⟩
  else ⟨d.year + 1, 1, 1⟩

def Date.previous (d : Date) : Date :=
  if 1 < d.day then { d with day := d.day - 1 }
  else if 1 < d.month then ⟨d.year, d.month - 1, monthLength d.year (d.month - 1)⟩
  else ⟨d.year - 1, 12, 31⟩

structure Instant where
  date : Date
  second : Nat
  nano : Nat
  deriving DecidableEq, Repr

def daySeconds : Nat := 86400

def Date.ofMarchDays (days : Int) : Date :=
  let cycle := days / 146097
  let inCycle := (days % 146097).toNat
  let years := (inCycle - inCycle / 1460 + inCycle / 36524 - inCycle / 146096) / 365
  let inYear := inCycle - (365 * years + years / 4 - years / 100)
  let m := (5 * inYear + 2) / 153
  let day := inYear - (153 * m + 2) / 5 + 1
  let month := if m < 10 then m + 3 else m - 9
  ⟨years + cycle * 400 + (if month ≤ 2 then 1 else 0), month, day⟩

def Instant.ofUnix (seconds : Int) (nano : Nat) : Instant :=
  ⟨Date.ofMarchDays (seconds / daySeconds + 719468), (seconds % daySeconds).toNat, nano⟩

def Instant.ofLocal (wall : Instant) (east : Int) : Instant :=
  let second := (wall.second : Int) - east
  if second < 0 then
    { wall with date := wall.date.previous, second := (second + daySeconds).toNat }
  else if (daySeconds : Int) ≤ second then
    { wall with date := wall.date.next, second := (second - daySeconds).toNat }
  else { wall with second := second.toNat }

def Date.notAfter (a b : Date) : Bool :=
  a.year < b.year
    || (a.year = b.year && (a.month < b.month || (a.month = b.month && a.day ≤ b.day)))

def Instant.notAfter (a b : Instant) : Bool :=
  if a.date = b.date then a.second < b.second || (a.second = b.second && a.nano ≤ b.nano)
  else a.date.notAfter b.date

def padZeros (width n : Nat) : String :=
  let digits := Nat.toDigits 10 n
  String.ofList (List.replicate (width - digits.length) '0' ++ digits)

def yearText (year : Int) : String :=
  if 0 ≤ year ∧ year ≤ 9999 then padZeros 4 year.toNat
  else (if year < 0 then "-" else "+") ++ padZeros 4 year.natAbs

def fractionText (nano : Nat) : String :=
  if nano = 0 then ""
  else if nano % 1000000 = 0 then "." ++ padZeros 3 (nano / 1000000)
  else if nano % 1000 = 0 then "." ++ padZeros 6 (nano / 1000)
  else "." ++ padZeros 9 nano

def Instant.text (t : Instant) : String :=
  let leap := t.nano / 1000000000
  yearText t.date.year ++ "-" ++ padZeros 2 t.date.month ++ "-" ++ padZeros 2 t.date.day
    ++ "T" ++ padZeros 2 (t.second / 3600) ++ ":" ++ padZeros 2 (t.second / 60 % 60)
    ++ ":" ++ padZeros 2 (t.second % 60 + leap) ++ fractionText (t.nano % 1000000000) ++ "Z"

end RegistrySeeding.Time
