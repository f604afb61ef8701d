import Faucet.Failure
import Faucet.Binary64.Basic

/-!
Moments and spans of time in microseconds. A moment counts from the start of 1970 and lies in the
years 1 to 9999; a span is shorter than a thousand million days.
-/

set_option autoImplicit false

namespace Faucet

abbrev Moment := Int

abbrev Span := Int

namespace Moment

def first : Moment := -62135596800000000

def last : Moment := 253402300799999999

def ofMicroseconds (n : Int) : Except Failure Moment :=
  if first ≤ n ∧ n ≤ last then .ok n else .error (.defect (.overflow "date value out of range"))

def before (m : Moment) (s : Span) : Except Failure Moment := ofMicroseconds (m - s)

/-- Year, month and day of a day counted from the start of 1970. Years are taken to begin in March,
so that the leap day is the last of its year. -/
def civil (day : Int) : Int × Int × Int :=
  let z := day + 719468
  let era := Int.fdiv z 146097
  let dayOfEra := z - era * 146097
  let yearOfEra := (dayOfEra - dayOfEra / 1460 + dayOfEra / 36524 - dayOfEra / 146096) / 365
  let dayOfYear := dayOfEra - (365 * yearOfEra + yearOfEra / 4 - yearOfEra / 100)
  let monthFromMarch := (5 * dayOfYear + 2) / 153
  let dayOfMonth := dayOfYear - (153 * monthFromMarch + 2) / 5 + 1
  let month := if monthFromMarch < 10 then monthFromMarch + 3 else monthFromMarch - 9
  (yearOfEra + era * 400 + (if month ≤ 2 then 1 else 0), month, dayOfMonth)

def clockText (seconds : Nat) : Text :=
  Text.padded 2 (seconds / 3600) ++ ":" ++ Text.padded 2 (seconds / 60 % 60) ++ ":"
    ++ Text.padded 2 (seconds % 60)

def text (m : Moment) : Text :=
  let seconds := Int.fdiv m 1000000
  let day := Int.fdiv seconds 86400
  let (year, month, dayOfMonth) := civil day
  Text.ofInt year ++ "-" ++ Text.padded 2 month.toNat ++ "-" ++ Text.padded 2 dayOfMonth.toNat
    ++ " " ++ clockText (seconds - day * 86400).toNat

end Moment

namespace Span

def day : Span := 86400000000

def hours (n : Int) : Span := n * 3600000000

def ofMicroseconds (n : Int) : Except Failure Span :=
  let days := Int.fdiv n day
  if days < -2147483648 ∨ 2147483647 < days then
    .error (.defect (.overflow "Python int too large to convert to C int"))
  else if days < -999999999 ∨ 999999999 < days then
    .error (.defect (.overflow
      ("days=" ++ Text.ofInt days ++ "; must have magnitude <= 999999999")))
  else .ok n

/-- A count and what there is beside it, rounded together. A half makes the whole count even. -/
def roundTogether (whole : Nat) : Binary64 → Nat
  | .finite _ m e =>
    let floor := whole + Binary64.floorMagnitude m e
    let unit := twoTo (-e).toNat
    let rest := m % unit
    if 2 * rest < unit then floor
    else if unit < 2 * rest then floor + 1
    else if floor % 2 = 0 then floor else floor + 1
  | _ => whole

/-- Microseconds in a magnitude of seconds. The part of a second is turned into microseconds as a
binary number before it is rounded. -/
def microseconds (m : Nat) (e : Int) : Nat :=
  let unit := twoTo (-e).toNat
  roundTogether (Binary64.floorMagnitude m e * 1000000)
    (.ofRatio false (m % unit * 1000000) unit)

def ofSeconds : Binary64 → Except Failure Span
  | .nan => .error (.defect (.value "cannot convert float NaN to integer"))
  | .infinite _ => .error (.defect (.overflow "cannot convert float infinity to integer"))
  | .finite n m e =>
    let micros : Nat := microseconds m e
    ofMicroseconds (if n then -(micros : Int) else micros)

def daysText (days : Int) : Text :=
  if days = 0 then []
  else Text.ofInt days ++ (if days.natAbs = 1 then " day, " else " days, ")

def text (s : Span) : Text :=
  let days := Int.fdiv s day
  let rest := (s - days * day).toNat
  let seconds := rest / 1000000
  let micros := rest % 1000000
  daysText days ++ Text.ofNat (seconds / 3600) ++ ":" ++ Text.padded 2 (seconds / 60 % 60) ++ ":"
    ++ Text.padded 2 (seconds % 60)
    ++ (if micros = 0 then [] else "." ++ Text.padded 6 micros : Text)

end Span

/-- The moment so many microseconds after the start of 1970: they have to make up a span first. -/
def Moment.sinceEpoch (us : Int) : Except Failure Moment := do
  Moment.ofMicroseconds (← Span.ofMicroseconds us)

end Faucet
