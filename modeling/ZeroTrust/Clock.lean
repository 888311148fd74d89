/-
# `ZeroTrust.Clock` — `SystemTime` and the connector's RFC 3339 reader

`SystemTime` and `Duration` count nanoseconds, before or after the Unix epoch.
On the platforms the connector is built for a `SystemTime` holds a signed
64-bit count of seconds, so adding a duration can overflow: `addDuration`
answers `none` where Rust's `+` panics.

`parseRfc3339` and `daysFromCivil` follow `policy/cache.rs`.  Their integers are
`i64` and the released binaries are built without overflow checks, so every
operation wraps (`i64`).

`formatRfc3339` is what the controller writes: Go's `time.RFC3339` layout, in UTC.
-/
import Mathlib.Algebra.Ring.Int.Defs
import Mathlib.Algebra.Ring.Nat
import ZeroTrust.Text

namespace ZeroTrust

/-- Nanoseconds since the Unix epoch. -/
abbrev SystemTime := Int

/-- Nanoseconds. -/
abbrev Duration := Nat

def nanosPerSec : Nat := 1000000000

/-- `SystemTime + Duration`; `none` is the panic on overflow. -/
def addDuration (t : SystemTime) (d : Duration) : Option SystemTime :=
  if t + d < 2 ^ 63 * nanosPerSec then some (t + d) else none

theorem addDuration_eq_some {t t' : SystemTime} {d : Duration} (h : addDuration t d = some t') :
    t' = t + d := by
  unfold addDuration at h
  split at h
  · exact (Option.some.inj h).symm
  · cases h

/-! ## 64-bit integers -/

/-- The `i64` an exact result wraps to. -/
def i64 (n : Int) : Int := Int.bmod n (2 ^ 64)

/-- `str::parse::<i64>`: an optional sign, then ASCII digits; out of range is an error. -/
def parseI64 (s : List Char) : Option Int :=
  let (neg, ds) := match s with
    | '+' :: r => (false, r)
    | '-' :: r => (true, r)
    | r => (false, r)
  if ds.isEmpty || !ds.all Char.isDigit then none
  else
    let m : Int := Nat.ofDigitChars 10 ds 0
    let v := if neg then -m else m
    if -2 ^ 63 ≤ v ∧ v < 2 ^ 63 then some v else none

/-! ## `parse_rfc3339` -/

/-- Days from 1970-01-01 to a date of the proleptic Gregorian calendar. -/
def daysFromCivil (y m d : Int) : Int :=
  let y := if m ≤ 2 then i64 (y - 1) else y
  let era := (if y ≥ 0 then y else i64 (y - 399)).tdiv 400
  let yoe := i64 (y - i64 (era * 400))
  let mp := if m > 2 then i64 (m - 3) else i64 (m + 9)
  let doy := i64 (i64 ((i64 (i64 (153 * mp) + 2)).tdiv 5 + d) - 1)
  let doe := i64 (i64 (i64 (i64 (yoe * 365) + yoe.tdiv 4) - yoe.tdiv 100) + doy)
  i64 (i64 (i64 (era * 146097) + doe) - 719468)

/-- `str::split_once`. -/
def splitOnce (sep : Char) (cs : List Char) : Option (List Char × List Char) :=
  match cs.dropWhile (· ≠ sep) with
  | [] => none
  | _ :: after => some (cs.takeWhile (· ≠ sep), after)

def parseRfc3339 (s : String) : Option SystemTime := do
  let s := trim s
  -- Strip trailing Z or +00:00
  let s := dropTrailing "Z" s
  let s := dropTrailing "+00:00" s
  let (datePart, timePart) ← splitOnce 'T' s.toList
  match datePart.splitOn '-', timePart.splitOn ':' with
  | y :: mo :: d :: _, h :: mi :: sec :: _ =>
      let year ← parseI64 y
      let month ← parseI64 mo
      let day ← parseI64 d
      let hour ← parseI64 h
      let min ← parseI64 mi
      let sec ← parseI64 (sec.takeWhile (· ≠ '.'))
      let days := daysFromCivil year month day
      let unixSecs :=
        i64 (i64 (i64 (i64 (days * 86400) + i64 (hour * 3600)) + i64 (min * 60)) + sec)
      if unixSecs < 0 then none else some (unixSecs * nanosPerSec)
  | _, _ => none

/-! ## Go's `time.RFC3339` layout -/

/-- Year, month and day of a day counted from 1970-01-01. -/
def civilFromDays (days : Int) : Int × Nat × Nat :=
  let z := days + 719468
  let era := z / 146097
  let doe := (z % 146097).toNat
  let yoe := (doe - doe / 1460 + doe / 36524 - doe / 146096) / 365
  let doy := doe - (365 * yoe + yoe / 4 - yoe / 100)
  let mp := (5 * doy + 2) / 153
  let d := doy - (153 * mp + 2) / 5 + 1
  let m := if mp < 10 then mp + 3 else mp - 9
  (yoe + era * 400 + if m ≤ 2 then 1 else 0, m, d)

/-- Decimal digits, with leading zeros up to a width. -/
def padded (width n : Nat) : List Char :=
  List.replicate (width - (Nat.toDigits 10 n).length) '0' ++ Nat.toDigits 10 n

/-- `t.UTC().Format(time.RFC3339)`. -/
def formatRfc3339 (t : SystemTime) : String :=
  let secs := t / nanosPerSec
  let (y, m, d) := civilFromDays (secs / 86400)
  let s := (secs % 86400).toNat
  String.ofList ((if y < 0 then ['-'] else []) ++ padded 4 y.natAbs ++ ['-'] ++ padded 2 m ++
    ['-'] ++ padded 2 d ++ ['T'] ++ padded 2 (s / 3600) ++ [':'] ++ padded 2 (s / 60 % 60) ++
    [':'] ++ padded 2 (s % 60) ++ ['Z'])

example : formatRfc3339 (1735690200 * nanosPerSec) = "2025-01-01T00:10:00Z" := by decide

end ZeroTrust
