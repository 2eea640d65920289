import SkipChecks.Text.Basic

/-!
# Times

A time of day as it goes into manifests, in universal time.
-/

namespace SkipChecks.Time

/-- The year, month and day that come so many days after the first of January 1970. Years are
counted from March on, so that the day that leap years add is their last one. -/
def date (days : Nat) : Nat × Nat × Nat :=
  let days := days + 719468
  let era := days / 146097
  let day := days % 146097
  let year := (day - day / 1460 + day / 36524 - day / 146096) / 365
  let day := day - (365 * year + year / 4 - year / 100)
  let month := (5 * day + 2) / 153
  let day := day - (153 * month + 2) / 5 + 1
  if month < 10 then (era * 400 + year, month + 3, day) else (era * 400 + year + 1, month - 9, day)

def twoDigits (n : Nat) : Text := (if n < 10 then ['0'] else []) ++ Text.ofNat n

/-- The time so many seconds after the start of 1970. -/
def ofSeconds (seconds : Nat) : Text :=
  let (year, month, day) := date (seconds / 86400)
  let second := seconds % 86400
  Text.join ['-'] [Text.ofNat year, twoDigits month, twoDigits day] ++ 'T' ::
    Text.join [':'] [twoDigits (second / 3600), twoDigits (second / 60 % 60), twoDigits (second % 60)] ++
    "+00:00".toList

example : ofSeconds 951782400 = "2000-02-29T00:00:00+00:00".toList := by decide +kernel

end SkipChecks.Time
