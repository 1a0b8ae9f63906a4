namespace PromptRelay.Transcript

def zeroPadded (width n : Nat) : List Char :=
  let digits := Nat.toDigits 10 n
  List.replicate (width - digits.length) '0' ++ digits

structure Date where
  year : Nat
  month : Nat
  day : Nat
  deriving DecidableEq, Repr

/-- The date so many days after the first day of 1970. Years are counted from March, so that the
day that some years have more is their last. -/
def Date.ofDays (days : Nat) : Date :=
  let shifted := days + 719468
  let era := shifted / 146097
  let dayOfEra := shifted % 146097
  let yearOfEra := (dayOfEra - dayOfEra / 1460 + dayOfEra / 36524 - dayOfEra / 146096) / 365
  let dayOfYear := dayOfEra - (365 * yearOfEra + yearOfEra / 4 - yearOfEra / 100)
  let month := (5 * dayOfYear + 2) / 153
  let day := dayOfYear - (153 * month + 2) / 5 + 1
  let year := yearOfEra + era * 400
  if month < 10 then ⟨year, month + 3, day⟩ else ⟨year + 1, month - 9, day⟩

def timeText (ms : Nat) : String :=
  let d := Date.ofDays (ms / 86400000)
  let seconds := ms / 1000
  String.ofList (zeroPadded 4 d.year ++ ['-'] ++ zeroPadded 2 d.month ++ ['-']
    ++ zeroPadded 2 d.day ++ ['T'] ++ zeroPadded 2 (seconds / 3600 % 24) ++ [':']
    ++ zeroPadded 2 (seconds / 60 % 60) ++ [':'] ++ zeroPadded 2 (seconds % 60) ++ ['.']
    ++ zeroPadded 3 (ms % 1000) ++ ['Z'])

end PromptRelay.Transcript
