import CompileDesk.Text.Natural

/-! # Moments of local time

A status line shows the time of day and a saved diagram is named after the moment of saving, so that
names sort in the order of time.
-/

namespace CompileDesk

structure LocalTime where
  year : Nat
  month : Nat
  day : Nat
  hour : Nat
  minute : Nat
  second : Nat
  millisecond : Nat
  deriving DecidableEq, Repr

namespace LocalTime

def timeOfDay (t : LocalTime) : String :=
  String.ofList (Text.zeroPadded 2 t.hour ++ ':' :: Text.zeroPadded 2 t.minute ++
    ':' :: Text.zeroPadded 2 t.second)

def stamp (t : LocalTime) : String :=
  String.ofList (Text.zeroPadded 4 t.year ++ Text.zeroPadded 2 t.month ++ Text.zeroPadded 2 t.day ++
    '-' :: (Text.zeroPadded 2 t.hour ++ Text.zeroPadded 2 t.minute ++ Text.zeroPadded 2 t.second) ++
    '-' :: Text.zeroPadded 3 t.millisecond)

end LocalTime
end CompileDesk
