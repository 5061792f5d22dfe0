/-
  VclReview/Audit/Wait.lean
  =========================
  **Waiting for a program.**  The seconds to wait are counted in milliseconds,
  rounded up, by a clock of nanoseconds in 64 bits and a timer of milliseconds in
  32 bits.  A time that either cannot hold is an error, but only once there is a
  program to wait for.  A whole number of seconds may even be beyond all doubles
  (`Seconds.toFloat?`).  Both limits are whole numbers, so it makes no difference
  to them whether the milliseconds have been rounded.

  How fast a machine is belongs to a `Clock`.
-/
import VclReview.Disk.Launch
import VclReview.Numeral.Real
import VclReview.Setting

namespace VclReview

/-- A number of seconds. -/
inductive Seconds where
  | whole (count : Int)
  /-- A real number, which may be infinite or none at all. -/
  | real (count : Float)

namespace Seconds

/-- The nearest double; it is infinite for a whole number beyond all doubles. -/
def toFloat : Seconds → Float
  | whole (.ofNat n) => Numeral.nearest n 0
  | whole (.negSucc n) => -Numeral.nearest (n + 1) 0
  | real count => count

/-- The nearest double, unless a whole number is beyond all doubles. -/
def toFloat? : Seconds → Option Float
  | whole count =>
    let nearest := toFloat (whole count)
    if nearest.isInf then none else some nearest
  | real count => some count

end Seconds

/-- Why a program cannot be waited for. -/
inductive WaitError where
  /-- There is no number of seconds. -/
  | unset
  | beyondDoubles
  | notANumber
  | endless
  /-- The clock cannot hold the time. -/
  | beyondClock
  | beyondTimer
  deriving DecidableEq

def WaitError.message : WaitError → Text
  | .unset => "unsupported operand type(s) for +: 'float' and 'list'"
  | .beyondDoubles => "int too large to convert to float"
  | .notANumber => "cannot convert float NaN to integer"
  | .endless => "cannot convert float infinity to integer"
  | .beyondClock => "timestamp too large to convert to C _PyTime_t"
  | .beyondTimer => "timeout is too large"

/-- How fast a machine is when it waits for programs. -/
structure Clock where
  /-- The greatest number of seconds in which no program can end. -/
  tooBrief : Float
  /-- How many seconds pass between the start of a program and the waiting for it. -/
  spent : Float
  /-- No time is won by starting a program. -/
  spent_nonneg : 0 ≤ spent
  /-- A program that has just been started has not ended. -/
  spent_le_tooBrief : spent ≤ tooBrief

/-- The clock of a machine that needs no time to start a program. -/
def Clock.instant : Clock where
  tooBrief := 0
  spent := 0
  spent_nonneg := by decide +kernel
  spent_le_tooBrief := by decide +kernel

/-- How long a program is waited for. -/
inductive Wait where
  /-- So briefly that no program can end in the meantime. -/
  | none
  /-- Long enough for every program that ends at all. -/
  | enough
  deriving DecidableEq

namespace Wait

/-- The greatest number of milliseconds that the clock can hold. -/
def clockLimit : Float := 9223372036854

/-- The greatest number of milliseconds that the timer can hold. -/
def timerLimit : Float := 2147483647

/-- The wait of the given number of seconds. -/
def ofSeconds (clock : Clock) (seconds : Float) : Except WaitError Wait :=
  let milliseconds := (seconds - clock.spent) * 1000
  if seconds.isNaN then .error .notANumber
  else if seconds ≤ clock.tooBrief then .ok .none
  else if milliseconds.isInf then .error .endless
  else if clockLimit < milliseconds then .error .beyondClock
  else if timerLimit < milliseconds then .error .beyondTimer
  else .ok .enough

end Wait

/-- How running a program ends if it is waited for so many seconds. -/
def Launch.within (clock : Clock) (seconds : Setting Seconds) : Launch → Except WaitError Launch
  | .nulInArgument => .ok .nulInArgument
  | .refused fault => .ok (.refused fault)
  | launch =>
    match seconds with
    | .blank => .error .unset
    | .value seconds =>
      match seconds.toFloat? with
      | none => .error .beyondDoubles
      | some count =>
        (Wait.ofSeconds clock count).map fun
          | .none => .timedOut
          | .enough => launch

end VclReview
