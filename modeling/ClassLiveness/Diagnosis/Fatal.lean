import ClassLiveness.Diagnosis.Error

/-!
# Fatal reports

An agent that cannot go on without trustworthy tracking hands an error to a
reporter, and the reporter does not return.  What the reporter is told is the
error's kind and its text (`TrackingError.report`); the one that ends the
process prints them on one line first (`FatalReport.diagnostic`).
-/

set_option autoImplicit false

namespace ClassLiveness

/-- What a reporter of fatal errors is told. -/
structure FatalReport where
  kind : ErrorKind
  message : String
deriving DecidableEq

/-- The report of an error. -/
def TrackingError.report (error : TrackingError) : FatalReport := ⟨error.kind, error.message⟩

/-- The line that is printed before the process is ended. -/
def FatalReport.diagnostic (report : FatalReport) : String :=
  "[class-track] FATAL ERROR (" ++ report.kind.name ++ "): " ++ report.message ++ "\n"

/-- The value of a result; an error ends the process with its diagnostic
instead, which is then all that is left. -/
def orExit {α : Type} (result : Except TrackingError α) : Except String α :=
  result.mapError fun error => error.report.diagnostic

end ClassLiveness
