/-
  VclReview/Audit/Advice.lean
  ===========================
  **Advice on headers.**  A few headers have advice of their own, which their
  exact names select; every other header gets the same general advice.
-/
import VclReview.Text.Basic

namespace VclReview

/-- The headers with advice of their own. -/
def headerAdvice : List (Text × Text) :=
  [("X-Forwarded-For",
    "Recommendation: Ensure the X-Forwarded-For header is set correctly to track the client's IP address."),
   ("Cache-Control",
    "Recommendation: Use the Cache-Control header to manage caching directives."),
   ("Authorization",
    "Recommendation: Be cautious with the Authorization header, ensure it doesn't cache sensitive data.")]

def advise (header : Text) : Text :=
  match headerAdvice.lookup header with
  | some advice => advice
  | none => "Recommendation: Review the header '" ++ header ++ "' for appropriate use."

/-- What to print about the headers of the active configuration. -/
def auditHeaders (headers : List Text) : List Text :=
  if headers = [] then ["No HTTP headers set in the active VCL."]
  else
    "Checking HTTP headers set in the active VCL:"
      :: headers.flatMap fun header => ["Header: " ++ header, advise header]

end VclReview
