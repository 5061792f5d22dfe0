/-
  VclReview/Audit/Listing.lean
  ============================
  **Listings of configurations.**  A row that speaks of the active configuration
  has its header as fourth word; a shorter row has none.
-/
import VclReview.Text.Blank
import VclReview.Text.Lines

namespace VclReview

/-- The header of one row of a listing. -/
def rowHeader? (row : Text) : Option Text :=
  if Text.contains "active" row then (Text.words row)[3]? else none

/-- The headers of a listing, in the order of its rows. -/
def listedHeaders (listing : Text) : List Text := (Text.rows listing).filterMap rowHeader?

end VclReview
