import Std.Time.DateTime.Timestamp
import TagSearch.Calendar.Date

/-!
# The clock

The day on which a query is asked is the date in UTC.
-/

namespace TagSearch.Console

/-- Today in UTC. -/
def today : IO Calendar.Date := do
  let now ← Std.Time.Timestamp.now
  return .ofDayNumber (now.toSecondsSinceUnixEpoch.val / 86400)

end TagSearch.Console
