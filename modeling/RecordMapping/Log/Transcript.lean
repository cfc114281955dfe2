import RecordMapping.Log.Filter

/-!
# RecordMapping.Log.Transcript — the lines of a log

All events happen inside one span.  The events that the filter admits become lines, with the span
where the filter admits it.  In the JSON layout a last line tells that the span has ended.
-/

namespace RecordMapping.Log

structure Settings where
  filter : Filter
  layout : Layout
  colour : Bool
  deriving DecidableEq, Repr

namespace Settings

/-- The span as the log shows it. -/
def shownSpan (s : Settings) (span : Span) : Option Span :=
  if s.filter.admitsSpan span then some span else none

def admitted (s : Settings) (span : Span) (events : List Event) : List Event :=
  events.filter fun e => s.filter.admitsEvent span e

def closingLine (clock : Clock) (span : Span) : String :=
  (jsonObject clock span.level [("message", .string "close"), ("time.busy", .string clock.busy),
    ("time.idle", .string clock.idle)] (some span) []).render

def closingLines (s : Settings) (clock : Clock) (span : Span) : List String :=
  if s.layout = .json ∧ s.filter.admitsSpan span = true then [closingLine clock span] else []

def transcript (s : Settings) (clock : Clock) (span : Span) (events : List Event) : List String :=
  (s.admitted span events).map (line s.layout s.colour clock (s.shownSpan span)) ++
    s.closingLines clock span

end Settings

end RecordMapping.Log
