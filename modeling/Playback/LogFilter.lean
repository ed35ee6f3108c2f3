import Playback.Config
import Playback.LogDirective

set_option autoImplicit false

namespace Playback

/-- Directives between commas. Of those that select a record the one that asks most closely decides,
and of equal ones the last; what no directive selects is not shown. -/
structure LogFilter where
  directives : List LogDirective := []
  deriving DecidableEq, Repr

namespace LogFilter

/-- A filter has no directive that cannot be read. -/
def parse? (text : String) : Option LogFilter :=
  (((text.splitOn ",").filter fun part => !part.isEmpty).mapM LogDirective.ofText?).map
    fun directives => { directives }

/-- The default stands in for a filter that cannot be read. -/
def ofText (text : String) : LogFilter :=
  ((parse? text).orElse fun _ => parse? defaultLogFilter).getD {}

/-- Of the filters that the roles of a process ask for only the first takes effect. -/
def ofTexts (texts : List String) : LogFilter := (texts.head?.map ofText).getD {}

/-- The directive that decides on a record. -/
def deciding? (filter : LogFilter) (record : Record) : Option LogDirective :=
  (filter.directives.filter fun one => one.selects record).foldl (fun best one =>
    if best.all fun best => best.yieldsTo one then some one else best) none

def shows (filter : LogFilter) (record : Record) : Bool :=
  (filter.deciding? record).any fun one => record.level.detail ≤ one.detail

/-- The lines of a log, as one thread writes them. -/
def lines (filter : LogFilter) (thread : String) (records : List Record) : List String :=
  (records.filter filter.shows).map (Record.line thread)

end LogFilter

end Playback
