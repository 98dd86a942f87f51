import BranchVersion.LogFilter.Directive
import BranchVersion.Text.Pieces

/-!
Log filters: directives between commas. Of the directives that cover an event the most specific one
decides, and of two equally specific ones the later.
-/
namespace BranchVersion

structure LogFilter where
  directives : List Directive
  deriving DecidableEq

namespace LogFilter

/-- What holds unless a readable filter is given. -/
def standard : LogFilter := ⟨[⟨[], none, .warn⟩]⟩

/-- One directive that cannot be read spoils the whole filter. -/
def ofString? (s : String) : Option LogFilter :=
  (((Text.pieces ',' s.toList).filter (!·.isEmpty)).mapM Directive.read?).map
    fun ds => ⟨ds.filterMap id⟩

def ofSetting (setting : Option String) : LogFilter := (setting.bind ofString?).getD standard

def decisive? (f : LogFilter) (e : Event) : Option Directive :=
  (f.directives.filter (·.covers e)).foldl
    (fun best d =>
      match best with
      | none => some d
      | some b => if b.isOutranked d then some d else some b)
    none

/-- Whether an event is shown, all events being of the level `debug`. -/
def shows (f : LogFilter) (e : Event) : Bool :=
  match f.decisive? e with
  | none => false
  | some d => Level.debug.rank ≤ d.level.rank

end LogFilter
end BranchVersion
