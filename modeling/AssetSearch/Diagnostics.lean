/-
# Diagnostic output

Which diagnostic messages are written: a list of directives, separated by commas, gives levels to
parts of the program.  Of the directives that fit a message the most special one decides; where none
fits, nothing is written.

Key definitions: `Diagnostics.Filter`, `Filter.parse?`, `Filter.choose` and `Filter.isEnabled`.
-/
import AssetSearch.Diagnostics.Directive

namespace AssetSearch.Diagnostics

/-- Directives, of which a later one replaces an equally special one. -/
abbrev Filter : Type :=
  List Directive

namespace Filter

/-- The filter that a text describes; every piece that is not empty has to be a directive. -/
def parse? (s : String) : Option Filter :=
  ((Text.pieces ',' s.toList).filter fun p => !p.isEmpty).mapM Directive.parse?

/-- The directive that decides about a target, given the best one so far. -/
def decisive (target : List Char) (best : Option Directive) : Filter → Option Directive
  | [] => best
  | d :: rest =>
    if d.isGeneral && d.fits target && best.all d.outranks then decisive target (some d) rest
    else decisive target best rest

/-- Whether messages of a level are written for a target. -/
def isEnabled (f : Filter) (target : String) (level : Level) : Bool :=
  match decisive target.toList none f with
  | none => false
  | some d => level.rank ≤ d.rank

/-- The filter in force: the one that the environment describes, or else the program's own messages
up to `info`, or up to `debug` if that is asked for. -/
def choose (own : String) (debug : Bool) (environment : Option String) : Filter :=
  (environment.bind parse?).getD
    [⟨some own.toList, none, none, if debug then Level.debug.rank else Level.info.rank⟩]

end Filter

/-- Diagnostic output can be set up once: the filter in force afterwards, and whether this call set
it. -/
def install (inForce : Option Filter) (own : String) (debug : Bool)
    (environment : Option String) : Filter × Bool :=
  match inForce with
  | some f => (f, false)
  | none => (Filter.choose own debug environment, true)

end AssetSearch.Diagnostics
