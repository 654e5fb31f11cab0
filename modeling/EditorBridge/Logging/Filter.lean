import EditorBridge.Logging.Directive

/-!
# Filters

The filters of the `tracing-subscriber` library, and the default one of the bridge (specification,
9.1).  The rules are `Filter.deciding?_eq_some_iff` and `Filter.admits_choose_none`; what the editor
reads depends on none of them.

A filter is a list of directives, separated by commas in writing.  Of those that concern a record
the most specific one decides, and of several equal ones the last; a record that none concerns is
not admitted.
-/
namespace EditorBridge.Logging

abbrev Filter := List Directive

namespace Filter

def splitCommas : List Char → List (List Char)
  | [] => [[]]
  | c :: rest =>
      if c = ',' then [] :: splitCommas rest
      else match splitCommas rest with
        | [] => [[c]]
        | part :: parts => (c :: part) :: parts

/-- The filter that a text stands for; one bad directive spoils it all. -/
def parse? (text : String) : Option Filter :=
  ((splitCommas text.toList).filter (· ≠ [])).mapM Directive.parse?

def deciding? (filter : Filter) (record : Record) : Option Directive :=
  filter.foldl
    (fun best directive =>
      if directive.concerns record && best.all directive.atLeast then some directive else best)
    none

def admits (filter : Filter) (record : Record) : Bool :=
  (filter.deciding? record).any fun directive => directive.threshold.admits record.level

/-- The directives when nobody gives any. -/
def defaultText (verbose : Bool) : String :=
  if verbose then "dmypy_bridge=debug,info" else "dmypy_bridge=info,warn"

/-- The filter that the environment asks for, or else the default one. -/
def choose (environment : Option String) (verbose : Bool) : Filter :=
  ((environment.bind parse?).or (parse? (defaultText verbose))).getD [.all (some .info)]

end Filter

end EditorBridge.Logging
