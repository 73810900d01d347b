/-!
# Problems

The kinds of failure, and how a failure is described that nothing is said about.
-/

namespace SqlComposer

/-- The kinds of failure: a clause that cannot give a statement, an option that is not understood,
and failures in general. -/
inductive ProblemKind where
  | general
  | malformedClause
  | unsupportedOption
deriving DecidableEq

def ProblemKind.label : ProblemKind → String
  | .general => "SQLBricksError"
  | .malformedClause => "MalformedClauseError"
  | .unsupportedOption => "UnsupportedOptionError"

/-- The detail of a failure about which nothing else is said. -/
def ProblemKind.defaultDetail : ProblemKind → String
  | .general => ""
  | .malformedClause => "Malformed SQL clause."
  | .unsupportedOption => "Unsupported dialect option."

end SqlComposer
