import StorePolicy.Rule.Codec

/-!
# Summaries of checks

The outcome for one project counts the violations by severity. Programs get it as JSON; a
report on several projects is a list of outcomes.
-/
namespace StorePolicy

/-- The outcome for one project. The counts are by severity. -/
structure CheckSummary where
  root : String
  platform : Platform
  violations : List Rule
  rulesChecked : Nat
  critical : Nat
  major : Nat
  minor : Nat
  info : Nat
  /-- Milliseconds. -/
  duration : Nat
deriving Inhabited

namespace CheckSummary

def countOf (s : Severity) (violations : List Rule) : Nat := violations.countP (·.severity == s)

def ofViolations (root : String) (p : Platform) (rulesChecked : Nat) (violations : List Rule) :
    CheckSummary :=
  { root := root, platform := p, violations := violations, rulesChecked := rulesChecked,
    critical := countOf .critical violations, major := countOf .major violations,
    minor := countOf .minor violations, info := countOf .info violations, duration := 0 }

def hasBlocking (s : CheckSummary) : Bool := 0 < s.critical + s.major

def isClean (s : CheckSummary) : Bool := s.violations.isEmpty

def passed (s : CheckSummary) : Nat := s.rulesChecked - s.violations.length

/-- Two if something blocks, one for minor violations, zero otherwise. -/
def exitCode (s : CheckSummary) : Nat := if s.hasBlocking then 2 else if 0 < s.minor then 1 else 0

end CheckSummary

namespace Report

def violationJson (r : Rule) : Json :=
  .obj ([("id", .str r.id), ("severity", .str r.severity.name), ("platform", .str r.platform.name),
    ("category", .str r.category), ("title", .str r.title), ("description", .str r.description),
    ("auto_fixable", .bool r.autoFixable)] ++
    Rule.optionalMember "suggestion" r.suggestion ++ Rule.optionalMember "source_url" r.sourceUrl)

def summaryJson (s : CheckSummary) : Json :=
  .obj [("root", .str s.root), ("platform", .str s.platform.name),
    ("violations", .arr (s.violations.map violationJson)),
    ("summary", .obj [("rules_checked", .int s.rulesChecked), ("passed", .int s.passed),
      ("critical_count", .int s.critical), ("major_count", .int s.major),
      ("minor_count", .int s.minor), ("info_count", .int s.info),
      ("exit_code", .int s.exitCode), ("duration_ms", .int s.duration)])]

def summariesJson : List CheckSummary → Json
  | [s] => summaryJson s
  | ss => .arr (ss.map summaryJson)

def jsonText (indented : Bool) (j : Json) : String := if indented then j.indented else j.compact

end Report
end StorePolicy
