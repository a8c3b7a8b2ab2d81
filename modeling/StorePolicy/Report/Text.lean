import StorePolicy.Engine.Check

/-!
# Reports for people

A report names the project, lists the violations with what to do about them, and ends with
the counts and the time taken. Colours are escape sequences of terminals. A text that itself
ends a colour has the colour set again behind that place.
-/
namespace StorePolicy.Report

inductive Paint where
  | red
  | boldRed
  | green
  | boldGreen
  | yellow
  | boldYellow
  | blue
  | boldBlue
  | cyan
  | boldCyan
  | underline
deriving DecidableEq

namespace Paint

def code : Paint → String
  | .red => "31"
  | .boldRed => "1;31"
  | .green => "32"
  | .boldGreen => "1;32"
  | .yellow => "33"
  | .boldYellow => "1;33"
  | .blue => "34"
  | .boldBlue => "1;34"
  | .cyan => "36"
  | .boldCyan => "1;36"
  | .underline => "4"

def escape (code : String) : String := "\x1b[" ++ code ++ "m"

def reset : String := escape "0"

def restore (start : List Char) : List Char → List Char
  | [] => []
  | '\x1b' :: '[' :: '0' :: 'm' :: rest => '\x1b' :: '[' :: '0' :: 'm' :: start ++ restore start rest
  | c :: rest => c :: restore start rest

def apply (p : Paint) (colored : Bool) (s : String) : String :=
  if colored then
    let start := escape p.code
    start ++ String.ofList (restore start.toList s.toList) ++ reset
  else s

end Paint

structure TextStyle where
  colored : Bool
  showDescription : Bool
  showSuggestions : Bool
  showStats : Bool

namespace TextStyle

def usual : TextStyle := ⟨true, true, true, true⟩

def plain (s : TextStyle) : TextStyle := { s with colored := false }

def severityPaint : Severity → Paint
  | .critical => .boldRed
  | .major => .red
  | .minor => .yellow
  | .info => .blue

def plural (count : Nat) (word : String) : String :=
  toString count ++ " " ++ word ++ (if count = 1 then "" else "s")

def violation (style : TextStyle) (r : Rule) : String :=
  let head := "  " ++ (severityPaint r.severity).apply style.colored r.severity.name ++ "[" ++
    Paint.cyan.apply style.colored r.id ++ "]: " ++ r.title ++ "\n"
  let description :=
    if style.showDescription && !r.description.isEmpty then "      " ++ r.description ++ "\n" else ""
  let suggestion := match style.showSuggestions, r.suggestion with
    | true, some s => "      " ++ Paint.green.apply style.colored "fix" ++ ": " ++ s ++ "\n"
    | _, _ => ""
  let source := match r.sourceUrl with
    | some url => "      see " ++ url ++ "\n"
    | none => ""
  head ++ description ++ suggestion ++ source

def counts (style : TextStyle) (s : CheckSummary) : List String :=
  let all : List (Nat × Paint × String) :=
    [(s.critical, .red, "critical"), (s.major, .red, "major"), (s.minor, .yellow, "minor"),
      (s.info, .blue, "info")]
  (all.filter fun c => 0 < c.1).map fun c =>
    c.2.1.apply style.colored (toString c.1 ++ " " ++ c.2.2)

def seconds (milliseconds : Nat) : String :=
  let whole := Float.ofNat (milliseconds / 1000)
  let part := Float.ofNat (milliseconds % 1000 * 1000000) / 1000000000.0
  Decimal.fixed 2 ⟨(whole + part).toBits⟩

def stats (style : TextStyle) (s : CheckSummary) : String :=
  let counts := style.counts s
  "\n" ++ plural s.rulesChecked "rule" ++ " checked, " ++ toString s.passed ++ " passed" ++
    (if counts.isEmpty then "" else ": " ++ ", ".intercalate counts) ++ "\n" ++
    "Finished in " ++ seconds s.duration ++ "s\n"

def summary (style : TextStyle) (s : CheckSummary) : String :=
  let head := Paint.underline.apply style.colored (s.root ++ " (" ++ s.platform.name ++ ")") ++ "\n"
  head ++ String.join (s.violations.map style.violation) ++
    (if style.showStats then style.stats s else "")

def summaries (style : TextStyle) (ss : List CheckSummary) : String :=
  "\n".intercalate (ss.map style.summary)

end TextStyle
end StorePolicy.Report
