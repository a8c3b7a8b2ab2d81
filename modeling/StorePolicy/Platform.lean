import StorePolicy.Text.Case

/-!
# Platforms and severities

A rule is for one of the two platforms or for both, and its violation is of one of four
severities, from critical to info. The first two block a release.
-/
namespace StorePolicy

inductive Platform where
  | ios
  | android
  | both
deriving DecidableEq, Inhabited

namespace Platform

def name : Platform → String
  | .ios => "ios"
  | .android => "android"
  | .both => "both"

def all : List Platform := [.ios, .android, .both]

def ofName? (s : String) : Option Platform := all.find? (·.name == s)

def parse? (s : String) : Option Platform :=
  match Text.lowerBasic s with
  | "ios" => some .ios
  | "android" => some .android
  | "both" | "all" => some .both
  | _ => none

def unknown (s : String) : String := "Unknown platform: " ++ s

def appliesTo (p q : Platform) : Bool := p == q || p == .both || q == .both

theorem appliesTo_both (p : Platform) : p.appliesTo .both = true := by cases p <;> rfl

end Platform

inductive Severity where
  | critical
  | major
  | minor
  | info
deriving DecidableEq, Inhabited

namespace Severity

def name : Severity → String
  | .critical => "critical"
  | .major => "major"
  | .minor => "minor"
  | .info => "info"

def all : List Severity := [.critical, .major, .minor, .info]

def ofName? (s : String) : Option Severity := all.find? (·.name == s)

def parse? (s : String) : Option Severity := ofName? (Text.lowerBasic s)

def unknown (s : String) : String := "Unknown severity: " ++ s

def rank : Severity → Nat
  | .critical => 0
  | .major => 1
  | .minor => 2
  | .info => 3

def blocks : Severity → Bool
  | .critical => true
  | .major => true
  | .minor => false
  | .info => false

end Severity
end StorePolicy
