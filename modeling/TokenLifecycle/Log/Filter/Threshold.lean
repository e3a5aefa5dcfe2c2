import TokenLifecycle.Numeral.Decimal
import TokenLifecycle.Text.LetterCase

/-!
# Thresholds

How much of what happens is logged: everything up to a level, or nothing.
-/

namespace TokenLifecycle.Log

/-- A threshold, from nothing to everything. -/
inductive Threshold
  | off | error | warn | info | debug | trace
  deriving DecidableEq, Repr

namespace Threshold

/-- All thresholds, by rising detail. -/
def all : List Threshold := [off, error, warn, info, debug, trace]

/-- The name of a threshold. -/
def name : Threshold → String
  | off => "off"
  | error => "error"
  | warn => "warn"
  | info => "info"
  | debug => "debug"
  | trace => "trace"

/-- Reads a threshold: its name in any case, or its place in the order as a number. -/
def ofText? (s : String) : Option Threshold :=
  match Numeral.unsigned? s with
  | some n => all[n]?
  | none =>
    if s = "" then some error else all.find? fun t => Text.equalIgnoringCase t.name s

end Threshold

end TokenLifecycle.Log
