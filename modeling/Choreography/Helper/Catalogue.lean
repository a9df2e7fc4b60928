import Choreography.Helper.Loader
import Choreography.Number.Decimal

/-!
# A catalogue of helpers

The helpers that come with the command line, `spring` and `stagger`, and three
plain ones for trying out directives: a sum, one without a value, and one that
gives its arguments back.
-/

namespace Choreography.Helper

/-- The argument at a position if it is a number, and a number for when it is
not. -/
def numberAt (arguments : List Value) (position : Nat) (fallback : Number) : Number :=
  (arguments[position]?.bind Value.number?).getD fallback

/-- A spring with a stiffness and a damping. -/
def spring : Helper := fun arguments =>
  .object
    [("type", .string "spring"),
      ("stiffness", .number (numberAt arguments 0 (Number.ofNat 100))),
      ("damping", .number (numberAt arguments 1 (Number.ofNat 10)))]

/-- A delay between one element and the next. -/
def stagger : Helper := fun arguments =>
  .object
    [("type", .string "stagger"),
      ("each", .number (numberAt arguments 0 (Decimal.toNumber false ⟨1, -1⟩)))]

/-- The sum of the numbers among the arguments, from left to right. -/
def sum : Helper := fun arguments =>
  .number ((arguments.filterMap Value.number?).foldl Number.add Number.zero)

/-- No value, whatever the arguments. -/
def nothing : Helper := fun _ => .undefined

/-- The arguments themselves. -/
def echo : Helper := fun arguments => .array arguments

/-- The helper of the command line with the given name. -/
def builtin? (name : String) : Option Helper :=
  if name = "spring" then some spring
  else if name = "stagger" then some stagger
  else none

/-- A helper for any name: a known one, or one that gives its arguments back. -/
def named (name : String) : Helper :=
  if name = "sum" then sum
  else if name = "undef" then nothing
  else (builtin? name).getD echo

/-- The built-in helpers, at once or after a number of polls. -/
def builtinSource (latency : Nat) : HelperSource := fun name =>
  match builtin? name with
  | none => .missing
  | some helper =>
    if latency = 0 then .ready helper else .later (some (latency, some helper))

end Choreography.Helper
