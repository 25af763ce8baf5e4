import ScreenRoutes.Grammar.Depth
import ScreenRoutes.ScreenFunction.Fault
import ScreenRoutes.Value

/-!
# Default values

The value that an attribute such as `default_int` gives a parameter. A string and a truth value
stand alone between the parentheses. For an integer any expression may stand there, but only an
integer literal counts, with a minus sign in front of it or without.

| here | there |
| --- | --- |
| `Attribute.defaultValue` | `default_literal` |
| `readInteger`, `integerDefault` | `int_literal` |
-/

namespace ScreenRoutes

open Reading

/-! ## Values -/

def greatestMagnitude : Nat :=
  Nat.pow 2 63 - 1

/-- An integer of the given magnitude as a number of 32 bits. -/
def integerDefault (negative : Bool) (magnitude : Nat) : Except ScreenFault Int32 :=
  if greatestMagnitude < magnitude then .error .hugeInteger
  else
    match Text.int32? (if negative then -magnitude else magnitude) with
    | some n => .ok n
    | none => .error .wideInteger

/-- The sign and the magnitude of an expression that is an integer literal, with a minus sign in front
or without. -/
def ExprForm.integer? : ExprForm → Option (Bool × Nat)
  | .literal text => (integerValue? text).map fun n => (false, n)
  | .negated text => (integerValue? text).map fun n => (true, n)
  | _ => none

/-- The number of 32 bits that an expression is. -/
def readInteger (ts : Tokens) : Except ScreenFault Int32 := do
  let e ← liftFault (whole ((Grammar.ofTokens ts).expr true) ts)
  match e.form.integer? with
  | some (negative, magnitude) => integerDefault negative magnitude
  | none => throw .notInteger

/-- The value that an attribute of the given name gives a parameter. -/
def readDefault (name : String) (ts : Tokens) : Except ScreenFault Value :=
  match name with
  | "default_string" => do return .string (← liftFault (whole string ts))
  | "default_int" => do return .int (← readInteger ts)
  | _ => do return .bool (← liftFault (whole truth ts))

def Attribute.defaultValue (a : Attribute) : Except ScreenFault Value :=
  let name := a.name.getD ""
  match a.input with
  | .none => .error (.bareDefault name)
  | .value => .error (.assignedDefault name)
  | .arguments ts => readDefault name ts

end ScreenRoutes
