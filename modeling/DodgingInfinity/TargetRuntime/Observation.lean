import DodgingInfinity.Json

/-!
# What is read of an observation

A workspace reports its task, its reviews and its diagnostics as one JSON value
that nothing vouches for.
-/

namespace DodgingInfinity.TargetRuntime

/-- A field of an object; anything else has no fields. -/
def fieldOf (value : Json) (key : String) : Json :=
  match value with
  | .object fields => (fields.lookup key).getD .null
  | _ => .null

def textOf : Json → Option String
  | .text value => some value
  | _ => none

/-- A text that is not empty. -/
def namedText (value : Json) : Option String :=
  (textOf value).filter fun text => text ≠ ""

def isObject : Json → Bool
  | .object _ => true
  | _ => false

end DodgingInfinity.TargetRuntime
