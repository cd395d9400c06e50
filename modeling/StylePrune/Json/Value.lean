/-!
# JSON values

Values as a JSON text writes them: the members of an object keep their order and their
repetitions.
-/

namespace StylePrune

namespace Json

inductive Value
  | null
  | bool (b : Bool)
  /-- A number; what it amounts to is of no use here. -/
  | number
  /-- A string, unless an escape in it is half of a surrogate pair. -/
  | string (text : Option String)
  | array (items : List Value)
  | object (members : List (String × Value))
  deriving Inhabited, Repr

namespace Value

def members (key : String) (fields : List (String × Value)) : List Value :=
  (fields.filter fun m => m.1 == key).map Prod.snd

def text? : Value → Option String
  | string text => text
  | _ => none

/-- The strings of an array that holds nothing else. -/
def texts? : List Value → Option (List String)
  | [] => some []
  | v :: rest => do return (← v.text?) :: (← texts? rest)

end Value

end Json

end StylePrune
