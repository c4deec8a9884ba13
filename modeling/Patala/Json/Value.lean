/-! JSON values and the accessors that read them. -/

namespace Patala.Json

/-- `serde_json::Value`. An object lists its members under distinct keys; a number
keeps its literal, which no accessor here reads. -/
inductive Value where
  | null
  | bool (value : Bool)
  | number (literal : String)
  | string (text : String)
  | array (items : List Value)
  | object (members : List (String × Value))

namespace Value

/-- `Value::get` with a key: a member of an object, nothing elsewhere. -/
def get (value : Value) (key : String) : Option Value :=
  match value with
  | object members => (members.find? fun member => member.1 = key).map Prod.snd
  | _ => none

def asStr : Value → Option String
  | string text => some text
  | _ => none

def asArray : Value → Option (List Value)
  | array items => some items
  | _ => none

def asBool : Value → Option Bool
  | bool value => some value
  | _ => none

def isNull : Value → Bool
  | null => true
  | _ => false

/-- A string member of an object. -/
def getStr (value : Value) (key : String) : Option String := (value.get key).bind asStr

end Value
end Patala.Json
