import Trigger.Value.Language
import Trigger.Value.Number

/-!
# Members of values

A member is looked up by a key: an entry of a mapping by the key or else by its text, an item of a
list or a character of a string by its position, and an attribute of every other value by a name that
does not start with an underscore. Objects, queries and arrow functions have the attributes that they
are made with, and the language has the others. What does not exist is undefined.
-/

namespace Trigger

namespace Value

mutual

/-- Whether a value can be looked up as a key of a mapping. -/
def isHashable : Value → Bool
  | .list .list _ => false
  | .list .tuple items => areHashable items
  | .map _ => false
  | .object _ => false
  | _ => true

/-- Whether all values of a list can be looked up. -/
def areHashable : List Value → Bool
  | [] => true
  | v :: rest => isHashable v && areHashable rest

end

/-- The item of a list or the character of a string at a position. -/
def atPosition {α : Type} (items : List α) (i : Int) : Option α :=
  if 0 ≤ i then items[i.toNat]? else none

/-- The item at the position that a number stands for, if it is an integer. -/
def atNumber {α : Type} (items : List α) (x : Float) : Option α :=
  if x.isFinite && Decimal.isIntegral x then atPosition items (Decimal.truncate x) else none

/-- The item at the position that a key stands for. Texts stand for one only if they are
numerals. -/
def itemAt {α : Type} (items : List α) (key : Value) : Except Fault (Option α) :=
  match key with
  | .int i => .ok (atPosition items i)
  | .bool b => .ok (atPosition items (if b then 1 else 0))
  | .str s =>
    .ok (match Decimal.ofText? (Text.trim s.toList) with
      | some x => atNumber items x
      | none => none)
  | key => do return atNumber items (← key.toNumber)

/-- The string of one character. -/
def ofChar (c : Char) : Value := .str (String.singleton c)

/-- The attribute of a query with a name. -/
def queryAttribute (field : String) (operator : QueryOperator) (value : Value) (name : String) :
    Option Value :=
  if name = "field" then some (.str field)
  else if name = "operator" then some (.str operator.name)
  else if name = "value" then some value
  else none

/-- The attribute of a value that is no mapping, list or string. -/
def hostAttribute (rt : Runtime) (v : Value) (name : String) : Option Value :=
  if name.toList.head? = some '_' then none else
  match v with
  | .object attributes => attributes.lookup name
  | .query _ field operator value => queryAttribute field operator value name
  | .arrow _ params _ locals =>
    if name = "params" then some (.list .tuple (params.map .str))
    else if name = "frame" then rt.scene.map fun s => (s.inside locals).toValue
    else rt.attributeOf v name
  | .native _ parts => (parts.lookup name).or (rt.attributeOf v name)
  | v => rt.attributeOf v name

/-- Whether a key asks for the length of a list or of a string. -/
def isLength : Value → Bool
  | .str name => name == "length"
  | _ => false

/-- The entry of a mapping for a key, or else for the text of the key. -/
def entryAt (entries : List (String × Value)) (key : Value) : Except Fault (Option Value) :=
  if key.isHashable then .ok (entries.lookup key.toText) else .error .unhashableKey

/-- The names of a path. -/
def pathNames (path : String) : List String := (Text.cut ['.'] path.toList).map String.ofList

section

variable (rt : Runtime)

/-- The member of a value for a key. -/
def member (v key : Value) : Except Fault Value :=
  match v with
  | .null => .ok .undefined
  | .undefined => .ok .undefined
  | .map entries => do return (← entryAt entries key).getD .undefined
  | .list _ items =>
    if key.isLength then .ok (.int items.length)
    else do return (← itemAt items key).getD .undefined
  | .str s =>
    if key.isLength then .ok (.int s.length)
    else do return ((← itemAt s.toList key).map ofChar).getD .undefined
  | v =>
    match key with
    | .str name => .ok ((hostAttribute rt v name).getD .undefined)
    | _ => .ok .undefined

/-- The member of a value for a name. Names are hashable, and as numerals they are in range, so
there is always one. -/
def property (v : Value) (name : String) : Value :=
  match member rt v (.str name) with
  | .ok w => w
  | .error _ => .undefined

/-- The value that a path of names separated by points leads to. Behind a null or undefined value
every path leads to undefined. -/
def follow (v : Value) : List String → Value
  | [] => v
  | name :: rest => if v.isNullish then .undefined else follow (v.property rt name) rest

/-- The value that a path leads to. -/
def resolvePath (v : Value) (path : String) : Value := follow rt v (pathNames path)

end

end Value

end Trigger
