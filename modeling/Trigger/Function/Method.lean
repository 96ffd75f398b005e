import Trigger.Eval.Effect
import Trigger.Value.Equality
import Trigger.Value.Member

/-!
# Methods

Functions that are called on a value with a point. Lists, strings and mappings have methods of
their own, and a member that can be called is a method too. Methods of lists that take a function
call it on one item after the other, and no longer than they need to.
-/

namespace Trigger

/-- The methods of lists and tuples. -/
inductive ListMethod where
  | some
  | every
  | filter
  | map
  | find
  | includes
  | indexOf
  | join
deriving DecidableEq, Repr

/-- The methods of strings. -/
inductive StringMethod where
  | toLowerCase
  | toUpperCase
  | trim
  | includes
  | startsWith
  | endsWith
  | indexOf
  | split
deriving DecidableEq, Repr

/-- The methods of mappings. -/
inductive MapMethod where
  | keys
  | values
  | has
deriving DecidableEq, Repr

/-- A method with the value that it is called on. -/
inductive Method where
  | onList (m : ListMethod) (items : List Value)
  | onString (m : StringMethod) (s : String)
  | onMap (m : MapMethod) (entries : List (String × Value))
  | member (f : Value)

/-- The method of a list with a name. -/
def ListMethod.ofName? : String → Option ListMethod
  | "some" => .some .some
  | "every" => .some .every
  | "filter" => .some .filter
  | "map" => .some .map
  | "find" => .some .find
  | "includes" => .some .includes
  | "indexOf" => .some .indexOf
  | "join" => .some .join
  | _ => none

/-- The method of a string with a name. -/
def StringMethod.ofName? : String → Option StringMethod
  | "toLowerCase" => some .toLowerCase
  | "toUpperCase" => some .toUpperCase
  | "trim" => some .trim
  | "includes" => some .includes
  | "startsWith" => some .startsWith
  | "endsWith" => some .endsWith
  | "indexOf" => some .indexOf
  | "split" => some .split
  | _ => none

/-- The method of a mapping with a name. -/
def MapMethod.ofName? : String → Option MapMethod
  | "keys" => some .keys
  | "values" => some .values
  | "has" => some .has
  | _ => none

/-- The method that a list, a string or a mapping has of its own. -/
def Value.ownMethod? (v : Value) (name : String) : Option Method :=
  match v with
  | .list _ items => (ListMethod.ofName? name).map (.onList · items)
  | .str s => (StringMethod.ofName? name).map (.onString · s)
  | .map entries => (MapMethod.ofName? name).map (.onMap · entries)
  | _ => none

/-- The method of a value with a name. -/
def Value.method? (rt : Runtime) (v : Value) (name : String) : Option Method :=
  match v.ownMethod? name with
  | some m => some m
  | none =>
    let member := v.property rt name
    if member.isCallable then some (.member member) else none

namespace ListMethod

variable (f : Value → Eval Value)

/-- The first item for which a function gives a true value. -/
def findItem : List Value → Eval (Option Value)
  | [] => return none
  | v :: rest => do if (← f v).isTruthy then return Option.some v else findItem rest

/-- Whether a function gives a true value for all items. -/
def everyItem : List Value → Eval Bool
  | [] => return true
  | v :: rest => do if (← f v).isTruthy then everyItem rest else return false

/-- The items for which a function gives a true value. -/
def filterItems : List Value → Eval (List Value)
  | [] => return []
  | v :: rest => do
    let keep := (← f v).isTruthy
    let kept ← filterItems rest
    return if keep then v :: kept else kept

/-- What a function gives for the items. -/
def mapItems : List Value → Eval (List Value)
  | [] => return []
  | v :: rest => do return (← f v) :: (← mapItems rest)

/-- The least position of an item that equals a value. -/
def position? (language : Language) (needle : Value) (items : List Value) : Option Nat :=
  items.findIdx? (·.strictEquals language needle)

/-- The texts of the items with a separator between each two. -/
def joined (separator : String) (items : List Value) : String :=
  String.ofList (Text.join separator.toList (Value.itemTexts items))

end ListMethod

/-- The position that was found, and -1 if there is none. -/
def positionValue : Option Nat → Value
  | some n => .int n
  | none => .int (-1)

namespace StringMethod

/-- The pieces of a string between the occurrences of a separator: the whole string for an
undefined one, and its characters for an empty one. Between the pieces that a pattern separates
stand the texts of its captures. -/
def pieces (s : String) (separator : Value) : List Value :=
  match separator with
  | .undefined => [.str s]
  | .pattern p => (p.cut s.toList.toArray).map fun
    | some piece => .str (String.ofList piece)
    | none => .null
  | v =>
    let separator := v.toText.toList
    if separator.isEmpty then s.toList.map Value.ofChar
    else (Text.cut separator s.toList).map fun piece => .str (String.ofList piece)

/-- The first `n` items of a list, or all but the last `-n` if `n` is negative. -/
def upTo {α : Type} (items : List α) (n : Int) : List α :=
  if 0 ≤ n then items.take n.toNat else items.take (items.length - n.natAbs)

/-- The integer that a limit stands for. -/
def limitOf (v : Value) : Except Fault Int := do
  let x ← v.toNumber
  if x.isNaN then throw .undefinedInteger
  if x.isInf then throw .infiniteInteger
  return Decimal.truncate x

/-- The pieces of a string, as many as a limit allows. -/
def piecesUpTo (s : String) (separator limit : Value) : Except Fault (List Value) :=
  match limit with
  | .undefined => .ok (pieces s separator)
  | limit => do return upTo (pieces s separator) (← limitOf limit)

end StringMethod

namespace Method

/-- A function on single values from a function on argument lists. -/
def unary (apply : Value → List Value → Eval Value) (f v : Value) : Eval Value := apply f [v]

/-- Calls a method of a list. -/
def callList (language : Language) (apply : Value → List Value → Eval Value) (m : ListMethod)
    (items args : List Value) : Eval Value := do
  match m, args with
  | .some, [f] => return .bool (← ListMethod.findItem (unary apply f) items).isSome
  | .every, [f] => return .bool (← ListMethod.everyItem (unary apply f) items)
  | .filter, [f] => return .ofList (← ListMethod.filterItems (unary apply f) items)
  | .map, [f] => return .ofList (← ListMethod.mapItems (unary apply f) items)
  | .find, [f] => return (← ListMethod.findItem (unary apply f) items).getD .undefined
  | .includes, [v] => return .bool (items.any (·.strictEquals language v))
  | .indexOf, [v] => return positionValue (ListMethod.position? language v items)
  | .join, [] => return .str (ListMethod.joined "," items)
  | .join, [v] => return .str (ListMethod.joined v.toText items)
  | _, _ => throw .wrongArguments

/-- Calls a method of a string. -/
def callString (m : StringMethod) (s : String) (args : List Value) : Except Fault Value :=
  match m, args with
  | .toLowerCase, [] => .ok (.str (String.ofList (Text.lower s.toList)))
  | .toUpperCase, [] => .ok (.str (String.ofList (Text.upper s.toList)))
  | .trim, [] => .ok (.str (String.ofList (Text.trim s.toList)))
  | .includes, [v] => .ok (.bool (Text.contains v.toText.toList s.toList))
  | .startsWith, [v] => .ok (.bool (v.toText.toList.isPrefixOf s.toList))
  | .endsWith, [v] => .ok (.bool (v.toText.toList.isSuffixOf s.toList))
  | .indexOf, [v] => .ok (positionValue (Text.find? v.toText.toList s.toList))
  | .split, [] => return .ofList (← StringMethod.piecesUpTo s .undefined .undefined)
  | .split, [v] => return .ofList (← StringMethod.piecesUpTo s v .undefined)
  | .split, [v, limit] => return .ofList (← StringMethod.piecesUpTo s v limit)
  | _, _ => .error .wrongArguments

/-- Calls a method of a mapping. -/
def callMap (m : MapMethod) (entries : List (String × Value)) (args : List Value) :
    Except Fault Value :=
  match m, args with
  | .keys, [] => .ok (.ofList (entries.map fun (k, _) => .str k))
  | .values, [] => .ok (.ofList (entries.map (·.2)))
  | .has, [.str k] => .ok (.bool (entries.lookup k).isSome)
  | .has, [v] => if v.isHashable then .ok (.bool false) else .error .unhashableKey
  | _, _ => .error .wrongArguments

/-- Calls a method. Functions are called by `apply`. -/
def call (language : Language) (apply : Value → List Value → Eval Value) (m : Method)
    (args : List Value) : Eval Value :=
  match m with
  | .onList m items => callList language apply m items args
  | .onString m s => Eval.ofExcept (callString m s args)
  | .onMap m entries => Eval.ofExcept (callMap m entries args)
  | .member f => apply f args

end Method

end Trigger
