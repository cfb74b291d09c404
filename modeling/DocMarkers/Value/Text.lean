import DocMarkers.Decimal.Shortest
import DocMarkers.Failure
import DocMarkers.Value.Basic

set_option autoImplicit false

namespace DocMarkers

namespace Value

mutual

def quoted : Value → Text
  | null => "None".toList
  | bool true => "True".toList
  | bool false => "False".toList
  | int i => Text.ofInt i
  | float x => Decimal.render x
  | text t => Quoted.encode t
  | list items => '[' :: (quotedItems items ++ [']'])
  | object fields => '{' :: (quotedFields fields ++ ['}'])

def quotedItems : List Value → Text
  | [] => []
  | [item] => quoted item
  | item :: items => quoted item ++ ',' :: ' ' :: quotedItems items

def quotedFields : List (Text × Value) → Text
  | [] => []
  | [(name, value)] => Quoted.encode name ++ ':' :: ' ' :: quoted value
  | (name, value) :: fields =>
    Quoted.encode name ++ ':' :: ' ' :: (quoted value ++ ',' :: ' ' :: quotedFields fields)

end

def render : Value → Text
  | text t => t
  | value => value.quoted

def integerDigits : Nat := 4300

mutual

def fault? : Nat → Value → Option Failure
  | _, int i => if i.natAbs < Nat.pow 10 integerDigits then none else some .oversizedInteger
  | 0, list _ => some .writtenTooDeep
  | 0, object _ => some .writtenTooDeep
  | depth + 1, list items => itemsFault? depth items
  | depth + 1, object fields => fieldsFault? depth fields
  | _, _ => none

def itemsFault? : Nat → List Value → Option Failure
  | _, [] => none
  | depth, item :: items => (fault? depth item).or (itemsFault? depth items)

def fieldsFault? : Nat → List (Text × Value) → Option Failure
  | _, [] => none
  | depth, (_, value) :: fields => (fault? depth value).or (fieldsFault? depth fields)

end

def write (depth : Nat) (value : Value) : Except Failure Text :=
  match value.fault? depth with
  | some fault => .error fault
  | none => .ok value.render

@[simp] theorem write_text (depth : Nat) (t : Text) : (text t).write depth = .ok t := by
  simp [write, fault?, render]

end Value

end DocMarkers
