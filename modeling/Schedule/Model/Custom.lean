import Schedule.Time.Stamp
import Schedule.Model.Duration

/-!
# User defined fields and activity codes

A user defined field is declared for tasks, resources or assignments with one data type, and
holds one value per object. Activity codes are named lists of values, which may nest by naming a
parent value; tasks refer to values by their unique id.

Field values of one object are kept sorted by field id, each id once (`CustomFields.insert`).
-/

namespace Schedule

/-- The kind of object a user defined field belongs to. -/
inductive FieldClass where
  | task
  | resource
  | assignment
  deriving Repr, Inhabited, DecidableEq

/-- The data type of a user defined field. -/
inductive FieldDataType where
  | boolean
  | integer
  | numeric
  | text
  | date
  | duration
  deriving Repr, Inhabited, DecidableEq

/-- The declaration of a user defined field. -/
structure UserField where
  uniqueId : Int32
  name : String
  fieldClass : FieldClass
  dataType : FieldDataType
  deriving Inhabited

/-- The value of a user defined field. -/
inductive CustomValue where
  | boolean (b : Bool)
  | integer (n : Int32)
  | numeric (x : Float)
  | text (s : String)
  | date (t : Stamp)
  | duration (d : Duration)
  deriving Inhabited

/-- Field values of one object, sorted by field id. -/
abbrev CustomFields := List (Int32 × CustomValue)

/-- Sets the value of a field, keeping the ids sorted. -/
def CustomFields.insert (id : Int32) (v : CustomValue) : CustomFields → CustomFields
  | [] => [(id, v)]
  | (k, w) :: rest =>
    if id.toInt < k.toInt then (id, v) :: (k, w) :: rest
    else if id = k then (id, v) :: rest
    else (k, w) :: CustomFields.insert id v rest

/-- One value of an activity code. -/
structure ActivityCodeValue where
  uniqueId : Int32
  sequenceNumber : Int32
  name : Option String := none
  description : Option String := none
  parentUniqueId : Option Int32 := none
  deriving Inhabited

/-- An activity code and its values. -/
structure ActivityCode where
  uniqueId : Int32
  sequenceNumber : Int32
  name : Option String := none
  values : List ActivityCodeValue := []
  deriving Inhabited

end Schedule
