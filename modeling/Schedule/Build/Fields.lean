import Schedule.Build.State
import Schedule.Hierarchy.Order
import Schedule.Number.Integer
import Schedule.Text.Blank

/-!
# User defined fields and activity codes

A field definition names the kind of object it belongs to (bars 7, tasks 21, milestones 22,
consumable resources 61, permanent resources 62, allocations 67) and its data type (boolean 0,
integer 6, numeric 8, text 9 or 24, date 13, duration 15); other kinds and types are skipped.
A field value is stored as a number, a date or a note, by data type, and attached to the bar,
task, milestone, resource or assignment with the object's id. A number may arrive typed or as
text.

Code libraries become activity codes numbered in order. Their entries become values, parents
before children and siblings by short name; a value without a short name is named by its
description, and keeps its parent only when the parent was read before it. Code assignments add
values to tasks.
-/

namespace Schedule

/-- The kinds of object that hold user defined fields. -/
inductive FieldObject where
  | bar
  | task
  | milestone
  | permanentResource
  | consumableResource
  | allocation
  deriving Repr, Inhabited, DecidableEq

namespace FieldObject

/-- The kind of object with a number. -/
def ofId? (id : Int32) : Option FieldObject :=
  match id.toInt with
  | 7 => some .bar
  | 21 => some .task
  | 22 => some .milestone
  | 61 => some .consumableResource
  | 62 => some .permanentResource
  | 67 => some .allocation
  | _ => none

/-- The class of field declared for a kind of object. -/
def fieldClass : FieldObject → FieldClass
  | .bar | .task | .milestone => .task
  | .permanentResource | .consumableResource => .resource
  | .allocation => .assignment

end FieldObject

/-- The data type with a number. -/
def FieldDataType.ofId? (id : Int32) : Option FieldDataType :=
  match id.toInt with
  | 0 => some .boolean
  | 6 => some .integer
  | 8 => some .numeric
  | 9 | 24 => some .text
  | 13 => some .date
  | 15 => some .duration
  | _ => none

/-- The stored number as an integer: a double loses its fraction, text is read after trimming. -/
def storedInteger? (r : Row) : Option Int32 :=
  match r.value? "DATA_AS_NUMBER" with
  | some (.integer v) => some v
  | some (.double v) => some (Number.truncToInt32 v)
  | some (.text s) => Number.readInt32? (Text.trim s)
  | _ => none

/-- The stored number as a double; text is read after trimming. -/
def storedDouble? (r : Row) : Option Float :=
  match r.value? "DATA_AS_NUMBER" with
  | some (.integer v) => some (Float.ofInt v.toInt)
  | some (.double v) => some v
  | some (.text s) => Number.readFloat? (Text.trim s)
  | _ => none

/-- The value of a field of a data type held by a record. -/
def storedValue? (r : Row) : FieldDataType → Option CustomValue
  | .boolean => some (.boolean (storedInteger? r == some 1))
  | .integer => (storedInteger? r).map .integer
  | .numeric => (storedDouble? r).map .numeric
  | .date => (r.stamp? "DATA_AS_DATE").map .date
  | .duration => some (.duration (Duration.hours ((storedDouble? r).getD 0.0)))
  | .text => (r.value? "DATA_AS_NOTE").map fun v => .text v.display

namespace Builder

/-- Adds a field definition, unless its kind of object or data type is unknown. -/
def addFieldDefinition (acc : Builder × Std.HashMap Int (FieldObject × FieldDataType)) (row : Row) :
    Builder × Std.HashMap Int (FieldObject × FieldDataType) :=
  match (row.integer? "OBJ_TYPE").bind FieldObject.ofId?,
    (row.integer? "DATA_TYPE").bind FieldDataType.ofId?, row.integer? "UDF_ID" with
  | some obj, some ty, some id =>
    let (b, fields) := acc
    let f : UserField := { uniqueId := id, name := (row.string? "UDF_NAME").getD "",
                           fieldClass := obj.fieldClass, dataType := ty }
    ({ b with project := { b.project with userFields := b.project.userFields ++ [f] } },
      fields.insert id.toInt (obj, ty))
  | _, _, _ => acc

/-- Sets a field value on the object it belongs to, if that exists. -/
def setFieldValue (b : Builder) (obj : FieldObject) (objectId field : Int32) (v : CustomValue) :
    Builder :=
  let onTask (m : Std.HashMap Int TaskKey) :=
    match m.get? objectId.toInt with
    | some k => b.modifyTask k fun t => { t with customFields := t.customFields.insert field v }
    | none => b
  match obj with
  | .bar => onTask b.bars
  | .task => onTask b.tasks
  | .milestone => onTask b.milestones
  | .permanentResource | .consumableResource =>
    match b.project.resources.findIdx? (·.uniqueId == objectId) with
    | some i =>
      let resources := b.project.resources.modify i fun r =>
        { r with customFields := r.customFields.insert field v }
      { b with project := { b.project with resources } }
    | none => b
  | .allocation =>
    match b.project.assignments.findIdx? (·.uniqueId == some objectId) with
    | some i =>
      let assignments := b.project.assignments.modify i fun a =>
        { a with customFields := a.customFields.insert field v }
      { b with project := { b.project with assignments } }
    | none => b

/-- Reads field definitions, then the values attached to objects. -/
def processUserFields (b : Builder) (definitions data : List Row) : Builder :=
  let (b, fields) := definitions.foldl addFieldDefinition (b, {})
  data.foldl (fun b row =>
    match row.integer? "UDF_ID", row.integer? "OBJ_ID" with
    | some field, some objectId =>
      match fields.get? field.toInt with
      | some (obj, ty) =>
        match storedValue? row ty with
        | some v => b.setFieldValue obj objectId field v
        | none => b
      | none => b
    | _, _ => b) b

/-- Compares optional texts, a missing one first. -/
def compareOptText : Option String → Option String → Ordering
  | none, none => .eq
  | none, some _ => .lt
  | some _, none => .gt
  | some a, some b => compare a b

/-- Adds one code library entry as a value of its activity code. -/
def addCodeValue (acc : Builder × List Int32) (row : Row) : Builder × List Int32 :=
  let (b, known) := acc
  let code := (row.integer? "CODE_LIBRARY").bind fun id =>
    b.project.activityCodes.findIdx? (·.uniqueId == id)
  match code, row.integer? "ID" with
  | some i, some id =>
    let description := row.string? "NAME"
    let name := row.string? "SHORT_NAME"
    let name := if (name.map String.isEmpty).getD true then description else name
    let parent := (row.integer? "CODE_LIBRARY_ENTRY").filter known.contains
    let codes := b.project.activityCodes.modify i fun c =>
      let v : ActivityCodeValue :=
        { uniqueId := id, name, description, parentUniqueId := parent,
          sequenceNumber := Int32.ofNat c.values.length + 1 }
      { c with values := c.values ++ [v] }
    ({ b with project := { b.project with activityCodes := codes } }, id :: known)
  | _, _ => acc

/-- Adds a code library as an activity code, numbered after the codes before it. -/
def addActivityCode (b : Builder) (row : Row) : Builder :=
  match row.integer? "ID" with
  | some id =>
    let c : ActivityCode :=
      { uniqueId := id, name := row.string? "NAME",
        sequenceNumber := Int32.ofNat b.project.activityCodes.length + 1 }
    { b with project := { b.project with activityCodes := b.project.activityCodes ++ [c] } }
  | none => b

/-- Gives a task the code value an assignment names, when the value was read and the task
exists. -/
def assignCodeValue (known : List Int32) (b : Builder) (row : Row) : Builder :=
  match (row.integer? "ASSIGNED_TO").filter known.contains, b.taskFor? (row.integer? "CODES") with
  | some v, some k =>
    b.modifyTask k fun t => { t with activityCodeValues := t.activityCodeValues ++ [v] }
  | _, _ => b

/-- Reads code libraries, their entries and the codes assigned to tasks. -/
def processCodeLibraries (b : Builder) (libraries entries assignments : List Row) : Builder :=
  let b := libraries.foldl addActivityCode b
  let rows := entries.toArray
  let shortNames := rows.map (·.string? "SHORT_NAME")
  let order := Hierarchy.order (rows.map fun r => (r.integer? "ID").map (·.toInt))
    (rows.map fun r => (r.integer? "CODE_LIBRARY_ENTRY").map (·.toInt))
    (some fun i j => compareOptText (shortNames.getD i none) (shortNames.getD j none) == .lt)
  let (b, known) := order.foldl (fun acc i => addCodeValue acc (rows.getD i default)) (b, [])
  assignments.foldl (assignCodeValue known) b

end Builder

end Schedule
