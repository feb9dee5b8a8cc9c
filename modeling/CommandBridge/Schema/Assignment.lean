import CommandBridge.Failure

/-!
# CommandBridge.Schema.Assignment

Assigning a field of a record that was read before.

1. A name that begins with an underscore is no field: what is assigned to it is kept beside
   the record.
2. A frozen record refuses everything else.
3. What is derived from the fields cannot be assigned.
4. A field takes the value as it is.
-/

namespace CommandBridge

/-- What is to be known about a sort of record before its fields are assigned. -/
structure RecordForm where
  name : String
  isFrozen : Bool := false
  derived : List String := []
  deriving DecidableEq, Repr

/-- The members of a record after a field of it was assigned. -/
def assignField (form : RecordForm) (members : List (Text × Json)) (field : String)
    (value : Json) : Except Failure (List (Text × Json)) :=
  if field.toList.head? = some '_' then .ok members
  else if form.isFrozen then .error (.invalid form.name [⟨[.name field], .frozen, value⟩])
  else if form.derived.contains field then
    .error (.fault (.ofMessage .attribute
      s!"property '{field}' of '{form.name}' object has no setter"))
  else if members.any fun m => m.1 = (field : Text) then .ok (Json.insert field value members)
  else .error (.fault (.ofMessage .value s!"\"{form.name}\" object has no field \"{field}\""))

end CommandBridge
