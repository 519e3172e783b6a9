/-! # Where points are delivered

The settings of a destination: the bucket that the points are meant for, an
organisation, and tags that every point carries. Tags have distinct keys and
stand in the order of their keys; setting a key again replaces its value. -/

namespace LapTelemetry.Point

set_option autoImplicit false

/-- Tags in ascending order of their keys. -/
structure Tags where
  entries : List (String × String)
  deriving DecidableEq, Repr

namespace Tags

def empty : Tags := ⟨[]⟩

/-- Put a tag in its place among tags in order. -/
def setIn (key value : String) : List (String × String) → List (String × String)
  | [] => [(key, value)]
  | (other, held) :: rest =>
    if key < other then (key, value) :: (other, held) :: rest
    else if key = other then (key, value) :: rest
    else (other, held) :: setIn key value rest

/-- Set a tag. -/
def set (tags : Tags) (key value : String) : Tags := ⟨setIn key value tags.entries⟩

/-- Tags from a list; of two tags with one key the later counts. -/
def ofList (entries : List (String × String)) : Tags :=
  entries.foldl (fun tags (key, value) => tags.set key value) empty

end Tags

/-- The settings of a destination. -/
structure Delivery where
  bucket : String
  org : Option String
  tags : Tags
  deriving DecidableEq, Repr

/-- The tags that every point carries; the organisation travels as the tag `org`. -/
def Delivery.pointTags (delivery : Delivery) : Tags :=
  match delivery.org with
  | some org => delivery.tags.set "org" org
  | none => delivery.tags

end LapTelemetry.Point
