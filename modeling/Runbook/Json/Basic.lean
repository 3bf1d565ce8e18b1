import Runbook.Number.Binary64

/-!
# Plain data

Data as it is written in a plain-data text: objects keep the order of their members.
-/

namespace Runbook

/-- A plain-data value. A text in which halves of characters stand alone is given by its code
points; only escapes can write it. -/
inductive Json where
  | null
  | bool (value : Bool)
  | int (value : Int)
  | float (value : Binary64)
  | str (value : String)
  | halved (codes : List Nat)
  | arr (items : List Json)
  | obj (members : List (String × Json))
  deriving Repr, Inhabited

namespace Json

/-- The first member with the key. -/
def lookup (key : String) : List (String × Json) → Option Json
  | [] => none
  | (name, value) :: members => if name = key then some value else lookup key members

/-- The member of an object; absent for a value of another kind. -/
def get? (key : String) : Json → Option Json
  | .obj members => lookup key members
  | _ => none

/-- Sets a member: an old one keeps its place, a new one goes to the end. -/
def setMember (key : String) (value : Json) : List (String × Json) → List (String × Json)
  | [] => [(key, value)]
  | (name, old) :: members =>
    if name = key then (name, value) :: members else (name, old) :: setMember key value members

/-- The members of the second list set one by one in the first. -/
def mergeMembers (first second : List (String × Json)) : List (String × Json) :=
  second.foldl (fun members member => setMember member.1 member.2 members) first

/-- The strings as a list. -/
def strings (names : List String) : Json := .arr (names.map .str)

end Json

end Runbook
