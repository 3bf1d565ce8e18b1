import Runbook.Data.Moment
import Runbook.Json.Basic

/-!
# Decoded values

The values that a decoded document can hold. A value that a container holds can be one of the
containers around it; such a value is written by its distance.
-/

namespace Runbook

/-- A value without parts. A text in which halves of characters stand alone is given by its code
points, as it has no encoding. -/
inductive Scalar where
  | null
  | bool (value : Bool)
  | int (value : Int)
  | float (value : Binary64)
  | str (value : String)
  | halved (codes : List Nat)
  | bytes (value : List UInt8)
  | date (value : Date)
  | time (value : TimeOfDay)
  | moment (value : Moment)
  deriving DecidableEq, Repr, Inhabited

/-- A decoded value. Sets and the keys of maps hold scalars only, in the order of their first
appearance. `enclosing n` is the `n`-th container around the value. -/
inductive Value where
  | scalar (value : Scalar)
  | list (items : List Value)
  | tuple (items : List Value)
  | set (items : List Scalar)
  | map (entries : List (Scalar × Value))
  | enclosing (distance : Nat)
  deriving Repr, Inhabited

namespace Scalar

/-- The integer that a scalar equals as a key: `true`, `1` and `1.0` are one key. -/
def integral? : Scalar → Option Int
  | .bool b => some (if b then 1 else 0)
  | .int i => some i
  | .float x => x.toInt?
  | _ => none

/-- Whether two scalars are the same key. -/
def sameKey (a b : Scalar) : Bool :=
  match a.integral?, b.integral? with
  | some i, some j => i == j
  | none, none =>
    match a, b with
    | .moment m, .moment n => m.same n
    | _, _ => a == b
  | _, _ => false

end Scalar

namespace Value

/-- Whether a value is the boolean true. -/
def isTrue : Value → Bool
  | .scalar (.bool true) => true
  | _ => false

/-- Sets an entry: an equal key keeps its place and its form, a new one goes to the end. -/
def setEntry (key : Scalar) (value : Value) : List (Scalar × Value) → List (Scalar × Value)
  | [] => [(key, value)]
  | (old, previous) :: entries =>
    if old.sameKey key then (old, value) :: entries
    else (old, previous) :: setEntry key value entries

/-- The value of the first entry with an equal key. -/
def find? (key : Scalar) : List (Scalar × Value) → Option Value
  | [] => none
  | (name, value) :: entries => if name.sameKey key then some value else find? key entries

mutual

/-- The levels of a value: one for itself, and those of its deepest part. -/
def levels : Value → Nat
  | .list items | .tuple items => itemLevels items + 1
  | .set items => if items.isEmpty then 1 else 2
  | .map entries => entryLevels entries + 1
  | .scalar _ | .enclosing _ => 1

/-- The levels of the deepest item. -/
def itemLevels : List Value → Nat
  | [] => 0
  | item :: items => max (levels item) (itemLevels items)

/-- The levels of the deepest value of an entry. -/
def entryLevels : List (Scalar × Value) → Nat
  | [] => 0
  | (_, value) :: entries => max (levels value) (entryLevels entries)

end

mutual

/-- Plain data as a decoded value. -/
def ofJson : Json → Value
  | .null => .scalar .null
  | .bool b => .scalar (.bool b)
  | .int i => .scalar (.int i)
  | .float x => .scalar (.float x)
  | .str s => .scalar (.str s)
  | .halved codes => .scalar (.halved codes)
  | .arr items => .list (ofJsonItems items)
  | .obj members => .map (ofJsonMembers members)

/-- Each item of a plain list as a decoded value. -/
def ofJsonItems : List Json → List Value
  | [] => []
  | item :: items => ofJson item :: ofJsonItems items

/-- Each member of a plain object as an entry. -/
def ofJsonMembers : List (String × Json) → List (Scalar × Value)
  | [] => []
  | (key, value) :: members => (.str key, ofJson value) :: ofJsonMembers members

end

end Value

end Runbook
