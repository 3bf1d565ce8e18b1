/-!
# Problems of data

A problem says where data does not fit a record and in what way. The place is the path of names
and positions that leads to the value.
-/

namespace Runbook

/-- In what way a value does not fit. -/
inductive Mismatch where
  | missing
  | stringType
  | stringUnicode
  | intType
  | intParsing
  | intParsingSize
  | intFromFloat
  | finiteNumber
  | boolType
  | boolParsing
  | tupleType
  | listType
  | dictType
  | tooLong
  | enumValue
  | pathType
  | modelType
  deriving DecidableEq, Repr

/-- The name of a mismatch. -/
def Mismatch.name : Mismatch → String
  | missing => "missing"
  | stringType => "string_type"
  | stringUnicode => "string_unicode"
  | intType => "int_type"
  | intParsing => "int_parsing"
  | intParsingSize => "int_parsing_size"
  | intFromFloat => "int_from_float"
  | finiteNumber => "finite_number"
  | boolType => "bool_type"
  | boolParsing => "bool_parsing"
  | tupleType => "tuple_type"
  | listType => "list_type"
  | dictType => "dict_type"
  | tooLong => "too_long"
  | enumValue => "enum"
  | pathType => "path_type"
  | modelType => "model_type"

/-- A mismatch with its place. -/
structure Problem where
  place : List String
  mismatch : Mismatch
  deriving DecidableEq, Repr

namespace Problem

/-- The problem of the value at hand. -/
def here (mismatch : Mismatch) : Problem := ⟨[], mismatch⟩

/-- The problem as seen from the value around it. -/
def under (name : String) (problem : Problem) : Problem :=
  { problem with place := name :: problem.place }

/-- What the last step of a place says of the key of an entry. -/
def keyStep : String := "[key]"

end Problem

end Runbook
