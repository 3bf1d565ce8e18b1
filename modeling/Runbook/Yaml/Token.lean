/-!
# Tokens of a markup text
-/

namespace Runbook.Yaml

/-- A piece of a markup text. The start and end marks of block collections stand for changes of
the indentation. A quoted scalar in which halves of characters stand alone is given by its code
points. -/
inductive Token where
  | versionDirective (major : Nat)
  | tagDirective (handle tagPrefix : List Char)
  | otherDirective
  | documentStart
  | documentEnd
  | streamEnd
  | blockSequenceStart
  | blockMappingStart
  | blockEnd
  | flowSequenceStart
  | flowSequenceEnd
  | flowMappingStart
  | flowMappingEnd
  | blockEntry
  | flowEntry
  | key
  | value
  | alias (name : List Char)
  | anchor (name : List Char)
  | tag (handle : Option (List Char)) (suffix : List Char)
  | scalar (text : List Char) (plain : Bool)
  | halved (codes : List Nat)
  deriving DecidableEq, Repr, Inhabited

/-- The token of a quoted scalar with the given code points. -/
def Token.ofCodes (codes : List Nat) : Token :=
  if codes.all fun code => code.isValidChar then .scalar (codes.map Char.ofNat) false
  else .halved codes

end Runbook.Yaml
