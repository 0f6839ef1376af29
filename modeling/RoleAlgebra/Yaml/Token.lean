namespace RoleAlgebra.Yaml

/-- Tags and their parts are bytes: escapes in them may write any. -/
abbrev TagText : Type := List UInt8

inductive Token where
  | version (major minor : Nat)
  | tagDirective (handle start : TagText)
  | documentStart
  | documentEnd
  | blockSequence
  | blockMapping
  | blockEnd
  | flowSequence
  | flowSequenceEnd
  | flowMapping
  | flowMappingEnd
  | entry
  | comma
  | key
  | value
  | aliasOf (name : String)
  | anchor (name : String)
  | tag (handle suffix : TagText)
  | scalar (plain : Bool) (text : String)
  deriving DecidableEq, Repr

end RoleAlgebra.Yaml
