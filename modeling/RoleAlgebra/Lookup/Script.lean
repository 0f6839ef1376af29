import RoleAlgebra.Lookup.Basic

namespace RoleAlgebra

namespace Script

abbrev Answer : Type := Except LookupError PermissionSet

/-- The answers of one reference: each lookup takes the next, and the last repeats. -/
structure Entry where
  reference : Reference
  answers : List Answer

def Entry.answer? (entry : Entry) : Option Answer := entry.answers.head?

def Entry.next (entry : Entry) : Entry :=
  match entry.answers with
  | _ :: second :: rest => { entry with answers := second :: rest }
  | _ => entry

end Script

structure Script where
  entries : List Script.Entry
  asked : List Reference

namespace Script

def empty : Script := ⟨[], []⟩

def find? (script : Script) (reference : Reference) : Option Entry :=
  script.entries.find? (·.reference = reference)

def erase (script : Script) (reference : Reference) : Script :=
  { script with entries := script.entries.filter (·.reference ≠ reference) }

def insert (script : Script) (entry : Entry) : Script :=
  { script.erase entry.reference with
    entries := entry :: (script.erase entry.reference).entries }

def ofEntries (entries : List Entry) : Script := entries.foldl insert empty

def calls (script : Script) : List Reference := script.asked.reverse

def unknown (reference : Reference) : LookupError :=
  .ofMessage ("no role named `" ++ reference.id ++ "`")

def lookup (reference : Reference) (script : Script) : Answer × Script :=
  let asked := reference :: script.asked
  match script.find? reference with
  | some entry =>
    (entry.answer?.getD (.error (unknown reference)), { script.insert entry.next with asked })
  | none => (.error (unknown reference), { script with asked })

def resolver : Resolver Script := ⟨lookup⟩

end Script
end RoleAlgebra
