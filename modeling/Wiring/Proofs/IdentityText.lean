import Wiring.NamedType
import Wiring.Proofs.LeadingRun

namespace Wiring.NamedType

/-!
# Identity texts

An identity is a text, and the quotes around an import path are not escaped, so
types with quotes in their path or name may share an identity by accident. Without
such quotes the text can be read back: a path ends at the second quote, and a text
that does not start with a quote is the name of a type without a path. A type that
is given as a path and a text has no quotes if these have none.
-/

/-- The import path and the name of a type can be told apart in its identity. -/
structure Unquoted (type : NamedType) : Prop where
  path : '"' ∉ type.importPath.toList
  name : type.name.toList.head? ≠ some '"'

instance (type : NamedType) : Decidable type.Unquoted :=
  decidable_of_iff
    ('"' ∉ type.importPath.toList ∧ type.name.toList.head? ≠ some '"')
    ⟨fun both => ⟨both.1, both.2⟩, fun unquoted => ⟨unquoted.path, unquoted.name⟩⟩

/-- The characters of the identity of a type that belongs to a package. -/
theorem toList_identity
    {type : NamedType}
    (packaged : type.importPath ≠ "") :
    type.identity.toList =
      '"' :: (type.importPath.toList ++ '"' :: '.' :: type.name.toList) := by
  simp [identity, packaged]

/-- The identity of a type of a package starts with a quote, and that of any other does not. -/
theorem Unquoted.head?_identity
    {type : NamedType}
    (unquoted : type.Unquoted) :
    type.identity.toList.head? = some '"' ↔ type.importPath ≠ "" := by
  by_cases packaged : type.importPath = ""
  · have bare : type.identity = type.name := if_pos packaged
    rw [bare]
    exact iff_of_false unquoted.name (not_not.mpr packaged)
  · rw [toList_identity packaged]
    exact iff_of_true rfl packaged

/-- Types without quotes have one identity exactly if they agree in path and name. -/
theorem identity_eq_iff
    {type other : NamedType}
    (unquoted : type.Unquoted)
    (otherUnquoted : other.Unquoted) :
    type.identity = other.identity ↔
      type.importPath = other.importPath ∧ type.name = other.name := by
  constructor
  · intro same
    have samePackaged : type.importPath ≠ "" ↔ other.importPath ≠ "" := by
      rw [← unquoted.head?_identity, same, otherUnquoted.head?_identity]
    by_cases packaged : type.importPath = ""
    · have otherBare : other.importPath = "" := by
        simpa [packaged] using samePackaged
      rw [identity, if_pos packaged, identity, if_pos otherBare] at same
      exact ⟨packaged.trans otherBare.symm, same⟩
    · have sameText := congrArg String.toList same
      rw [toList_identity packaged, toList_identity (samePackaged.mp packaged),
        List.cons.injEq] at sameText
      obtain ⟨samePath, sameName⟩ :=
        LeadingRun.append_mark_inj unquoted.path otherUnquoted.path sameText.2
      rw [List.cons.injEq] at sameName
      exact ⟨String.toList_inj.mp samePath, String.toList_inj.mp sameName.2⟩
  · rintro ⟨samePath, sameName⟩
    rw [identity, samePath, sameName, identity]

/-- A text without the star that it may start with. -/
def unstarred (text : String) : String :=
  if text.toList.head? = some '*' then
    String.ofList text.toList.tail
  else
    text

/-- A type that is given as a text has the name that the text has behind its star. -/
theorem name_ofText
    (importPath text : String) :
    (ofText importPath text).name = unstarred text := by
  unfold ofText unstarred
  split
  · rename_i name starred
    simp [starred]
  · rename_i unmarked
    rw [if_neg]
    intro startsWithStar
    obtain ⟨name, starred⟩ := List.head?_eq_some_iff.mp startsWithStar
    exact unmarked name starred

@[simp] theorem importPath_ofText
    (importPath text : String) :
    (ofText importPath text).importPath = importPath := by
  unfold ofText
  split <;> rfl

/-- A path and a text without quotes denote a type without quotes. -/
theorem unquoted_ofText
    {importPath text : String}
    (pathUnquoted : '"' ∉ importPath.toList)
    (textUnquoted : '"' ∉ text.toList) :
    (ofText importPath text).Unquoted where
  path := by
    rw [importPath_ofText]
    exact pathUnquoted
  name := by
    rw [name_ofText, unstarred]
    intro startsWithQuote
    have quoted := List.mem_of_mem_head? (Option.mem_def.mpr startsWithQuote)
    split at quoted
    · rw [String.toList_ofList] at quoted
      exact textUnquoted (List.mem_of_mem_tail quoted)
    · exact textUnquoted quoted

end Wiring.NamedType
