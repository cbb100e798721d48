import Wiring.Need
import Wiring.Proofs.IdentityText

namespace Wiring

/-!
# Texts of types

Whatever is filed by type is filed under the identity of the type, and messages show
its display, which is the identity behind a star if a pointer is meant. The identity
tells types apart by import path and name, and the display by the pointer mark as
well, as long as no text holds a quote or a star where these marks are looked for.
-/

namespace NamedType

/-- The name of a type has no star of its own, so a star in its display is the pointer mark. -/
def Unstarred (type : NamedType) : Prop :=
  type.name.toList.head? ≠ some '*'

instance (type : NamedType) : Decidable type.Unstarred :=
  inferInstanceAs (Decidable (_ ≠ _))

variable {type other : NamedType}

/-- Two types are the same exactly if they agree in import path and name. -/
theorem sameType_iff :
    type.sameType other = true ↔
      type.importPath = other.importPath ∧ type.name = other.name := by
  simp only [sameType, Bool.and_eq_true, beq_iff_eq]

/-- No identity starts with a star that the name of the type does not start with. -/
theorem Unstarred.head?_identity_ne
    (unstarred : type.Unstarred) :
    type.identity.toList.head? ≠ some '*' := by
  by_cases packaged : type.importPath = ""
  · rw [identity, if_pos packaged]
    exact unstarred
  · rw [toList_identity packaged, List.head?_cons]
    decide

/-- The display of a type starts with a star exactly if a pointer is meant. -/
theorem Unstarred.head?_display
    (unstarred : type.Unstarred) :
    type.display.toList.head? = some '*' ↔ type.pointer = true := by
  rw [display, star, String.toList_append]
  cases type.pointer with
  | false =>
      exact iff_of_false unstarred.head?_identity_ne Bool.false_ne_true
  | true =>
      exact iff_of_true rfl rfl

/-- Without stars in names, displays agree exactly if identities and pointer marks do. -/
theorem display_eq_iff
    (unstarred : type.Unstarred)
    (otherUnstarred : other.Unstarred) :
    type.display = other.display ↔
      type.identity = other.identity ∧ type.pointer = other.pointer := by
  constructor
  · intro same
    have samePointer : type.pointer = other.pointer := by
      rw [Bool.eq_iff_iff, ← unstarred.head?_display, same, otherUnstarred.head?_display]
    rw [display, display, star, star, samePointer] at same
    exact ⟨(String.append_right_inj _).mp same, samePointer⟩
  · rintro ⟨sameIdentity, samePointer⟩
    rw [display, star, samePointer, sameIdentity, ← star, ← display]

end NamedType

/--
The texts of whatever stands for a type tell types apart.

Identities do so by import path and name, and displays by the pointer mark as well.
-/
structure TellsTypesApart
    {α : Type}
    (wanted : α → NamedType)
    (identity display : α → String) : Prop where
  identity_iff :
    ∀ first second,
      (wanted first).Unquoted →
      (wanted second).Unquoted →
        (identity first = identity second ↔
          (wanted first).sameType (wanted second) = true)
  display_iff :
    ∀ first second,
      (wanted first).Unquoted →
      (wanted second).Unquoted →
      (wanted first).Unstarred →
      (wanted second).Unstarred →
        (display first = display second ↔
          (wanted first).sameType (wanted second) = true ∧
            (wanted first).pointer = (wanted second).pointer)

/-- Texts that are those of the wanted type tell wanted types apart. -/
theorem tellsTypesApart_comp
    {α : Type}
    (wanted : α → NamedType) :
    TellsTypesApart wanted
      (fun asker => (wanted asker).identity)
      (fun asker => (wanted asker).display) where
  identity_iff := by
    intro first second unquoted otherUnquoted
    rw [NamedType.sameType_iff, NamedType.identity_eq_iff unquoted otherUnquoted]
  display_iff := by
    intro first second unquoted otherUnquoted unstarred otherUnstarred
    rw [NamedType.sameType_iff, NamedType.display_eq_iff unstarred otherUnstarred,
      NamedType.identity_eq_iff unquoted otherUnquoted]

/--
The identities and displays of types tell them apart, and so do those of the needs for
a type, for a record and for the error slot.
-/
theorem texts_tellTypesApart :
    TellsTypesApart id NamedType.identity NamedType.display ∧
      TellsTypesApart Need.wanted Need.identity Need.display :=
  ⟨tellsTypesApart_comp id, tellsTypesApart_comp Need.wanted⟩

namespace Client

/-- A pointer to the client of a package. -/
def pointer : NamedType :=
  NamedType.ofText "example.com/web" "*Client"

/-- A record of the same type, asked for as a value. -/
def record : Need :=
  .record (Record.ofFields (NamedType.ofText "example.com/web" "Client") [])

/-- A type of the universe block whose name reads like the identity of the client behind a dot. -/
def dotted : NamedType :=
  NamedType.ofText "" ".\"example.com/web\".Client"

end Client

/--
A pointer and a record of one type share their identity but not their display, and a
name that holds the whole identity behind a dot shares neither.
-/
theorem texts_tellTypesApart_client :
    (Need.named Client.pointer).identity = Client.record.identity ∧
      (Need.named Client.pointer).display ≠ Client.record.display ∧
      Client.pointer.identity ≠ Client.dotted.identity := by
  obtain ⟨ofTypes, ofNeeds⟩ := texts_tellTypesApart
  have sameIdentity :=
    ofNeeds.identity_iff (.named Client.pointer) Client.record (by decide) (by decide)
  have sameDisplay :=
    ofNeeds.display_iff (.named Client.pointer) Client.record
      (by decide) (by decide) (by decide) (by decide)
  have sameAsDotted := ofTypes.identity_iff Client.pointer Client.dotted (by decide) (by decide)
  refine ⟨sameIdentity.mpr (by decide), fun same => ?_, fun same => ?_⟩
  · exact absurd (sameDisplay.mp same).2 (by decide)
  · exact absurd (sameAsDotted.mp same) (by decide)

/-- A star that a name starts with cannot be told from the pointer mark. -/
example :
    ({ importPath := "", name := "*T", pointer := false, kind := .unknown } : NamedType).display =
      (NamedType.ofText "" "*T").display := by
  decide

end Wiring
