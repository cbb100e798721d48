namespace Wiring.Text

/-!
# Joined texts

Lists of texts appear in generated code with commas, and in messages with arrows,
between their members.
-/

/-- Texts with commas between them. -/
def commas (texts : List String) : String :=
  String.intercalate ", " texts

/-- Texts with arrows between them. -/
def arrows (texts : List String) : String :=
  String.intercalate " -> " texts

end Wiring.Text
