import Wiring.Proofs.EarlyReturns
import Wiring.Proofs.LeadingRun
import Wiring.Proofs.Unfolding

namespace Wiring

/-!
# The text of a function body

The text of a body is that of its statements in order, with the return behind them. A
call and a literal are one line each: in front of `:=` the targets for which a body is
read, and behind it what they are given, operand by operand. An early return takes
three lines. Every line is indented and ended by a line break, so that the text tells
the lines.
-/

/-- Texts that are made piece by piece are joined piece by piece. -/
theorem Text.join_flatMap
    {α : Type}
    (pieces : α → List String)
    (items : List α) :
    String.join (items.flatMap pieces) =
      String.join (items.map (fun item => String.join (pieces item))) := by
  induction items with
  | nil =>
      rfl
  | cons item rest inductionHypothesis =>
      rw [List.flatMap_cons, String.join_append, inductionHypothesis, List.map_cons,
        String.join_cons]

namespace Statement

/-- A call is written with its targets, its function, and its operands in order. -/
theorem lines_call
    (identity : String)
    (function : Constructor)
    (callee : Symbol)
    (name : String)
    (arguments : List Operand) :
    (call identity function callee name arguments).lines =
      [Text.commas (call identity function callee name arguments).targets
        ++ " := " ++ callee.text
        ++ "("
        ++ Text.commas
            ((call identity function callee name arguments).operands.map Operand.text)
        ++ ")"] :=
  rfl

/--
A literal is written with its only target, its type, and its operands behind the names of
their fields. Where a pointer to the record is wanted, its address is taken.
-/
theorem lines_literal
    (identity : String)
    (record : Record)
    (type : Symbol)
    (name : String)
    (fields : List (String × Operand)) :
    (literal identity record type name fields).lines =
      [Text.commas (literal identity record type name fields).targets
        ++ " := " ++ (if record.type.pointer then "&" else "") ++ type.text
        ++ "\x7b"
        ++ Text.commas
            (List.zipWith (fun field (operand : Operand) => field ++ ": " ++ operand.text)
              (fields.map Prod.fst)
              (literal identity record type name fields).operands)
        ++ "\x7d"] := by
  have fieldTexts :
      List.zipWith (fun field (operand : Operand) => field ++ ": " ++ operand.text)
          (fields.map Prod.fst) (fields.map Prod.snd) =
        fields.map fieldText := by
    rw [List.zipWith_map, List.zipWith_self]
    rfl
  rw [operands, fieldTexts]
  simp [lines, targets, Text.commas]

/-- An early return is written with what it gives back. -/
theorem lines_guard
    (zeros : List ZeroValue) :
    (guard zeros).lines =
      ["if err != nil \x7b", "\treturn " ++ Text.commas (earlyReturn zeros), "\x7d"] :=
  rfl

end Statement

namespace Blueprint

/-- The text of a line of the body. -/
def lineText (line : String) : String :=
  "\t" ++ line ++ "\n"

/-- The text of a body is that of its statements, with the line of what it returns behind. -/
theorem body_eq
    (blueprint : Blueprint) :
    blueprint.body =
      String.join (blueprint.statements.map
          (fun statement => String.join (statement.lines.map lineText)))
        ++ lineText ("return " ++ Text.commas (blueprint.returned.map Operand.text)) := by
  calc blueprint.body
      = String.join (blueprint.bodyLines.map lineText) := rfl
    _ = String.join ((blueprint.statements.flatMap Statement.lines).map lineText)
          ++ String.join
              [lineText ("return " ++ Text.commas (blueprint.returned.map Operand.text))] := by
      rw [bodyLines, List.map_append, String.join_append, List.map_singleton]
    _ = _ := by
      rw [List.map_flatMap, Text.join_flatMap, String.join_cons, String.join_nil,
        String.append_empty]

/-- Indented lines that are ended by line breaks can be told from their text. -/
theorem lines_eq_of_join_eq
    {lines others : List String}
    (unbroken : ∀ line ∈ lines, '\n' ∉ line.toList)
    (othersUnbroken : ∀ line ∈ others, '\n' ∉ line.toList)
    (same : String.join (lines.map lineText) = String.join (others.map lineText)) :
    lines = others := by
  have toList_lineText :
      ∀ line rest, (lineText line ++ rest).toList =
        '\t' :: (line.toList ++ '\n' :: rest.toList) := by
    simp [lineText]
  induction lines generalizing others with
  | nil =>
      cases others with
      | nil =>
          rfl
      | cons other otherRest =>
          have sameText := congrArg String.toList same
          rw [List.map_cons, String.join_cons, toList_lineText] at sameText
          cases sameText
  | cons line rest inductionHypothesis =>
      cases others with
      | nil =>
          have sameText := congrArg String.toList same
          rw [List.map_cons, String.join_cons, toList_lineText] at sameText
          cases sameText
      | cons other otherRest =>
          have sameText := congrArg String.toList same
          simp only [List.map_cons, String.join_cons, toList_lineText] at sameText
          rw [List.forall_mem_cons] at unbroken othersUnbroken
          -- A line ends at the first line break of the text.
          obtain ⟨sameLine, sameRest⟩ :=
            LeadingRun.append_mark_inj unbroken.1 othersUnbroken.1
              (List.tail_eq_of_cons_eq sameText)
          rw [String.toList_inj.mp sameLine,
            inductionHypothesis unbroken.2 othersUnbroken.2 (String.toList_inj.mp sameRest)]

/-- Bodies of one text have the same lines, if no line has a line break inside. -/
theorem bodyLines_eq_of_body_eq
    {blueprint other : Blueprint}
    (unbroken : ∀ line ∈ blueprint.bodyLines, '\n' ∉ line.toList)
    (otherUnbroken : ∀ line ∈ other.bodyLines, '\n' ∉ line.toList)
    (same : blueprint.body = other.body) :
    blueprint.bodyLines = other.bodyLines :=
  lines_eq_of_join_eq unbroken otherUnbroken same

end Blueprint

end Wiring
