namespace Wiring.Identifier

/-!
# Fresh names

A fresh name is the first of a few preferred spellings that is not taken. When
all are taken, the base name is numbered from two upward until a free name
appears. Among as many numbered names as there are taken ones, and one more,
some name is free, so the search never runs out.
-/

/-- The base name followed by a number. -/
def numbered
    (base : String)
    (number : Nat) :
    String :=
  base ++ toString number

/--
The first numbered name at or after `number` that is not taken, within a budget of attempts.

The number is not bounded: it has no width of its own, and never turns negative or wraps.
-/
def firstFreeNumbered
    (taken : List String)
    (base : String) :
    Nat → Nat → String
  | 0, number =>
      numbered base number
  | budget + 1, number =>
      if taken.contains (numbered base number) then
        firstFreeNumbered taken base budget (number + 1)
      else
        numbered base number

/--
A name that is not taken: the base, else the first free alternative, else the
base with the least free number from two upward.
-/
def fresh
    (taken : List String)
    (base : String)
    (alternatives : List String) :
    String :=
  match (base :: alternatives).find? (fun name => !taken.contains name) with
  | some name =>
      name
  | none =>
      firstFreeNumbered taken base taken.length 2

end Wiring.Identifier
