namespace Wiring

/-!
# JSON values

The values that manifests are written in, with the two readings that manifests
need: the members of a fixed list of names, and the tag of a choice.
-/

/-- A JSON value; a number is its mantissa divided by a power of ten. -/
inductive Json where
  | null
  | bool (value : Bool)
  | number (mantissa : Int) (exponent : Nat)
  | string (text : String)
  | array (items : List Json)
  | object (members : List (String × Json))
  deriving Repr, Inhabited

namespace Json

/-- A text. -/
def asString? : Json → Option String
  | .string text => some text
  | _ => none

/-- A truth value. -/
def asBool? : Json → Option Bool
  | .bool value => some value
  | _ => none

/-- A list whose items can all be read. -/
def asListOf?
    (read : Json → Option α) :
    Json →
    Option (List α)
  | .array items => items.mapM read
  | _ => none

/-- A list, item by item. -/
def ofList
    (write : α → Json)
    (values : List α) :
    Json :=
  .array (values.map write)

/-- A value that may be missing, written as `null`. -/
def ofOption
    (write : α → Json) :
    Option α →
    Json
  | none => .null
  | some value => write value

/-- A value that may be missing, read from `null` or from the value. -/
def asOption?
    (read : Json → Option α) :
    Json →
    Option (Option α)
  | .null => some none
  | value => (read value).map some

/--
What a value holds for each of a list of member names.

An object is read by name. No listed name may occur twice in it, and other members do
not matter. An array holds the members in order; it may end early, but it may not be
longer than the list.
-/
def slots?
    (names : List String) :
    Json →
    Option (List (Option Json))
  | .object members =>
      if names.all (fun name => (members.map Prod.fst).count name ≤ 1) then
        some (names.map (fun name => members.lookup name))
      else
        none
  | .array items =>
      if items.length ≤ names.length then
        some (items.map some ++ List.replicate (names.length - items.length) none)
      else
        none
  | _ =>
      none

/-- A member that has to be there. -/
def required
    (read : Json → Option α) :
    Option Json →
    Option α
  | none => none
  | some value => read value

/-- A member with a value of its own when it is not there. -/
def defaulting
    (value : α)
    (read : Json → Option α) :
    Option Json →
    Option α
  | none => some value
  | some given => read given

/--
The tag of a choice, with its content.

A tag without content may also be written as an object with the content `null`.
-/
inductive Tagged where
  | plain (tag : String)
  | content (tag : String) (value : Json)

/-- Read a choice: a bare tag, or an object with the tag as its only member. -/
def asTagged? : Json → Option Tagged
  | .string tag => some (.plain tag)
  | .object [(tag, .null)] => some (.plain tag)
  | .object [(tag, value)] => some (.content tag value)
  | _ => none

end Json

end Wiring
