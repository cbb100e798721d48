namespace Wiring

/-!
# Values filed under text keys

`Keyed α` keeps at most one value for each key, in the order in which the keys
were first filed. Filing a value under a known key replaces the value and keeps
the key's place. The laws say what filing does to look-up and to the keys.
-/

namespace Entries

/-- File a value in an entry list, replacing the value of a known key. -/
def insert
    (key : String)
    (value : α) :
    List (String × α) →
    List (String × α)
  | [] =>
      [(key, value)]
  | entry :: rest =>
      if entry.1 = key then
        (key, value) :: rest
      else
        entry :: insert key value rest

/-- The value of the first entry with a key. -/
def get?
    (key : String) :
    List (String × α) →
    Option α
  | [] =>
      none
  | entry :: rest =>
      if entry.1 = key then
        some entry.2
      else
        get? key rest

theorem keys_insert
    (key : String)
    (value : α)
    (entries : List (String × α)) :
    (insert key value entries).map Prod.fst =
      if key ∈ entries.map Prod.fst then
        entries.map Prod.fst
      else
        entries.map Prod.fst ++ [key] := by
  induction entries with
  | nil =>
      simp [insert]
  | cons entry rest inductionHypothesis =>
      by_cases same : entry.1 = key
      · simp [insert, same]
      · have other : key ≠ entry.1 := fun equal => same equal.symm
        simp only [insert, same, if_false, List.map_cons, inductionHypothesis,
          List.mem_cons, other, false_or]
        split <;> simp

theorem get?_insert
    (key other : String)
    (value : α)
    (entries : List (String × α)) :
    get? other (insert key value entries) =
      if key = other then some value else get? other entries := by
  induction entries with
  | nil =>
      simp [insert, get?]
  | cons entry rest inductionHypothesis =>
      by_cases same : entry.1 = key
      · by_cases wanted : key = other <;> simp [insert, get?, same, wanted]
      · by_cases wanted : key = other
        · subst wanted
          simp [insert, get?, same, inductionHypothesis]
        · simp only [insert, same, if_false, get?, inductionHypothesis, wanted]

theorem get?_isSome_iff
    (key : String)
    (entries : List (String × α)) :
    (get? key entries).isSome = true ↔ key ∈ entries.map Prod.fst := by
  induction entries with
  | nil =>
      simp [get?]
  | cons entry rest inductionHypothesis =>
      by_cases same : entry.1 = key
      · simp [get?, same]
      · have other : key ≠ entry.1 := fun equal => same equal.symm
        simp only [get?, same, if_false, inductionHypothesis, List.map_cons,
          List.mem_cons, other, false_or]

end Entries

/-- Values filed under text keys, one for each key, in the order of first filing. -/
structure Keyed (α : Type) where
  entries : List (String × α)
  nodup_keys : (entries.map Prod.fst).Nodup

namespace Keyed

/-- Nothing filed. -/
def empty : Keyed α where
  entries := []
  nodup_keys := by simp

/-- The keys in the order of first filing. -/
def keys (filed : Keyed α) : List String :=
  filed.entries.map Prod.fst

/-- File a value, replacing the value of a known key. -/
def insert
    (filed : Keyed α)
    (key : String)
    (value : α) :
    Keyed α where
  entries := Entries.insert key value filed.entries
  nodup_keys := by
    rw [Entries.keys_insert]
    split
    · exact filed.nodup_keys
    · rename_i absent
      rw [List.nodup_append]
      refine ⟨filed.nodup_keys, by simp, ?_⟩
      intro known member new isKey equal
      rw [List.mem_singleton] at isKey
      exact absent (isKey ▸ equal ▸ member)

/-- The value filed under a key. -/
def get?
    (filed : Keyed α)
    (key : String) :
    Option α :=
  Entries.get? key filed.entries

/-- Whether a value is filed under a key. -/
def contains
    (filed : Keyed α)
    (key : String) :
    Bool :=
  (filed.get? key).isSome

/-- How many keys there are. -/
def size (filed : Keyed α) : Nat :=
  filed.entries.length

/-- Whether nothing is filed. -/
def isEmpty (filed : Keyed α) : Bool :=
  filed.entries.isEmpty

@[simp] theorem get?_empty
    (key : String) :
    (empty : Keyed α).get? key = none :=
  rfl

theorem get?_insert
    (filed : Keyed α)
    (key other : String)
    (value : α) :
    (filed.insert key value).get? other =
      if key = other then some value else filed.get? other :=
  Entries.get?_insert key other value filed.entries

theorem keys_insert
    (filed : Keyed α)
    (key : String)
    (value : α) :
    (filed.insert key value).keys =
      if key ∈ filed.keys then filed.keys else filed.keys ++ [key] :=
  Entries.keys_insert key value filed.entries

theorem contains_iff
    (filed : Keyed α)
    (key : String) :
    filed.contains key = true ↔ key ∈ filed.keys :=
  Entries.get?_isSome_iff key filed.entries

end Keyed

end Wiring
