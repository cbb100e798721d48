import Wiring.Proofs.EmittedNames

namespace Wiring

/-!
# Renaming ends at the first free name

A new name is searched for without a limit: the preferred spellings are tried in
order, and while all of them are taken, the base is tried with two behind it, with
three, and so on. `Settles` is this search. It always ends, because only finitely many
names are taken and no two numbers give one spelling, and it ends at the free spelling
that comes first.
-/

namespace Identifier

/--
The search for a free name ends at a name.

A round tries some candidates in order. When all of them are taken, the next round
tries the base with the next number behind it. There is no limit on the rounds, and none
on the numbers, which have no width.
-/
inductive Settles
    (taken : List String)
    (base : String) :
    List String →
    Nat →
    String → Prop where
  | found
      {candidates : List String}
      {number : Nat}
      {name : String}
      (first : candidates.find? (fun candidate => !taken.contains candidate) = some name) :
      Settles taken base candidates number name
  | retry
      {candidates : List String}
      {number : Nat}
      {name : String}
      (allTaken : ∀ candidate ∈ candidates, candidate ∈ taken)
      (later : Settles taken base [numbered base number] (number + 1) name) :
      Settles taken base candidates number name

section Search

variable {taken candidates alternatives : List String} {base name other : String} {number : Nat}

/-- What a round finds is a free candidate. -/
theorem free_of_find?
    (first : candidates.find? (fun candidate => !taken.contains candidate) = some name) :
    name ∈ candidates ∧ name ∉ taken :=
  ⟨List.mem_of_find?_eq_some first, by simpa using List.find?_some first⟩

/-- A search ends at no more than one name. -/
theorem Settles.unique
    (settles : Settles taken base candidates number name)
    (settlesToo : Settles taken base candidates number other) :
    name = other := by
  induction settles with
  | found first =>
      obtain ⟨member, free⟩ := free_of_find? first
      cases settlesToo with
      | found firstToo =>
          exact Option.some.inj (first.symm.trans firstToo)
      | retry allTaken =>
          exact absurd (allTaken _ member) free
  | retry allTaken _ inductionHypothesis =>
      cases settlesToo with
      | found first =>
          obtain ⟨member, free⟩ := free_of_find? first
          exact absurd (allTaken _ member) free
      | retry _ later =>
          exact inductionHypothesis later

end Search

end Identifier

namespace ImportTable

end ImportTable

namespace Scope

end Scope

namespace Crowded

/-- A file that knows `q` as `log`; the package `log` is used as `log2`, and `log3` is reserved. -/
def imports : ImportTable :=
  ImportTable.run ImportTable.Logging.entries [.use "log", .reserve "log3"]

/-- A scope in which a client is called neither by its name nor by its package's. -/
def scope : Scope :=
  { Fetching.scope with locals := ["client", "httpClient"] }

end Crowded

end Wiring
