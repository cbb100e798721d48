import Wiring.Json
import Wiring.Proofs.Pairing

namespace Wiring.Json

/-!
# Forms of structured values

A structure is written as an object or as an array of its members in order, and some
of its members may be left out. A table of members says what each place may hold, and
reading through `slots?` accepts exactly the values that fit the table.
-/

/-- A member of a structure: its name, and what may stand in its place, `none` if it is left out. -/
structure Member where
  name : String
  admits : Option Json → Prop

/--
A value fits a table: as an object with these members, each given at most once, or as an
array of them in order.
-/
inductive Fits (members : List Member) : Json → Prop where
  | object
      {given : List (String × Json)}
      (once : ∀ member ∈ members, (given.map Prod.fst).count member.name ≤ 1)
      (admitted : ∀ member ∈ members, member.admits (given.lookup member.name)) :
      Fits members (.object given)
  | array
      {items : List Json}
      (omitted : Nat)
      (admitted :
        List.Forall₂ (fun slot (member : Member) => member.admits slot)
          (items.map some ++ List.replicate omitted none) members) :
      Fits members (.array items)

/-- A value fits a table if its slots hold what the members admit. -/
theorem fits_iff
    {members : List Member}
    (names : List String)
    (named : members.map Member.name = names)
    {json : Json} :
    json.Fits members ↔
      ∃ slots,
        json.slots? names = some slots ∧
          List.Forall₂ (fun slot (member : Member) => member.admits slot) slots members := by
  subst named
  constructor
  · intro fits
    cases fits with
    | object once admitted =>
        refine ⟨_, by rw [slots?, if_pos (by simpa using once)], ?_⟩
        rw [List.map_map, List.forall₂_map_left_iff, List.forall₂_same]
        exact admitted
    | @array items omitted admitted =>
        have lengths := admitted.length_eq
        rw [List.length_append, List.length_map, List.length_replicate] at lengths
        have isOmitted : members.length - items.length = omitted := by
          omega
        refine ⟨_, ?_, admitted⟩
        rw [slots?, List.length_map, if_pos (by omega), isOmitted]
  · rintro ⟨slots, found, admitted⟩
    cases json with
    | object given =>
        simp only [slots?] at found
        split at found
        · rename_i once
          cases found
          rw [List.map_map, List.forall₂_map_left_iff, List.forall₂_same] at admitted
          exact .object (by simpa using once) admitted
        · cases found
    | array items =>
        simp only [slots?] at found
        split at found
        · cases found
          exact .array _ admitted
        · cases found
    | null | bool | number | string =>
        cases found

/-- Among distinct names, each member of an object is found under its own. -/
theorem lookup_of_mem
    {given : List (String × Json)}
    (distinct : (given.map Prod.fst).Nodup)
    {entry : String × Json}
    (listed : entry ∈ given) :
    given.lookup entry.1 = some entry.2 := by
  obtain ⟨before, after, rfl⟩ := List.append_of_mem listed
  refine List.lookup_eq_some_iff.mpr ⟨before, after, rfl, fun other earlier => ?_⟩
  rw [List.map_append, List.map_cons] at distinct
  have apart := (List.nodup_append.mp distinct).2.2
  exact bne_iff_ne.mpr (apart _ (List.mem_map_of_mem earlier) _ List.mem_cons_self).symm

/-- An object with exactly the named members has the slots of the array of their values. -/
theorem slots?_zip
    {names : List String}
    (distinct : names.Nodup)
    {items : List Json}
    (full : items.length = names.length) :
    (Json.object (names.zip items)).slots? names = (Json.array items).slots? names := by
  have keys : (names.zip items).map Prod.fst = names :=
    List.map_fst_zip (Nat.le_of_eq full.symm)
  have held : (names.zip items).map Prod.snd = items :=
    List.map_snd_zip (Nat.le_of_eq full)
  have found : names.map (fun name => (names.zip items).lookup name) = items.map some := calc
    names.map (fun name => (names.zip items).lookup name)
        = ((names.zip items).map Prod.fst).map (fun name => (names.zip items).lookup name) := by
      rw [keys]
    _ = (names.zip items).map (fun entry => (names.zip items).lookup entry.1) :=
      List.map_map
    _ = (names.zip items).map (fun entry => some entry.2) :=
      List.map_congr_left fun entry listed => lookup_of_mem (keys.symm ▸ distinct) listed
    _ = ((names.zip items).map Prod.snd).map some :=
      List.map_map.symm
    _ = items.map some := by
      rw [held]
  have once : names.all fun name => ((names.zip items).map Prod.fst).count name ≤ 1 := by
    simp [keys, List.nodup_iff_count.mp distinct]
  rw [slots?, slots?, if_pos once, if_pos (Nat.le_of_eq full), found, full, Nat.sub_self,
    List.replicate_zero, List.append_nil]

/-- An object written member by member fits a table of distinct names. -/
theorem Fits.of_written
    {members : List Member}
    (names : List String)
    (named : members.map Member.name = names)
    (distinct : names.Nodup)
    {given : List (String × Json)}
    (written :
      List.Forall₂ (fun entry (member : Member) =>
        entry.1 = member.name ∧ member.admits (some entry.2)) given members) :
    (Json.object given).Fits members := by
  subst named
  have keys : given.map Prod.fst = members.map Member.name :=
    List.forall₂_eq_eq_eq ▸ List.forall₂_map_left_iff.mpr
      (List.forall₂_map_right_iff.mpr (written.imp fun _ _ => And.left))
  rw [← keys] at distinct
  refine .object (fun member _ => List.nodup_iff_count.mp distinct member.name)
    fun member listed => ?_
  obtain ⟨entry, isGiven, sameName, admitted⟩ := written.exists_of_mem_right listed
  rw [← sameName, lookup_of_mem distinct isGiven]
  exact admitted

/-- What fits a table is an object or an array. -/
theorem Fits.ne_null
    {members : List Member}
    {json : Json}
    (fits : json.Fits members) :
    json ≠ .null := by
  rintro rfl
  cases fits

/-- A reader accepts exactly the values that spell something, and reads them as what they spell. -/
class Reads
    (read : Json → Option α)
    (spells : outParam (α → Json → Prop)) : Prop where
  eq_some_iff : ∀ json value, read json = some value ↔ spells value json

/-- A place is not left out, and holds a spelling. -/
def Given
    (spells : α → Json → Prop)
    (value : α)
    (slot : Option Json) : Prop :=
  ∃ json, slot = some json ∧ spells value json

/-- A place holds a spelling, or is left out for its default. -/
def Defaulted
    (default : α)
    (spells : α → Json → Prop)
    (value : α)
    (slot : Option Json) : Prop :=
  (slot = none ∧ value = default) ∨ Given spells value slot

/-- A text is spelled by itself. -/
def SpellsText
    (text : String)
    (json : Json) : Prop :=
  json = .string text

/-- A truth value is spelled by itself. -/
def SpellsFlag
    (flag : Bool)
    (json : Json) : Prop :=
  json = .bool flag

/-- A list is spelled item by item. -/
def SpellsEach
    (spells : α → Json → Prop)
    (values : List α)
    (json : Json) : Prop :=
  ∃ items, json = .array items ∧ List.Forall₂ (fun item value => spells value item) items values

/-- A value that may be missing is spelled by `null` or by its own spelling. -/
def SpellsOption
    (spells : α → Json → Prop) :
    Option α →
    Json → Prop
  | none, json => json = .null
  | some value, json => spells value json

instance : Reads asString? SpellsText where
  eq_some_iff json text := by
    cases json <;> simp [asString?, SpellsText]

instance : Reads asBool? SpellsFlag where
  eq_some_iff json flag := by
    cases json <;> simp [asBool?, SpellsFlag]

instance : Reads (asOption? asString?) (SpellsOption SpellsText) where
  eq_some_iff json value := by
    cases json <;> cases value <;> simp [asOption?, asString?, SpellsOption, SpellsText]

section Readers

variable {read : Json → Option α} {spells : α → Json → Prop} [Reads read spells]

instance : Reads (asListOf? read) (SpellsEach spells) where
  eq_some_iff json values := by
    constructor
    · intro found
      cases json with
      | array items =>
          refine ⟨items, rfl, ?_⟩
          exact (List.forall₂_of_mapM_eq_some found).imp
            fun item value => (Reads.eq_some_iff item value).mp
      | null | bool | number | string | object =>
          cases found
    · rintro ⟨items, rfl, each⟩
      exact List.mapM_eq_some_of_forall₂
        (each.imp fun item value => (Reads.eq_some_iff item value).mpr)

/-- A member that has to be there is read from a spelling. -/
@[simp] theorem required_eq_some_iff
    {slot : Option Json}
    {value : α} :
    required read slot = some value ↔ Given spells value slot := by
  cases slot with
  | none =>
      simp [required, Given]
  | some json =>
      simp [required, Given, Reads.eq_some_iff json value]

/-- A member with a default is read from a spelling, or from nothing. -/
@[simp] theorem defaulting_eq_some_iff
    {default : α}
    {slot : Option Json}
    {value : α} :
    defaulting default read slot = some value ↔ Defaulted default spells value slot := by
  cases slot with
  | none =>
      simp [defaulting, Defaulted, Given, eq_comm]
  | some json =>
      simp [defaulting, Defaulted, Given, Reads.eq_some_iff json value]

end Readers

section Written

variable {spells : α → Json → Prop} {write : α → Json} {value : α}

@[simp] theorem given_some {json : Json} : Given spells value (some json) ↔ spells value json := by
  simp [Given]

@[simp] theorem defaulted_some
    {default : α}
    {json : Json} :
    Defaulted default spells value (some json) ↔ spells value json := by
  simp [Defaulted]

@[simp] theorem spellsText_string (text : String) : SpellsText text (.string text) :=
  rfl

@[simp] theorem spellsFlag_bool (flag : Bool) : SpellsFlag flag (.bool flag) :=
  rfl

/-- A list of written items is spelled if each written item is. -/
@[simp] theorem spellsEach_ofList
    (written : ∀ value, spells value (write value))
    (values : List α) :
    SpellsEach spells values (ofList write values) :=
  ⟨_, rfl, List.forall₂_map_left_iff.mpr (List.forall₂_same.mpr fun value _ => written value)⟩

/-- A value that may be missing is spelled as it is written. -/
@[simp] theorem spellsOption_ofOption
    (written : ∀ value, spells value (write value))
    (value : Option α) :
    SpellsOption spells value (ofOption write value) := by
  cases value with
  | none => exact rfl
  | some value => exact written value

end Written

/-- A tag without content is a text, or a member of an object with nothing in it. -/
theorem asTagged?_eq_plain_iff
    {json : Json}
    {tag : String} :
    json.asTagged? = some (.plain tag) ↔ json = .string tag ∨ json = .object [(tag, .null)] := by
  constructor
  · intro found
    unfold asTagged? at found
    split at found
    · cases found
      exact .inl rfl
    · cases found
      exact .inr rfl
    · cases found
    · cases found
  · rintro (rfl | rfl) <;> rfl

/-- A tag with content is the only member of an object. -/
theorem asTagged?_eq_content_iff
    {json value : Json}
    {tag : String} :
    json.asTagged? = some (.content tag value) ↔
      json = .object [(tag, value)] ∧ value ≠ .null := by
  constructor
  · intro found
    unfold asTagged? at found
    split at found
    · cases found
    · cases found
    · rename_i notNull
      cases found
      exact ⟨rfl, fun isNull => notNull isNull⟩
    · cases found
  · rintro ⟨rfl, notNull⟩
    cases value <;> first | rfl | exact absurd rfl notNull

/--
A form of a structure without one of its members.

An object loses what it has under the name, and an array loses its last item if that
stands in the member's place.
-/
inductive LeavesOut
    (names : List String)
    (name : String) :
    Json → Json → Prop where
  | object
      (given : List (String × Json)) :
      LeavesOut names name
        (.object given)
        (.object (given.filter (fun entry => entry.1 != name)))
  | array
      (items : List Json)
      (last : Json)
      (inPlace : names[items.length]? = some name) :
      LeavesOut names name (.array (items ++ [last])) (.array items)

/-- Leaving out a member changes what the lookup of a name finds for this name only. -/
theorem lookup_filter_ne
    (given : List (String × Json))
    (left name : String) :
    (given.filter (fun entry => entry.1 != left)).lookup name =
      if name = left then none else given.lookup name := by
  induction given with
  | nil =>
      simp
  | cons entry rest inductionHypothesis =>
      obtain ⟨key, value⟩ := entry
      by_cases dropped : key = left
      · rw [List.filter_cons_of_neg (by simp [dropped]), inductionHypothesis]
        split
        · rfl
        · rename_i other
          rw [List.lookup_cons, beq_eq_false_iff_ne.mpr (dropped ▸ other)]
      · rw [List.filter_cons_of_pos (by simp [dropped]), List.lookup_cons, List.lookup_cons]
        cases same : name == key with
        | true =>
            rw [if_neg (beq_iff_eq.mp same ▸ dropped)]
        | false =>
            exact inductionHypothesis

/-- One table admits what another does, but for a member that may be left out there. -/
def LeavesOutIn
    (name : String)
    (member other : Member) : Prop :=
  member.name = other.name ∧
    if member.name = name then
      other.admits none
    else
      ∀ slot, member.admits slot → other.admits slot

/-- Slots that do not hold the member that is left out are admitted as before. -/
theorem admitted_of_not_mem
    {members others : List Member}
    {name : String}
    (related : List.Forall₂ (LeavesOutIn name) members others)
    (absent : name ∉ members.map Member.name)
    {slots : List (Option Json)}
    (admitted : List.Forall₂ (fun slot (member : Member) => member.admits slot) slots members) :
    List.Forall₂ (fun slot (member : Member) => member.admits slot) slots others := by
  induction related generalizing slots with
  | nil =>
      exact admitted
  | cons first later inductionHypothesis =>
      rw [List.map_cons, List.mem_cons, not_or] at absent
      cases admitted with
      | cons held rest =>
          obtain ⟨-, allows⟩ := first
          rw [if_neg (Ne.symm absent.1)] at allows
          exact .cons (allows _ held) (inductionHypothesis absent.2 rest)

/-- Items without the last one are admitted where the last one may be left out. -/
theorem admitted_of_inPlace
    {members others : List Member}
    {name : String}
    (distinct : (members.map Member.name).Nodup)
    (related : List.Forall₂ (LeavesOutIn name) members others)
    {items : List Json}
    {last : Json}
    {omitted : Nat}
    (inPlace : (members.map Member.name)[items.length]? = some name)
    (admitted :
      List.Forall₂ (fun slot (member : Member) => member.admits slot)
        (items.map some ++ some last :: List.replicate omitted none) members) :
    List.Forall₂ (fun slot (member : Member) => member.admits slot)
      (items.map some ++ none :: List.replicate omitted none) others := by
  induction items generalizing members others with
  | nil =>
      cases admitted with
      | cons held rest =>
          cases related with
          | cons first later =>
              obtain ⟨unlisted, -⟩ := List.nodup_cons.mp distinct
              have isLeft := Option.some.inj inPlace
              obtain ⟨-, allows⟩ := first
              rw [if_pos isLeft] at allows
              exact .cons allows (admitted_of_not_mem later (isLeft ▸ unlisted) rest)
  | cons item items inductionHypothesis =>
      cases admitted with
      | @cons _ member _ _ held rest =>
          cases related with
          | cons first later =>
              obtain ⟨unlisted, distinctLater⟩ := List.nodup_cons.mp distinct
              rw [List.length_cons, List.map_cons, List.getElem?_cons_succ] at inPlace
              obtain ⟨-, allows⟩ := first
              have kept : member.name ≠ name :=
                fun same => unlisted (same ▸ List.mem_of_getElem? inPlace)
              rw [if_neg kept] at allows
              exact .cons (allows _ held) (inductionHypothesis distinctLater later inPlace rest)

/--
What fits a table fits another without a member, if the other admits that this member
is left out and else what the first admits.
-/
theorem Fits.of_leavesOut
    {members others : List Member}
    {name : String}
    (distinct : (members.map Member.name).Nodup)
    (related : List.Forall₂ (LeavesOutIn name) members others)
    {json shorter : Json}
    (fits : json.Fits members)
    (left : LeavesOut (members.map Member.name) name json shorter) :
    shorter.Fits others := by
  cases left with
  | object given =>
      cases fits with
      | object once admitted =>
          refine .object (fun other listed => ?_) fun other listed => ?_
          · obtain ⟨member, isMember, sameName, -⟩ := related.exists_of_mem_right listed
            rw [← sameName]
            calc ((given.filter (fun entry => entry.1 != name)).map Prod.fst).count member.name
                ≤ (given.map Prod.fst).count member.name :=
                  (List.filter_sublist.map Prod.fst).count_le member.name
              _ ≤ 1 := once member isMember
          · obtain ⟨member, isMember, sameName, allows⟩ := related.exists_of_mem_right listed
            rw [lookup_filter_ne, ← sameName]
            split at allows
            · rename_i isLeft
              rw [if_pos isLeft]
              exact allows
            · rename_i kept
              rw [if_neg kept]
              exact allows _ (admitted member isMember)
  | array items last inPlace =>
      cases fits with
      | array omitted admitted =>
          rw [List.map_append, List.append_assoc] at admitted
          exact .array (omitted + 1) (admitted_of_inPlace distinct related inPlace admitted)

/-- Without a member, a value is read as the one with the member's default. -/
def MayLeaveOut
    (names : List String)
    (read : Json → Option α)
    (name : String)
    (reset : α → α) : Prop :=
  ∀ json shorter value,
    LeavesOut names name json shorter → read json = some value → read shorter = some (reset value)

/-- An object with all members in order is read as the array of what they hold. -/
def ReadsInOrder
    (names : List String)
    (read : Json → Option α) : Prop :=
  ∀ items, items.length = names.length → read (.object (names.zip items)) = read (.array items)

/--
A reader and two writers, of which the second writes arrays for the structures inside.

What either writes is read back, and nothing is read but the spellings of a value.
-/
structure Codec
    (write writeArrays : α → Json)
    (read : Json → Option α)
    (spells : α → Json → Prop) : Prop where
  roundTrip : ∀ value, read (write value) = some value
  arrays : ∀ value, read (writeArrays value) = some value
  exact : ∀ json value, read json = some value ↔ spells value json

/-- Written values that spell what they are written for are read back. -/
theorem Codec.of_spelled
    {write writeArrays : α → Json}
    {read : Json → Option α}
    {spells : α → Json → Prop}
    [reads : Reads read spells]
    (written : ∀ value, spells value (write value))
    (writtenArrays : ∀ value, spells value (writeArrays value)) :
    Codec write writeArrays read spells where
  roundTrip value := (reads.eq_some_iff _ value).mpr (written value)
  arrays value := (reads.eq_some_iff _ value).mpr (writtenArrays value)
  exact := reads.eq_some_iff

/--
A codec of a structure with these member names.

Its objects may be rewritten as arrays, and the listed members may be left out.
-/
structure StructureCodec
    (names : List String)
    (write writeArrays : α → Json)
    (read : Json → Option α)
    (spells : α → Json → Prop)
    (resets : List (String × (α → α))) : Prop
    extends Codec write writeArrays read spells where
  inOrder : ReadsInOrder names read
  mayLeaveOut : ∀ reset ∈ resets, MayLeaveOut names read reset.1 reset.2

section Tables

variable {names : List String} {read : Json → Option α} (members : α → List Member)
variable [reads : Reads read (fun value json => json.Fits (members value))]

/-- A reader of what fits a table does not tell an object from the array of its members. -/
theorem readsInOrder_of_members
    (named : ∀ value, (members value).map Member.name = names)
    (distinct : names.Nodup) :
    ReadsInOrder names read := by
  intro items full
  refine Option.ext fun value => ?_
  rw [reads.eq_some_iff, reads.eq_some_iff, fits_iff names (named value),
    fits_iff names (named value), slots?_zip distinct full]

/-- A member may be left out if the tables differ only in admitting this. -/
theorem mayLeaveOut_of_members
    (named : ∀ value, (members value).map Member.name = names)
    (distinct : names.Nodup)
    {name : String}
    {reset : α → α}
    (related :
      ∀ value, List.Forall₂ (LeavesOutIn name) (members value) (members (reset value))) :
    MayLeaveOut names read name reset := by
  intro json shorter value left found
  have named := named value
  subst named
  exact (reads.eq_some_iff shorter (reset value)).mpr
    (((reads.eq_some_iff json value).mp found).of_leavesOut distinct (related value) left)

/-- A table with distinct names makes a codec of what is written and read by it. -/
theorem StructureCodec.of_members
    {write writeArrays : α → Json}
    {resets : List (String × (α → α))}
    (named : ∀ value, (members value).map Member.name = names)
    (distinct : names.Nodup)
    (written : ∀ value, (write value).Fits (members value))
    (writtenArrays : ∀ value, (writeArrays value).Fits (members value))
    (related :
      ∀ reset ∈ resets, ∀ value,
        List.Forall₂ (LeavesOutIn reset.1) (members value) (members (reset.2 value))) :
    StructureCodec names write writeArrays read
      (fun value json => json.Fits (members value)) resets where
  toCodec := .of_spelled written writtenArrays
  inOrder := readsInOrder_of_members members named distinct
  mayLeaveOut reset listed :=
    mayLeaveOut_of_members members named distinct (related reset listed)

end Tables

end Wiring.Json
