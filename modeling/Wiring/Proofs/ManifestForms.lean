import Mathlib.Tactic.Simproc.ExistsAndEq
import Wiring.Manifest.Job
import Wiring.Proofs.JsonForms

namespace Wiring

/-!
# Forms of manifests

Each type of a manifest has a table of what its members may hold, and a value is read
exactly from what fits its table. Tables name the tables of the types inside, so an
object may be replaced by an array at any depth, and members with a default may be
left out at any depth.
-/

namespace Kind

/-- A kind is spelled by its tag, bare or with nothing in it. -/
def Spelled
    (kind : Kind)
    (json : Json) : Prop :=
  json = .string kind.tag ∨ json = .object [(kind.tag, .null)]

@[simp] theorem spelled_toJson (kind : Kind) : kind.Spelled kind.toJson :=
  .inl rfl

/-- A tag belongs to one kind. -/
theorem ofTag?_eq_some_iff
    {text : String}
    {kind : Kind} :
    ofTag? text = some kind ↔ kind.tag = text := by
  constructor
  · intro found
    simpa using List.find?_some found
  · rintro rfl
    cases kind <;> rfl

instance : Json.Reads ofJson? Spelled where
  eq_some_iff json kind := by
    rw [Spelled, ← Json.asTagged?_eq_plain_iff]
    unfold ofJson?
    split
    · rename_i tag tagged
      rw [tagged, ofTag?_eq_some_iff, Option.some_inj, Json.Tagged.plain.injEq, eq_comm]
    · rename_i notPlain
      exact iff_of_false (by simp) (notPlain _)

theorem codec : Json.Codec toJson toJson ofJson? Spelled :=
  .of_spelled spelled_toJson spelled_toJson

end Kind

namespace NamedType

/-- Write a type with arrays for the structures. -/
def toArrays (type : NamedType) : Json :=
  .array [
    .string type.importPath,
    .string type.name,
    .bool type.pointer,
    type.kind.toJson]

/-- What the members of a type hold. -/
def members (type : NamedType) : List Json.Member :=
  [⟨"import", Json.Given Json.SpellsText type.importPath⟩,
    ⟨"name", Json.Given Json.SpellsText type.name⟩,
    ⟨"pointer", Json.Given Json.SpellsFlag type.pointer⟩,
    ⟨"kind", Json.Defaulted .unknown Kind.Spelled type.kind⟩]

/-- A type is spelled by what fits its members. -/
def Spelled
    (type : NamedType)
    (json : Json) : Prop :=
  json.Fits type.members

instance : Json.Reads ofJson? Spelled where
  eq_some_iff json type := by
    rw [Spelled, Json.fits_iff memberNames rfl]
    unfold ofJson?
    split
    · rename_i found
      cases type
      simp [members, found, Option.bind_eq_some_iff, -Bool.exists_bool]
    · rename_i unmatched
      refine iff_of_false (by simp) ?_
      rintro ⟨_, found, _ | ⟨_, _ | ⟨_, _ | ⟨_, _ | ⟨_, ⟨⟩⟩⟩⟩⟩⟩
      exact unmatched _ _ _ _ found

@[simp] theorem spelled_toJson (type : NamedType) : type.Spelled type.toJson :=
  Json.Fits.of_written memberNames rfl (by decide) (by simp [members])

@[simp] theorem spelled_toArrays (type : NamedType) : type.Spelled type.toArrays :=
  .array 0 (by simp [members])

/-- The members of a type with a default, and what it is with the default. -/
def resets : List (String × (NamedType → NamedType)) :=
  [("kind", fun type => { type with kind := .unknown })]

/-- A type is read back as written, exactly from what spells it. -/
theorem codec :
    Json.StructureCodec memberNames toJson toArrays ofJson? Spelled resets :=
  .of_members members (fun _ => rfl) (by decide) spelled_toJson spelled_toArrays
    (by simp [resets, members, Json.LeavesOutIn, Json.Defaulted])

end NamedType

namespace Field

/-- Write a field with arrays for the structures. -/
def toArrays (field : Field) : Json :=
  .array [
    .string field.name,
    field.type.toArrays]

/-- What the members of a field hold. -/
def members (field : Field) : List Json.Member :=
  [⟨"name", Json.Given Json.SpellsText field.name⟩,
    ⟨"ty", Json.Given NamedType.Spelled field.type⟩]

/-- A field is spelled by what fits its members. -/
def Spelled
    (field : Field)
    (json : Json) : Prop :=
  json.Fits field.members

instance : Json.Reads ofJson? Spelled where
  eq_some_iff json field := by
    rw [Spelled, Json.fits_iff memberNames rfl]
    unfold ofJson?
    split
    · rename_i found
      cases field
      simp [members, found, Option.bind_eq_some_iff, -Bool.exists_bool]
    · rename_i unmatched
      refine iff_of_false (by simp) ?_
      rintro ⟨_, found, _ | ⟨_, _ | ⟨_, ⟨⟩⟩⟩⟩
      exact unmatched _ _ found

@[simp] theorem spelled_toJson (field : Field) : field.Spelled field.toJson :=
  Json.Fits.of_written memberNames rfl (by decide) (by simp [members])

@[simp] theorem spelled_toArrays (field : Field) : field.Spelled field.toArrays :=
  .array 0 (by simp [members])

theorem codec : Json.StructureCodec memberNames toJson toArrays ofJson? Spelled [] :=
  .of_members members (fun _ => rfl) (by decide) spelled_toJson spelled_toArrays (by simp)

end Field

namespace Record

/-- Write a record with arrays for the structures. -/
def toArrays (record : Record) : Json :=
  .array [
    record.type.toArrays,
    Json.ofList Field.toArrays record.fields]

/-- What the members of a record hold. -/
def members (record : Record) : List Json.Member :=
  [⟨"ty", Json.Given NamedType.Spelled record.type⟩,
    ⟨"fields", Json.Given (Json.SpellsEach Field.Spelled) record.fields⟩]

/-- A record is spelled by what fits its members. -/
def Spelled
    (record : Record)
    (json : Json) : Prop :=
  json.Fits record.members

instance : Json.Reads ofJson? Spelled where
  eq_some_iff json record := by
    rw [Spelled, Json.fits_iff memberNames rfl]
    unfold ofJson?
    split
    · rename_i found
      cases record
      simp [members, found, Option.bind_eq_some_iff, -Bool.exists_bool]
    · rename_i unmatched
      refine iff_of_false (by simp) ?_
      rintro ⟨_, found, _ | ⟨_, _ | ⟨_, ⟨⟩⟩⟩⟩
      exact unmatched _ _ found

@[simp] theorem spelled_toJson (record : Record) : record.Spelled record.toJson :=
  Json.Fits.of_written memberNames rfl (by decide) (by simp [members])

@[simp] theorem spelled_toArrays (record : Record) : record.Spelled record.toArrays :=
  .array 0 (by simp [members])

theorem codec : Json.StructureCodec memberNames toJson toArrays ofJson? Spelled [] :=
  .of_members members (fun _ => rfl) (by decide) spelled_toJson spelled_toArrays (by simp)

end Record

namespace Need

/-- Write a need with arrays for the structures. -/
def toArrays : Need → Json
  | .named type => .object [("Type", type.toArrays)]
  | .record listed => .object [("Struct", listed.toArrays)]
  | .error => .string "Error"

/-- A need is spelled by a tag with what it asks for, and the error slot by a tag alone. -/
def Spelled : Need → Json → Prop
  | .named type, json => ∃ content, json = .object [("Type", content)] ∧ type.Spelled content
  | .record listed, json => ∃ content, json = .object [("Struct", content)] ∧ listed.Spelled content
  | .error, json => json = .string "Error" ∨ json = .object [("Error", .null)]

instance : Json.Reads ofJson? Spelled where
  eq_some_iff json need := by
    constructor
    · intro found
      unfold ofJson? at found
      split at found
      · rename_i tag content tagged
        obtain ⟨rfl, -⟩ := Json.asTagged?_eq_content_iff.mp tagged
        split at found
        · rename_i isType
          obtain ⟨type, read, rfl⟩ := Option.map_eq_some_iff.mp found
          exact ⟨content, isType ▸ rfl, (Json.Reads.eq_some_iff content type).mp read⟩
        · split at found
          · rename_i isStruct
            obtain ⟨listed, read, rfl⟩ := Option.map_eq_some_iff.mp found
            exact ⟨content, isStruct ▸ rfl, (Json.Reads.eq_some_iff content listed).mp read⟩
          · cases found
      · rename_i tag tagged
        split at found
        · rename_i isError
          cases found
          exact Json.asTagged?_eq_plain_iff.mp (isError ▸ tagged)
        · cases found
      · cases found
    · intro spelled
      unfold ofJson?
      cases need with
      | named type =>
          obtain ⟨content, rfl, spelled⟩ := spelled
          rw [Json.asTagged?_eq_content_iff.mpr ⟨rfl, spelled.ne_null⟩]
          simp [(Json.Reads.eq_some_iff content type).mpr spelled]
      | record listed =>
          obtain ⟨content, rfl, spelled⟩ := spelled
          rw [Json.asTagged?_eq_content_iff.mpr ⟨rfl, spelled.ne_null⟩]
          simp [(Json.Reads.eq_some_iff content listed).mpr spelled]
      | error =>
          rw [Json.asTagged?_eq_plain_iff.mpr spelled]
          rfl

@[simp] theorem spelled_toJson (need : Need) : need.Spelled need.toJson := by
  cases need with
  | named type => exact ⟨_, rfl, type.spelled_toJson⟩
  | record listed => exact ⟨_, rfl, listed.spelled_toJson⟩
  | error => exact .inl rfl

@[simp] theorem spelled_toArrays (need : Need) : need.Spelled need.toArrays := by
  cases need with
  | named type => exact ⟨_, rfl, type.spelled_toArrays⟩
  | record listed => exact ⟨_, rfl, listed.spelled_toArrays⟩
  | error => exact .inl rfl

theorem codec : Json.Codec toJson toArrays ofJson? Spelled :=
  .of_spelled spelled_toJson spelled_toArrays

end Need

namespace Import

/-- Write an import with arrays for the structures. -/
def toArrays (entry : Import) : Json :=
  .array [
    .string entry.path,
    .string entry.name]

/-- What the members of an import hold. -/
def members (entry : Import) : List Json.Member :=
  [⟨"path", Json.Given Json.SpellsText entry.path⟩,
    ⟨"alias", Json.Given Json.SpellsText entry.name⟩]

/-- An import is spelled by what fits its members. -/
def Spelled
    (entry : Import)
    (json : Json) : Prop :=
  json.Fits entry.members

instance : Json.Reads ofJson? Spelled where
  eq_some_iff json entry := by
    rw [Spelled, Json.fits_iff memberNames rfl]
    unfold ofJson?
    split
    · rename_i found
      cases entry
      simp [members, found, Option.bind_eq_some_iff, -Bool.exists_bool]
    · rename_i unmatched
      refine iff_of_false (by simp) ?_
      rintro ⟨_, found, _ | ⟨_, _ | ⟨_, ⟨⟩⟩⟩⟩
      exact unmatched _ _ found

@[simp] theorem spelled_toJson (entry : Import) : entry.Spelled entry.toJson :=
  Json.Fits.of_written memberNames rfl (by decide) (by simp [members])

@[simp] theorem spelled_toArrays (entry : Import) : entry.Spelled entry.toArrays :=
  .array 0 (by simp [members])

theorem codec : Json.StructureCodec memberNames toJson toArrays ofJson? Spelled [] :=
  .of_members members (fun _ => rfl) (by decide) spelled_toJson spelled_toArrays (by simp)

end Import

namespace Job

namespace Param

/-- Write a param with arrays for the structures. -/
def toArrays (param : Param) : Json :=
  .array [
    param.need.toArrays,
    .bool param.hoist]

/-- What the members of a param hold. -/
def members (param : Param) : List Json.Member :=
  [⟨"dependency", Json.Given Need.Spelled param.need⟩,
    ⟨"hoist", Json.Defaulted false Json.SpellsFlag param.hoist⟩]

/-- A param is spelled by what fits its members. -/
def Spelled
    (param : Param)
    (json : Json) : Prop :=
  json.Fits param.members

instance : Json.Reads ofJson? Spelled where
  eq_some_iff json param := by
    rw [Spelled, Json.fits_iff memberNames rfl]
    unfold ofJson?
    split
    · rename_i found
      cases param
      simp [members, found, Option.bind_eq_some_iff, -Bool.exists_bool]
    · rename_i unmatched
      refine iff_of_false (by simp) ?_
      rintro ⟨_, found, _ | ⟨_, _ | ⟨_, ⟨⟩⟩⟩⟩
      exact unmatched _ _ found

@[simp] theorem spelled_toJson (param : Param) : param.Spelled param.toJson :=
  Json.Fits.of_written memberNames rfl (by decide) (by simp [members])

@[simp] theorem spelled_toArrays (param : Param) : param.Spelled param.toArrays :=
  .array 0 (by simp [members])

/-- The members of a param with a default, and what it is with the default. -/
def resets : List (String × (Param → Param)) :=
  [("hoist", fun param => { param with hoist := false })]

/-- A param is read back as written, exactly from what spells it. -/
theorem codec :
    Json.StructureCodec memberNames toJson toArrays ofJson? Spelled resets :=
  .of_members members (fun _ => rfl) (by decide) spelled_toJson spelled_toArrays
    (by simp [resets, members, Json.LeavesOutIn, Json.Defaulted])

end Param

namespace Redirect

/-- Write a redirect with arrays for the structures. -/
def toArrays (redirect : Redirect) : Json :=
  .array [
    redirect.replaced.toArrays,
    redirect.replacement.toArrays]

/-- What the members of a redirect hold. -/
def members (redirect : Redirect) : List Json.Member :=
  [⟨"from", Json.Given Need.Spelled redirect.replaced⟩,
    ⟨"to", Json.Given Need.Spelled redirect.replacement⟩]

/-- A redirect is spelled by what fits its members. -/
def Spelled
    (redirect : Redirect)
    (json : Json) : Prop :=
  json.Fits redirect.members

instance : Json.Reads ofJson? Spelled where
  eq_some_iff json redirect := by
    rw [Spelled, Json.fits_iff memberNames rfl]
    unfold ofJson?
    split
    · rename_i found
      cases redirect
      simp [members, found, Option.bind_eq_some_iff, -Bool.exists_bool]
    · rename_i unmatched
      refine iff_of_false (by simp) ?_
      rintro ⟨_, found, _ | ⟨_, _ | ⟨_, ⟨⟩⟩⟩⟩
      exact unmatched _ _ found

@[simp] theorem spelled_toJson (redirect : Redirect) : redirect.Spelled redirect.toJson :=
  Json.Fits.of_written memberNames rfl (by decide) (by simp [members])

@[simp] theorem spelled_toArrays (redirect : Redirect) : redirect.Spelled redirect.toArrays :=
  .array 0 (by simp [members])

theorem codec : Json.StructureCodec memberNames toJson toArrays ofJson? Spelled [] :=
  .of_members members (fun _ => rfl) (by decide) spelled_toJson spelled_toArrays (by simp)

end Redirect

/-- Write a job with arrays for the structures. -/
def toArrays (job : Job) : Json :=
  .array [
    .string job.name,
    .string job.importPath,
    Json.ofOption .string job.package,
    Json.ofList Param.toArrays job.params,
    Json.ofList Need.toArrays job.results,
    Json.ofList Redirect.toArrays job.redirects,
    .bool job.hoist,
    Json.ofList Import.toArrays job.imports]

/-- What the members of a job hold. -/
def members (job : Job) : List Json.Member :=
  [⟨"name", Json.Given Json.SpellsText job.name⟩,
    ⟨"target", Json.Given Json.SpellsText job.importPath⟩,
    ⟨"package", Json.Defaulted none (Json.SpellsOption Json.SpellsText) job.package⟩,
    ⟨"params", Json.Defaulted [] (Json.SpellsEach Param.Spelled) job.params⟩,
    ⟨"results", Json.Given (Json.SpellsEach Need.Spelled) job.results⟩,
    ⟨"aliases", Json.Defaulted [] (Json.SpellsEach Redirect.Spelled) job.redirects⟩,
    ⟨"hoist", Json.Defaulted false Json.SpellsFlag job.hoist⟩,
    ⟨"imports", Json.Defaulted [] (Json.SpellsEach Import.Spelled) job.imports⟩]

/-- A job is spelled by what fits its members. -/
def Spelled
    (job : Job)
    (json : Json) : Prop :=
  json.Fits job.members

instance : Json.Reads ofJson? Spelled where
  eq_some_iff json job := by
    rw [Spelled, Json.fits_iff memberNames rfl]
    unfold ofJson?
    split
    · rename_i found
      cases job
      simp [members, found, Option.bind_eq_some_iff, -Bool.exists_bool]
    · rename_i unmatched
      refine iff_of_false (by simp) ?_
      rintro ⟨_, found, _ | ⟨_, _ | ⟨_, _ | ⟨_, _ | ⟨_, _ | ⟨_, _ | ⟨_, _ | ⟨_, _ | ⟨_, ⟨⟩⟩⟩⟩⟩⟩⟩⟩⟩⟩
      exact unmatched _ _ _ _ _ _ _ _ found

@[simp] theorem spelled_toJson (job : Job) : job.Spelled job.toJson :=
  Json.Fits.of_written memberNames rfl (by decide) (by simp [members])

@[simp] theorem spelled_toArrays (job : Job) : job.Spelled job.toArrays :=
  .array 0 (by simp [members])

/-- The members of a job with a default, and what it is with the default. -/
def resets : List (String × (Job → Job)) :=
  [("package", fun job => { job with package := none }),
    ("params", fun job => { job with params := [] }),
    ("aliases", fun job => { job with redirects := [] }),
    ("hoist", fun job => { job with hoist := false }),
    ("imports", fun job => { job with imports := [] })]

/-- A job is read back as written, exactly from what spells it. -/
theorem codec :
    Json.StructureCodec memberNames toJson toArrays ofJson? Spelled resets :=
  .of_members members (fun _ => rfl) (by decide) spelled_toJson spelled_toArrays
    (by simp [resets, members, Json.LeavesOutIn, Json.Defaulted])

end Job

/--
Manifests are read back as written, with objects or with arrays, and members with a
default may be left out.

Each reader accepts exactly the spellings of its values. These name the spellings of
the values inside, so both choices may be made at any depth.
-/
theorem manifest_codecs :
    Json.Codec Kind.toJson Kind.toJson Kind.ofJson? Kind.Spelled ∧
      Json.StructureCodec NamedType.memberNames NamedType.toJson NamedType.toArrays
        NamedType.ofJson? NamedType.Spelled NamedType.resets ∧
      Json.StructureCodec Field.memberNames Field.toJson Field.toArrays
        Field.ofJson? Field.Spelled [] ∧
      Json.StructureCodec Record.memberNames Record.toJson Record.toArrays
        Record.ofJson? Record.Spelled [] ∧
      Json.Codec Need.toJson Need.toArrays Need.ofJson? Need.Spelled ∧
      Json.StructureCodec Import.memberNames Import.toJson Import.toArrays
        Import.ofJson? Import.Spelled [] ∧
      Json.StructureCodec Job.Param.memberNames Job.Param.toJson Job.Param.toArrays
        Job.Param.ofJson? Job.Param.Spelled Job.Param.resets ∧
      Json.StructureCodec Job.Redirect.memberNames Job.Redirect.toJson Job.Redirect.toArrays
        Job.Redirect.ofJson? Job.Redirect.Spelled [] ∧
      Json.StructureCodec Job.memberNames Job.toJson Job.toArrays
        Job.ofJson? Job.Spelled Job.resets :=
  ⟨Kind.codec, NamedType.codec, Field.codec, Record.codec, Need.codec, Import.codec,
    Job.Param.codec, Job.Redirect.codec, Job.codec⟩

/-- A job of arrays, without the members that may be left out at the end of each. -/
example :
    Job.ofJson?
        (.array [
          .string "Provide",
          .string "p",
          .null,
          .array [.array [.string "Error"]],
          .array [.object [("Type", .array [.string "p", .string "*Store", .bool false])]]]) =
      some {
        name := "Provide"
        importPath := "p"
        package := none
        params := [{ need := .error, hoist := false }]
        results :=
          [.named { importPath := "p", name := "*Store", pointer := false, kind := .unknown }]
        redirects := []
        hoist := false
        imports := [] } :=
  rfl

end Wiring
