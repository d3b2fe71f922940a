import ToolSchema.Manifest
import ToolSchema.Proofs.Json.Restores

/-!
# Targets and manifests are read back

What is not there is not written: a parameter without a description has no such member, and neither
has a target without documentation or a class without a constructor. All this comes back as it was
(`target_restored`), whatever texts the names, paths and comments are, the empty text among them.

A target has its kind in a member of its own and is kept whole until the kind is known, so that its
other members are decoded from values, also where a text is read. So the decoders of functions and
classes are restored first, and the tag is put in front of their members.
-/

namespace ToolSchema

open Json Decoder

variable {room : Nat}

/-! ### Parameters and documentation -/

theorem restores_location (l : Location) :
    Location.decoder.Restores (room + 1) l.toJson l := by
  have hfile : Path.decoder.Restores room (.string l.file.text) l.file :=
    (restores_text "path string" l.file.text).map Path.mk
  exact restores_record (by decide) <| .required hfile <| .required (restores_u32 l.line) <| .nil l

theorem restores_param (p : Param) : Param.decoder.Restores (room + 1) p.toJson p := by
  have hkind : ParamKind.decoder.Restores room p.kind.toJson p.kind :=
    restores_names (by cases p.kind <;> decide)
  have hjson : p.toJson = .object (("name", .string p.name) :: ("kind", p.kind.toJson) ::
      (optionalMember "doc" Json.string p.doc ++ [])) := by
    simp only [Param.toJson, List.cons_append, List.nil_append, List.append_nil]
  rw [hjson]
  exact restores_record (by decide) <|
    .required (restores_string p.name) <|
    .required hkind <|
    .optional (fun s _ ↦ restores_string s) rfl <|
    .nil p

/-- Documentation that is there is restored as the member of a record, and so is its absence. -/
theorem recordMembers_docs {α : Type} {fields : List (Decoder.Field α)}
    {set : DocSource → α → α} {a b : α} {ms : List (String × Json)} {docs : DocSource}
    (hset : set .none a = a)
    (h : RecordMembers (room + 2) fields (set docs a) ms b) :
    RecordMembers (room + 2) (.defaulted "docs" DocSource.decoder set :: fields) a
      (docs.member ++ ms) b := by
  cases docs with
  | none =>
    rw [hset] at h
    exact .absent rfl h
  | inline text =>
    have htext : DocSource.decoder.Restores (room + 2) (DocSource.inline text).toJson
        (.inline text) :=
      restores_carrying rfl ((restores_string text).map DocSource.inline)
    exact .defaulted htext h
  | location l =>
    have hlocation : DocSource.decoder.Restores (room + 2) (DocSource.location l).toJson
        (.location l) :=
      restores_carrying rfl ((restores_location l).map DocSource.location)
    exact .defaulted hlocation h

/-! ### Functions and classes -/

theorem restores_callable (c : Callable) : Callable.decoder.Restores (room + 3) c.toJson c := by
  have hparams : (Decoder.list Param.decoder).Restores (room + 2) (paramsJson c.params) c.params :=
    restores_list fun p _ ↦ restores_param p
  have hjson : c.toJson = .object (("name", .string c.name) :: ("params", paramsJson c.params) ::
      (c.docs.member ++ [])) := by
    simp only [Callable.toJson, Callable.members, List.cons_append, List.nil_append,
      List.append_nil]
  rw [hjson]
  exact restores_record (by decide) <|
    .required (restores_string c.name) <|
    .defaulted hparams <|
    recordMembers_docs rfl <|
    .nil c

theorem restores_classTarget (c : ClassTarget) :
    ClassTarget.decoder.Restores (room + 4) (.object c.members) c := by
  have hjson : c.members = ("name", .string c.name) ::
      (c.docs.member ++ (optionalMember "constructor" Callable.toJson c.constructor ++ [])) := by
    simp only [ClassTarget.members, List.cons_append, List.nil_append, List.append_nil]
  rw [hjson]
  exact restores_record (by decide) <|
    .required (restores_string c.name) <|
    recordMembers_docs rfl <|
    .optional (fun f _ ↦ restores_callable f) rfl <|
    .nil c

/-! ### Targets -/

/-- **A target is restored** with its kind. -/
theorem restores_target (t : Target) : Target.decoder.Restores (room + 4) t.toJson t := by
  cases t with
  | function c =>
    have hkey : "kind" ∉ c.members.map Prod.fst := by
      obtain ⟨name, params, docs⟩ := c
      cases docs <;> simp [Callable.members, DocSource.member]
    exact restores_tagged rfl hkey ((restores_callable c).map Target.function)
  | classType c =>
    have hkey : "kind" ∉ c.members.map Prod.fst := by
      obtain ⟨name, docs, constructor⟩ := c
      cases docs <;> cases constructor <;>
        simp [ClassTarget.members, DocSource.member, optionalMember]
    exact restores_tagged rfl hkey ((restores_classTarget c).map Target.classType)

theorem restores_manifest (m : Manifest) : Manifest.decoder.Restores (room + 6) m.toJson m :=
  restores_record (by decide) <| .required (restores_list fun t _ ↦ restores_target t) <| .nil m

/-- **Targets and manifests are read back** from their texts, in either layout, and from their
values. So no two targets have the same text. -/
theorem target_restored :
    (∀ t : Target, (∀ layout, Target.decoder.readText (t.toJson.text layout) = .ok t) ∧
      Target.decoder.readValue t.toJson = .ok t) ∧
      (∀ m : Manifest, (∀ layout, Manifest.decoder.readText (m.toJson.text layout) = .ok m) ∧
        Manifest.decoder.readValue m.toJson = .ok m) ∧
      Function.Injective Target.text := by
  have htarget (t : Target) : Target.decoder.Restores maxDepth t.toJson t := restores_target t
  have hmanifest (m : Manifest) : Manifest.decoder.Restores maxDepth m.toJson m :=
    restores_manifest m
  refine ⟨fun t ↦ ⟨(htarget t).readText, (htarget t).readValue⟩,
    fun m ↦ ⟨(hmanifest m).readText, (hmanifest m).readValue⟩, fun t t' h ↦ ?_⟩
  have ht : Target.decoder.readText t.text = .ok t := (htarget t).readText .compact
  have ht' : Target.decoder.readText t'.text = .ok t' := (htarget t').readText .compact
  rw [h, ht'] at ht
  exact (Except.ok.inj ht).symm

end ToolSchema
