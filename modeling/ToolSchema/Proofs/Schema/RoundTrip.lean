import ToolSchema.Manifest
import ToolSchema.Proofs.Json.Restores

/-!
# Tools are read back

The JSON of a tool says all that there is to say about the tool. The decoder of each part of a
schema restores that part, in the order in which the parts are nested, and so a tool is read back
from its text in either layout and from its value, and a list of tools from the text that is made of
it (`tool_restored`).

Two things are asked of a tool. Its properties must have different names, as the keys of a
dictionary have. And the allowed values of a parameter must be strings, truth values or integers, as
those are that documentation can give.
-/

namespace ToolSchema

open Json Decoder

/-- The tool has at most one property of each name, and allows only plain values. -/
structure Tool.IsWritable (t : Tool) : Prop where
  names_nodup : (t.function.parameters.properties.map Prod.fst).Nodup
  isPlain_of_mem : ∀ m ∈ t.function.parameters.properties, ∀ vs, m.2.enumValues = some vs →
    ∀ v ∈ vs, v.isPlain = true

/-! ### Parts of a schema -/

variable {room : Nat}

theorem restores_jsonType (t : JsonType) : JsonType.decoder.Restores room t.toJson t :=
  restores_names (by cases t <;> decide)

theorem restores_itemsType (t : JsonType) :
    itemsDecoder.Restores (room + 1) (itemsJson t) t :=
  restores_record (by decide) (.required (restores_jsonType t) (.nil t))

theorem restores_listAny {vs : List Json} (h : ∀ v ∈ vs, v.isPlain = true) :
    (list .any).Restores (room + 1) (.array vs) vs := by
  have hlist : (list .any).Restores (room + 1) (.array (vs.map id)) vs :=
    restores_list fun v hv ↦ restores_any (h v hv)
  rwa [List.map_id] at hlist

theorem restores_strings (texts : List String) :
    (list .string).Restores (room + 1) (ofStrings texts) texts :=
  restores_list fun s _ ↦ restores_string s

/-- A property is restored; a part that it does not have is not written, and so is not there
afterwards. -/
theorem restores_property {p : Property}
    (h : ∀ vs, p.enumValues = some vs → ∀ v ∈ vs, v.isPlain = true) :
    Property.decoder.Restores (room + 2) p.toJson p := by
  have hjson : p.toJson = .object (("type", p.type.toJson) ::
      ("description", .string p.description) :: (optionalMember "enum" Json.array p.enumValues ++
        (optionalMember "items" itemsJson p.itemsType ++
          (optionalMember "minItems" Json.ofUInt64 p.minItems ++
            (optionalMember "maxItems" Json.ofUInt64 p.maxItems ++ []))))) := by
    simp only [Property.toJson, List.append_assoc, List.cons_append, List.nil_append,
      List.append_nil]
  rw [hjson]
  exact restores_record (by decide) <|
    .required (restores_jsonType p.type) <|
    .required (restores_string p.description) <|
    .optional (fun vs hvs ↦ restores_listAny (h vs hvs)) rfl <|
    .optional (fun t _ ↦ restores_itemsType t) rfl <|
    .optional (fun n _ ↦ restores_u64 n) rfl <|
    .optional (fun n _ ↦ restores_u64 n) rfl <|
    .nil p

theorem restores_parameters {p : Parameters} (hnd : (p.properties.map Prod.fst).Nodup)
    (h : ∀ m ∈ p.properties, ∀ vs, m.2.enumValues = some vs → ∀ v ∈ vs, v.isPlain = true) :
    Parameters.decoder.Restores (room + 4) p.toJson p :=
  restores_record (by decide) <|
    .required (restores_jsonType p.type) <|
    .required (restores_dictionary hnd fun m hm ↦ restores_property (h m hm)) <|
    .required (restores_strings p.required) <|
    .nil p

/-- **A tool is restored**, with its properties in their order. -/
theorem restores_tool {t : Tool} (h : t.IsWritable) :
    Tool.decoder.Restores (room + 6) t.toJson t := by
  have hfunction : FunctionSchema.decoder.Restores (room + 5) t.function.toJson t.function :=
    restores_record (by decide) <|
      .required (restores_string t.function.name) <|
      .required (restores_string t.function.description) <|
      .required (restores_parameters h.names_nodup h.isPlain_of_mem) <|
      .nil t.function
  have hkind : (names [("function", ())]).Restores (room + 5) (.string "function") () :=
    restores_names (by decide)
  exact restores_record (by decide) <| .required hkind <| .required hfunction <| .nil t

/-! ### Texts of tools -/

/-- **Tools are read back.** A tool with distinct property names and plain allowed values is what is
read from its text, in one line or laid out, and from its value; the order of its properties is the
same. A list of such tools is what is read from the text of the list, in either layout. -/
theorem tool_restored :
    (∀ t : Tool, t.IsWritable →
      (∀ layout, Tool.decoder.readText (t.text layout) = .ok t) ∧
        Tool.decoder.readValue t.toJson = .ok t) ∧
      ∀ ts : List Tool, (∀ t ∈ ts, t.IsWritable) →
        ∀ pretty, (Decoder.list Tool.decoder).readText (renderTools pretty ts) = .ok ts := by
  constructor
  · intro t ht
    have h : Tool.decoder.Restores maxDepth t.toJson t := restores_tool ht
    exact ⟨h.readText, h.readValue⟩
  · intro ts hts pretty
    have h : (Decoder.list Tool.decoder).Restores maxDepth (.array (ts.map Tool.toJson)) ts :=
      restores_list fun t ht ↦ restores_tool (hts t ht)
    exact h.readText _

/-- Property names that are not sorted, one of them empty and one with a quote, a backslash and a
line feed; a description with a control character; allowed values of all kinds, the least and the
greatest integer among them; bounds at both ends of their range. -/
theorem tool_restored_escaped :
    let least : Integer64 := ⟨-9223372036854775808, by decide, by decide⟩
    let greatest : Integer64 := ⟨18446744073709551615, by decide, by decide⟩
    let values : List Json :=
      [.string "\"\\/", .bool false, .number (.integer least), .number (.integer greatest)]
    let properties : List (String × Property) :=
      [("z\"\\\n", ⟨.array, "bell \x07", some values, some .integer, some 0,
          some 18446744073709551615⟩),
        ("", ⟨.null, "", none, none, none, none⟩),
        ("größe", ⟨.number, "\u2028", some [], none, none, none⟩)]
    let t : Tool := ⟨⟨"größe", "", { properties, required := ["", "z\"\\\n"] }⟩⟩
    (Tool.decoder.readText (t.text .compact) = .ok t ∧
      Tool.decoder.readText (t.text .pretty) = .ok t ∧
      Tool.decoder.readValue t.toJson = .ok t) ∧
      (Decoder.list Tool.decoder).readText (renderTools true [t, t]) = .ok [t, t] := by
  intro least greatest values properties t
  have ht : t.IsWritable := ⟨by decide, by simp [t, properties, values, Json.isPlain]⟩
  obtain ⟨hone, hlist⟩ := tool_restored
  obtain ⟨htext, hvalue⟩ := hone t ht
  exact ⟨⟨htext .compact, htext .pretty, hvalue⟩, hlist [t, t] (by simpa using ht) true⟩

end ToolSchema
