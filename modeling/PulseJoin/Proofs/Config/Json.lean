import PulseJoin.Proofs.Config.Decode
import PulseJoin.Proofs.Text.Json.Data

/-!
# Configurations through JSON

A configuration that can be run is loaded from the JSON text it is written as
(`Config.load_toJson`).
-/

namespace PulseJoin

open Text

/-! ## Records -/

open Text.Json.Value (Faithful)

theorem Schedule.toJsonValue_faithful (s : Schedule) : s.toJsonValue.Faithful := by
  refine .record _ fun f hf => ?_
  simp only [List.mem_cons, List.not_mem_nil, or_false] at hf
  rcases hf with rfl | rfl | rfl
  · exact .text _
  · exact .int64 _
  · exact .int64 _

theorem DeliveryMode.toJsonValue_faithful (d : DeliveryMode) : d.toJsonValue.Faithful := by
  refine .record _ fun f hf => ?_
  cases d with
  | push capacity =>
    simp only [List.mem_cons, List.not_mem_nil, or_false] at hf
    rcases hf with rfl | rfl
    · exact .text _
    · exact .uint64 _
  | pull =>
    rw [List.mem_singleton.1 hf]
    exact .text _

namespace Config

theorem toJsonValue_faithful (c : Config) : c.toJsonValue.Faithful := by
  refine .record _ fun f hf => ?_
  simp only [List.mem_append, List.mem_cons, List.not_mem_nil, or_false] at hf
  rcases hf with ((rfl | rfl) | hage) | rfl | rfl | rfl
  · refine .array _ fun v hv => ?_
    obtain ⟨s, -, rfl⟩ := List.mem_map.1 hv
    exact s.toJsonValue_faithful
  · exact .uint64 _
  · cases hms : c.maxAge? with
    | none =>
      rw [hms] at hage
      cases hage
    | some ms =>
      rw [hms] at hage
      rw [List.mem_singleton.1 hage]
      exact .uint64 _
  · exact .bool _
  · exact .bool _
  · exact c.delivery.toJsonValue_faithful

theorem decode?_toJsonValue (c : Config) : decode? c.toJsonValue = some c := by
  obtain ⟨channels, maxBuffered, age, incomplete, first, delivery⟩ := c
  apply decode?_build Text.Json.builder
  · cases age <;> simp [fieldNames]
  · cases age <;> rfl

/-- Whatever a configuration says, its text says it too. -/
theorem read?_writeJson (c : Config) : Format.json.read? (Format.json.write c) = some c := by
  show ofJson? c.toJson = some c
  rw [ofJson?, toJson, Text.Json.read?_pretty c.toJsonValue_faithful]
  exact c.decode?_toJsonValue

/-- A configuration that can be run is loaded from the JSON text it is written as. -/
theorem load_toJson {c : Config} (h : c.fault? = none) :
    load .json (Format.json.write c) = .ok c :=
  load_of_read? c.read?_writeJson h

/-- Names with quotes, a backslash and control characters, and limits at the ends of their ranges.
-/
theorem load_toJson_marked_names :
    let c : Config := {
      channels := [⟨"\"B\\1\"\n", 1, 0⟩, ⟨"\u0000é", 9223372036854775807, 9223372036854775806⟩]
      maxBuffered := 18446744073709551615
      maxAge? := some 18446744073709551615
      delivery := .push 18446744073709551615 }
    c.fault? = none ∧ load .json (Format.json.write c) = .ok c := by
  intro c
  have hfault : c.fault? = none := by decide
  exact ⟨hfault, load_toJson hfault⟩

end Config

end PulseJoin
