/-
Mappings as JSON texts. A mapping is read back from its text, its order and repeated names included
(`ofJsonText_text`). The keys of its entries are in order, so that it is written alike where keys are sorted
(`sortKeys_toJson`).
-/
import ColumnSelect.Mapping.Json
import ColumnSelect.Proofs.Json.Object

namespace ColumnSelect

open Json

theorem readBack_entry (e : Entry) : ReadBack Entry.record.read e.toJson.write e := by
  refine ⟨⟨'\x7b', _, rfl, by decide, by decide⟩, fun {rest} _ => ?_⟩
  have hobject := objectText_write [("output", .str e.output), ("source", .str e.source)]
  have houtput : Entry.record.Takes ("output", quote e.output) fun draft => (some e.output, draft.2) :=
    ⟨_, rfl, fun draft => (reads_string _ (stringText_quote e.output)).map fun text => (some text, draft.2)⟩
  have hsource : Entry.record.Takes ("source", quote e.source) fun draft => (draft.1, some e.source) :=
    ⟨_, rfl, fun draft => (reads_string _ (stringText_quote e.source)).map fun text => (draft.1, some text)⟩
  have hkeys : ["output", "source"].Nodup := by decide
  exact Record.read_object hobject (.cons houtput (.cons hsource .nil)) hkeys blanks_nil rest

theorem readBack_entries (mapping : Mapping) :
    List.Forall₂ (ReadBack Entry.record.read) (writeItems (mapping.map Entry.toJson)) mapping := by
  induction mapping with
  | nil => exact .nil
  | cons e mapping ih => exact .cons (readBack_entry e) ih

/-- A mapping is read back from its text. -/
theorem Mapping.ofJsonText_text (mapping : Mapping) : Mapping.ofJsonText mapping.toJson.text = .ok mapping := by
  have hitems := readItems_written (readBack_entries mapping) (length_lt_enclosed _ ']' []) []
  rw [Mapping.ofJsonText, readText, text, String.toList_ofList]
  exact bind_eq_ok_iff.2 ⟨_, hitems, rfl⟩

theorem Entry.sortKeys_toJson (e : Entry) : e.toJson.sortKeys = e.toJson := by
  have hascend : List.Pairwise (fun a b : String × Json => a.1 < b.1)
      [("output", .str e.output), ("source", .str e.source)] :=
    List.pairwise_map.1 (by decide : List.Pairwise (· < ·) ["output", "source"])
  exact congrArg Json.obj (sortMembers_eq (.refl _) hascend)

/-- The keys of a mapping are written in order. -/
theorem Mapping.sortKeys_toJson (mapping : Mapping) : mapping.toJson.sortKeys = mapping.toJson := by
  have hitems : sortKeysItems (mapping.map Entry.toJson) = mapping.map Entry.toJson := by
    induction mapping with
    | nil => rfl
    | cons e mapping ih => rw [List.map_cons, sortKeysItems, e.sortKeys_toJson, ih]
  exact congrArg Json.arr hitems

end ColumnSelect
