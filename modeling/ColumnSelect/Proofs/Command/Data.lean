/-
The data of a response as text. The columns that a request selects or renames to are told by the text of their
mapping, which is read back as the same mapping. Main statement: `mapping_readBack`.
-/
import ColumnSelect.Json.Standard
import ColumnSelect.Pattern.Standard
import ColumnSelect.Proofs.Command.Run
import ColumnSelect.Proofs.Mapping

namespace ColumnSelect.Command

variable {config : Config} {request : Request}

/-- What the terms of a request resolve to, by a verb that gives columns. -/
inductive Resolved [Pattern.Engine] (config : Config) (request : Request) : Verb → Mapping → Prop
  | select {terms mapping} (hread : Term.ofText request.selection = .ok terms)
      (h : resolve request.catalog (request.options config) terms = .ok mapping) :
      Resolved config request .select mapping
  | rename {terms mapping} (hread : Term.ofText request.selection = .ok terms)
      (h : rename request.catalog terms = .ok mapping) : Resolved config request .rename mapping

/-- The line of a success has the text of its data inside. -/
theorem successLine_of_sorted {data : Json} (h : data.sortKeys = data) :
    successLine data = "\x7b\"data\":" ++ data.text ++ ",\"status\":\"ok\"\x7d\n" := by
  rw [successLine_eq, h]
  have hfront : '\x7b' :: (Json.quote "data" ++ [':']) = "\x7b\"data\":".toList := by decide +kernel
  have hback : ',' :: (Json.quote "status" ++ ':' :: (Json.quote "ok" ++ ['\x7d', '\n'])) =
      ",\"status\":\"ok\"\x7d\n".toList := by
    decide +kernel
  apply String.toList_injective
  rw [String.toList_append, String.toList_append, String.toList_append, ← hfront, ← hback]
  simp [Json.text, Json.write, Json.writeMembers, Json.commaSeparated_cons]

theorem exists_resolved [Pattern.Engine] [Json.Wording] {verb : Verb} (hverb : verb = .select ∨ verb = .rename)
    {data : Json} (hdata : (handled verb config request).1 = .ok data) :
    ∃ mapping, Resolved config request verb mapping ∧ mapping.toJson = data := by
  rcases hverb with rfl | rfl
  · obtain ⟨mapping, hmapping, hjson⟩ := map_eq_ok_iff.1 hdata
    obtain ⟨terms, hread, -, h⟩ := select_eq_ok_iff.1 hmapping
    exact ⟨mapping, .select hread h, hjson⟩
  · obtain ⟨mapping, hmapping, hjson⟩ := map_eq_ok_iff.1 hdata
    obtain ⟨-, terms, hread, -, h⟩ := renameColumns_eq_ok_iff.1 hmapping
    exact ⟨mapping, .rename hread h, hjson⟩

/-- A mapping is read back from its text, so that order and repeated names are kept; as JSON, the text is an array of
an object with an output and a source for each entry. A request that is answered with columns is answered with the
mapping that its terms resolve to: the text of the data, whose keys are sorted, is the text of the mapping, from which
the mapping is read back, and stands as it is in the response. -/
theorem mapping_readBack [Pattern.Engine] [Json.Wording] :
    (∀ mapping : Mapping, Mapping.ofJsonText mapping.toJson.text = .ok mapping ∧
      Json.ofText mapping.toJson.text =
        .ok (.arr (mapping.map fun e => .obj [("output", .str e.output), ("source", .str e.source)]))) ∧
    ∀ verb config request data, verb = .select ∨ verb = .rename → (handled verb config request).1 = .ok data →
      ∃ mapping, Resolved config request verb mapping ∧ data.sortKeys.text = mapping.toJson.text ∧
        Mapping.ofJsonText data.sortKeys.text = .ok mapping ∧
        (answer verb config request).stdout =
          "\x7b\"data\":" ++ mapping.toJson.text ++ ",\"status\":\"ok\"\x7d\n" := by
  refine ⟨fun mapping => ⟨mapping.ofJsonText_text, Json.ofText_text _⟩, fun verb config request data hverb hdata => ?_⟩
  obtain ⟨mapping, hresolved, rfl⟩ := exists_resolved hverb hdata
  have hnot : verb ≠ .explain true := by rcases hverb with rfl | rfl <;> nofun
  refine ⟨mapping, hresolved, ?_, ?_, ?_⟩
  · rw [mapping.sortKeys_toJson]
  · rw [mapping.sortKeys_toJson, mapping.ofJsonText_text]
  · rw [answer_eq, if_neg hnot, hdata]
    exact successLine_of_sorted mapping.sortKeys_toJson

/-- Entries that are alike are all kept, and a renamed column is told with its new name. -/
theorem mapping_readBack_renamed :
    Mapping.ofJsonText (Mapping.toJson [⟨"a", "\n"⟩, ⟨"a", "\n"⟩]).text = .ok [⟨"a", "\n"⟩, ⟨"a", "\n"⟩] ∧
      (answer .select .standard ⟨["a"], "x = a", [], []⟩).stdout =
        "\x7b\"data\":[\x7b\"output\":\"x\",\"source\":\"a\"\x7d],\"status\":\"ok\"\x7d\n" := by
  have hterms : Term.ofText "x = a" = .ok [⟨some "x", .column "a"⟩] := rfl
  have hresolve : resolve ["a"] (Config.options .standard) [⟨some "x", .column "a"⟩] = .ok [⟨"x", "a"⟩] := by
    decide +kernel
  have hselect : (select .standard ⟨["a"], "x = a", [], []⟩).1 = .ok [⟨"x", "a"⟩] :=
    select_eq_ok_iff.2 ⟨_, hterms, by decide, hresolve⟩
  have hdata : (handled .select .standard ⟨["a"], "x = a", [], []⟩).1 = .ok (Mapping.toJson [⟨"x", "a"⟩]) := by
    rw [handled, hselect]
    rfl
  obtain ⟨mapping, hresolved, -, -, hstdout⟩ := mapping_readBack.2 _ _ _ _ (.inl rfl) hdata
  obtain rfl : mapping = [⟨"x", "a"⟩] := by
    cases hresolved with
    | select hread h =>
      cases hterms.symm.trans hread
      exact Except.ok.inj (h.symm.trans hresolve)
  exact ⟨(mapping_readBack.1 _).1, hstdout.trans (by decide +kernel)⟩

end ColumnSelect.Command
