/-
Configurations read from JSON objects. Each field that an object lists overwrites one setting of the standard
configuration, in whatever order and layout they are listed, and an object is refused at the first field that is
unknown or listed before. Main statement: `ofJsonText_listed`.
-/
import ColumnSelect.Config
import ColumnSelect.Proofs.Json.Object

namespace ColumnSelect.Config

open Json

/-! ## Settings -/

/-- One setting of a configuration. -/
inductive Setting where
  | multiRename (policy : MultiRename)
  | logResolutions (value : Bool)
  | maxTerms (count : Nat)

namespace Setting

/-- The field that a setting is listed as. -/
def name : Setting → String
  | multiRename _ => "multi_rename"
  | logResolutions _ => "log_resolutions"
  | maxTerms _ => "max_terms"

/-- A configuration in which a setting is made. -/
def overwrite (config : Config) : Setting → Config
  | multiRename policy => { config with multiRename := policy }
  | logResolutions value => { config with logResolutions := value }
  | maxTerms count => { config with maxTerms := count }

/-- The members that list a setting. A policy is given by its name, or by an object with null under the name, and
a count by its digits as far as it fits. -/
inductive Lists : Setting → String × List Char → Prop
  | policy {policy value} (h : StringText value policy.text) : Lists (multiRename policy) ("multi_rename", value)
  | policyObject {policy value} (h : ObjectText value [(policy.text, Json.null.write)]) :
      Lists (multiRename policy) ("multi_rename", value)
  | flag (value : Bool) : Lists (logResolutions value) ("log_resolutions", (Json.bool value).write)
  | count {n : Nat} (h : n ≤ maxWhole) : Lists (maxTerms n) ("max_terms", (toString n).toList)

theorem Lists.name_eq {setting : Setting} {member : String × List Char} (h : Lists setting member) :
    member.1 = setting.name := by
  cases h <;> rfl

theorem find?_policy (policy : MultiRename) :
    [("numbered", MultiRename.numbered), ("reject", MultiRename.reject)].find? (fun c => c.1 == policy.text) =
      some (policy.text, policy) := by
  cases policy <;> decide

/-- The field of a setting takes the members that list it. -/
theorem Lists.takes {setting : Setting} {member : String × List Char} (h : Lists setting member) :
    record.Takes member (setting.overwrite ·) := by
  cases h with
  | policy h =>
    have hreads := reads_choice (find?_policy _) h
    exact ⟨_, rfl, fun draft => hreads.map fun policy => { draft with multiRename := policy }⟩
  | policyObject h =>
    have hreads := reads_choice_object (find?_policy _) h
    exact ⟨_, rfl, fun draft => hreads.map fun policy => { draft with multiRename := policy }⟩
  | flag value =>
    have hreads := reads_bool value
    exact ⟨_, rfl, fun draft => hreads.map fun value => { draft with logResolutions := value }⟩
  | count h =>
    have hreads := reads_count h
    exact ⟨_, rfl, fun draft => hreads.map fun n => { draft with maxTerms := n }⟩

theorem mem_fieldNames_iff {name : String} : name ∈ record.fieldNames ↔ ∃ setting : Setting, setting.name = name := by
  have hnames : record.fieldNames = ["multi_rename", "log_resolutions", "max_terms"] := rfl
  rw [hnames]
  constructor
  · intro h
    simp only [List.mem_cons, List.not_mem_nil, or_false] at h
    rcases h with rfl | rfl | rfl
    · exact ⟨.multiRename .numbered, rfl⟩
    · exact ⟨.logResolutions false, rfl⟩
    · exact ⟨.maxTerms 0, rfl⟩
  · rintro ⟨setting, rfl⟩
    cases setting <;> simp [Setting.name]

end Setting

/-- The standard configuration with some settings made, one after another. -/
def overwritten (settings : List Setting) : Config := settings.foldl Setting.overwrite standard

/-- A configuration is taken if it allows some term. -/
def checked (config : Config) : Except Fault Config := if config.maxTerms = 0 then .error .noTerms else .ok config

section

variable {settings : List Setting} {members : List (String × List Char)}

theorem takes_of_lists (h : List.Forall₂ Setting.Lists settings members) :
    List.Forall₂ record.Takes members (settings.map fun setting => (setting.overwrite ·)) := by
  rw [List.forall₂_map_right_iff]
  exact h.flip.imp fun _ _ hlists => hlists.takes

theorem map_fst_of_lists (h : List.Forall₂ Setting.Lists settings members) :
    members.map Prod.fst = settings.map Setting.name := by
  induction h with
  | nil => rfl
  | cons hlists _ ih => rw [List.map_cons, List.map_cons, hlists.name_eq, ih]

variable {text : String}

/-! ## Objects that list settings -/

theorem ofJsonText_of_document (htext : Document text members) (h : List.Forall₂ Setting.Lists settings members)
    (hnames : (settings.map Setting.name).Nodup) : ofJsonText text = checked (overwritten settings) := by
  have hread := Record.readText_object htext (takes_of_lists h) (map_fst_of_lists h ▸ hnames)
  rw [List.foldl_map] at hread
  have hread : readText record.read text = .ok (overwritten settings) := hread
  rw [ofJsonText, hread, checked]
  show (if (overwritten settings).maxTerms = 0 then _ else _) = _
  split <;> rfl

theorem ofJsonText_of_refused {before after : List (String × List Char)} {member : String × List Char}
    (htext : Document text (before ++ member :: after)) (h : List.Forall₂ Setting.Lists settings before)
    (hnames : (settings.map Setting.name).Nodup) {m : Mismatch}
    (hm : record.Refuses (settings.map Setting.name) member.1 m) :
    ofJsonText text = .error (.json text (.mismatch m)) := by
  rw [← map_fst_of_lists h] at hnames hm
  rw [ofJsonText, Record.readText_refused htext (takes_of_lists h) hnames hm]
  rfl

end

/-- The settings of a configuration, in the order in which it is written. -/
def settings (config : Config) : List Setting :=
  [.multiRename config.multiRename, .logResolutions config.logResolutions, .maxTerms config.maxTerms]

/-- A configuration is read back from its text if it allows some term. A JSON object that lists any settings, each at
most once and in any order and layout, is read as the standard configuration overwritten by them, which is taken on
the same condition; and the first member of an unknown name, or of a name that was listed before, is refused,
whatever its value is and whatever is listed behind it. -/
theorem ofJsonText_listed :
    (∀ config : Config, config.maxTerms ≤ maxWhole → ofJsonText config.toJson.text = checked config) ∧
    (∀ text settings members, Document text members → List.Forall₂ Setting.Lists settings members →
      (settings.map Setting.name).Nodup → ofJsonText text = checked (overwritten settings)) ∧
    ∀ text settings before member after, Document text (before ++ member :: after) →
      List.Forall₂ Setting.Lists settings before → (settings.map Setting.name).Nodup →
      ((∀ setting : Setting, setting.name ≠ member.1) →
        ofJsonText text = .error (.json text (.mismatch (.unknownField member.1 record.fieldNames)))) ∧
      (member.1 ∈ settings.map Setting.name →
        ofJsonText text = .error (.json text (.mismatch (.duplicateField member.1)))) := by
  refine ⟨fun config hcount => ?_, fun _ _ _ => ofJsonText_of_document, ?_⟩
  · have htext := document_text [("multi_rename", .str config.multiRename.text),
      ("log_resolutions", .bool config.logResolutions), ("max_terms", .int config.maxTerms)]
    have hlists : List.Forall₂ Setting.Lists config.settings
        [("multi_rename", quote config.multiRename.text), ("log_resolutions", (Json.bool config.logResolutions).write),
          ("max_terms", (toString config.maxTerms).toList)] :=
      .cons (.policy (stringText_quote _)) (.cons (.flag _) (.cons (.count hcount) .nil))
    have hnames : (config.settings.map Setting.name).Nodup := by
      show ["multi_rename", "log_resolutions", "max_terms"].Nodup
      decide
    exact ofJsonText_of_document htext hlists hnames
  · intro text settings before member after htext h hnames
    refine ⟨fun hunknown => ?_, fun hrepeated => ?_⟩
    · refine ofJsonText_of_refused htext h hnames (.unknown rfl fun hmem => ?_)
      obtain ⟨setting, hsetting⟩ := Setting.mem_fieldNames_iff.1 hmem
      exact hunknown setting hsetting
    · obtain ⟨setting, -, hsetting⟩ := List.mem_map.1 hrepeated
      have hfield := Setting.mem_fieldNames_iff.2 ⟨setting, hsetting⟩
      exact ofJsonText_of_refused htext h hnames (.repeated hfield hrepeated)

/-- The count is listed before the policy and with blanks, and the policy by an object; the count is listed twice,
the second time with a value that is none; and no term is allowed. -/
theorem ofJsonText_listed_layout :
    ofJsonText "\x7b \"max_terms\" : 3,\"multi_rename\":\x7b\"reject\":null\x7d\x7d\n" = .ok ⟨.reject, false, 3⟩ ∧
      ofJsonText "\x7b\"max_terms\":3,\"max_terms\":?\x7d" =
        .error (.json "\x7b\"max_terms\":3,\"max_terms\":?\x7d" (.mismatch (.duplicateField "max_terms"))) ∧
      ofJsonText (Config.mk .reject true 0).toJson.text = .error .noTerms := by
  obtain ⟨hwritten, hlisted, hrefused⟩ := ofJsonText_listed
  refine ⟨?_, ?_, hwritten ⟨.reject, true, 0⟩ (by decide)⟩
  · have hcount := @MemberText.intro [' '] _ [' '] [' '] (toString 3).toList [] _ (by decide)
      (stringText_quote "max_terms") (by decide) (by decide) (by decide)
    have hpolicy := objectText_write [("reject", .null)]
    have hobject := @ObjectText.intro [] _ _ (by decide)
      (.cons hcount (.cons (memberText_quote "multi_rename" (Json.obj [("reject", .null)]).write) .nil))
    refine hlisted _ [.maxTerms 3, .multiRename .reject] _ ⟨[], _, ['\n'], by decide, hobject, by decide, ?_⟩
      (.cons (.count (by decide)) (.cons (.policyObject hpolicy) .nil)) (by decide)
    decide +kernel
  · have hobject := @ObjectText.intro [] _ _ (by decide)
      (.cons (memberText_quote "max_terms" (toString 3).toList) (.cons (memberText_quote "max_terms" ['?']) .nil))
    refine (hrefused _ [.maxTerms 3] [_] _ [] ⟨[], _, [], by decide, hobject, by decide, ?_⟩
      (.cons (.count (by decide)) .nil) (by decide)).2 (by decide)
    decide +kernel

end ColumnSelect.Config
