/-
What the options of a selection do to the mapping of its terms. The columns to keep that the mapping
does not read go in front of it, once each and in the order in which they are first named; then the
columns to take out go, wherever they stand, and the rest keeps its order and its output names. The
names decide alone, whether or not a term excludes the column. Main statement: `resolve_options_iff`.
-/
import ColumnSelect.Pattern.Standard
import ColumnSelect.Proofs.FirstOccurrence
import ColumnSelect.Proofs.Selection.Success

namespace ColumnSelect

/-! ## The columns in front -/

/-- The names of the columns that are put in front of a mapping: those to keep that it does not read
and that are not taken out, in the order in which they are first named. As each comes before the next,
there is none twice. -/
structure InFront (keep leave : List String) (mapping : Mapping) (names : List String) : Prop where
  mem : ∀ name, name ∈ names ↔ name ∈ keep ∧ name ∉ mapping.sources ∧ name ∉ leave
  order : names.Pairwise fun a b => keep.idxOf a < keep.idxOf b

theorem InFront.nodup {keep leave names : List String} {mapping : Mapping}
    (h : InFront keep leave mapping names) : names.Nodup :=
  h.order.imp fun h he => by
    rw [he] at h
    exact Nat.lt_irrefl _ h

/-- The rules leave no choice. -/
theorem InFront.unique {keep leave names names' : List String} {mapping : Mapping}
    (h : InFront keep leave mapping names) (h' : InFront keep leave mapping names') : names = names' := by
  have hperm : names.Perm names' :=
    (List.perm_ext_iff_of_nodup h.nodup h'.nodup).2 fun name => (h.mem name).trans (h'.mem name).symm
  exact hperm.eq_of_pairwise (fun _ _ _ _ h1 h2 => absurd h1 (Nat.lt_asymm h2)) h.order h'.order

/-- The mapping with the options applied: some columns in front, and the mapping without those to take
out. -/
theorem Options.adjust_eq_iff {options : Options} {mapping adjusted : Mapping} :
    options.adjust mapping = adjusted ↔ ∃ names, InFront options.keep options.leave mapping names ∧
      names.map Entry.same ++ mapping.filter (fun e => e.source ∉ options.leave) = adjusted := by
  have hadded : InFront options.keep options.leave mapping
      (((options.keep.filter fun name => !mapping.sources.contains name).eraseDups).filter
        fun name => !options.leave.contains name) := by
    rw [eraseDups_filter]
    refine ⟨fun name => ?_, ((pairwise_eraseDups options.keep).filter _).filter _⟩
    simpa [List.mem_filter] using fun _ => and_comm
  have hadjust : options.adjust mapping =
      ((((options.keep.filter fun name => !mapping.sources.contains name).eraseDups).filter
        fun name => !options.leave.contains name).map Entry.same ++
          mapping.filter fun e => e.source ∉ options.leave) := by
    simp only [Options.adjust, List.filter_append, List.filter_map]
    congr 1
    refine List.filter_congr fun e _ => ?_
    simp
  rw [hadjust]
  constructor
  · rintro rfl
    exact ⟨_, hadded, rfl⟩
  · rintro ⟨names, hn, rfl⟩
    rw [hadded.unique hn]

theorem Options.adjust_plain (policy : MultiRename) (mapping : Mapping) :
    (Options.plain policy).adjust mapping = mapping := by
  simp [Options.adjust, Options.plain]

/-! ## Selections with options -/

/-- Where terms resolve without options, the options alone decide the rest. -/
theorem resolve_eq_apply [Pattern.Engine] {catalog : Catalog} {policy : MultiRename} {terms : List Term}
    {base : Mapping} (h : resolve catalog (.plain policy) terms = .ok base) (keep leave : List String) :
    resolve catalog ⟨keep, leave, policy⟩ terms = Options.apply ⟨keep, leave, policy⟩ catalog base := by
  obtain ⟨results, ⟨hr, ht, -⟩, rfl⟩ := resolve_eq_ok_iff.1 h
  rw [Options.adjust_plain, resolve, resolution,
    (evaluateTerms_eq_iff hr policy 1 _).2 ⟨ht, rfl⟩]
  show (reduce catalog ⟨keep, leave, policy⟩ (evaluatedFrom 1 terms results)).map Resolution.mapping = _
  rw [map_reduce, flatMap_evaluatedFrom 1 hr]
  rfl

theorem sources_inFront_append (names leave : List String) (mapping : Mapping) :
    Mapping.sources (names.map Entry.same ++ mapping.filter fun e => e.source ∉ leave) =
      names ++ mapping.sources.filter (· ∉ leave) := by
  rw [Mapping.sources, List.map_append, List.map_map, Mapping.sources, List.filter_map]
  exact congrArg (· ++ _) (List.map_id names)

theorem mem_sources_inFront_append {keep leave names : List String} {mapping : Mapping} {name : String}
    (hn : InFront keep leave mapping names) :
    name ∈ Mapping.sources (names.map Entry.same ++ mapping.filter fun e => e.source ∉ leave) ↔
      (name ∈ keep ∨ name ∈ mapping.sources) ∧ name ∉ leave := by
  rw [sources_inFront_append, List.mem_append, hn.mem, List.mem_filter, decide_eq_true_iff]
  by_cases hs : name ∈ mapping.sources <;> simp [hs]

/-- The options put the columns to keep that the terms do not select in front of what the terms select
by themselves, and take out the columns to leave; all else stays as it is. So a column to keep is there
even if the terms exclude it, unless it is to be taken out, and no column to take out is. A name that is
not in the catalog makes the selection fail. -/
theorem resolve_options_iff [Pattern.Engine] {catalog : Catalog} {policy : MultiRename} {terms : List Term}
    {base : Mapping} (h : resolve catalog (.plain policy) terms = .ok base) (keep leave : List String) :
    (∀ mapping, resolve catalog ⟨keep, leave, policy⟩ terms = .ok mapping ↔
      (∀ name ∈ keep ++ leave, name ∈ catalog) ∧ ∃ names, InFront keep leave base names ∧
        names.map Entry.same ++ base.filter (fun e => e.source ∉ leave) = mapping) ∧
    (∀ mapping, resolve catalog ⟨keep, leave, policy⟩ terms = .ok mapping →
      (∀ name ∈ keep, name ∉ leave → name ∈ mapping.sources) ∧
        ∀ name ∈ leave, name ∉ mapping.sources) ∧
    ((∃ e, resolve catalog ⟨keep, leave, policy⟩ terms = .error e) ↔
      ∃ name ∈ keep ++ leave, name ∉ catalog) := by
  have hok (mapping : Mapping) : resolve catalog ⟨keep, leave, policy⟩ terms = .ok mapping ↔
      (∀ name ∈ keep ++ leave, name ∈ catalog) ∧ ∃ names, InFront keep leave base names ∧
        names.map Entry.same ++ base.filter (fun e => e.source ∉ leave) = mapping := by
    rw [resolve_eq_apply h, Options.apply_eq_ok_iff, Options.adjust_eq_iff]
  refine ⟨hok, fun mapping hm => ?_, ?_⟩
  · obtain ⟨-, names, hn, rfl⟩ := (hok mapping).1 hm
    refine ⟨fun name hk hl => ?_, fun name hl hs => ?_⟩
    · exact (mem_sources_inFront_append hn).2 ⟨.inl hk, hl⟩
    · exact ((mem_sources_inFront_append hn).1 hs).2 hl
  · rw [resolve_eq_apply h, Options.apply]
    cases hu : unknownName? catalog (keep ++ leave) with
    | none =>
      have hknown := unknownName?_eq_none_iff.1 hu
      simpa using hknown
    | some name =>
      rw [unknownName?_eq] at hu
      have hname : name ∉ catalog := by simpa using List.find?_some hu
      exact ⟨fun _ => ⟨name, List.mem_of_find?_eq_some hu, hname⟩, fun _ => ⟨_, rfl⟩⟩

/-- The column that the terms exclude is kept, but comes behind one that is named before it; the repeated
name and the column that the terms select add nothing, and the numbers in the output names stay. -/
theorem resolve_options_iff_excluded :
    resolve ["g", "a", "b", "h"] (.plain .numbered)
        [⟨some "x", .list [.column "b", .column "a"]⟩, ⟨none, .negate (.column "g")⟩] =
          .ok [⟨"x1", "b"⟩, ⟨"x2", "a"⟩] ∧
      resolve ["g", "a", "b", "h"] ⟨["h", "g", "h", "a"], ["b"], .numbered⟩
        [⟨some "x", .list [.column "b", .column "a"]⟩, ⟨none, .negate (.column "g")⟩] =
          .ok [⟨"h", "h"⟩, ⟨"g", "g"⟩, ⟨"x2", "a"⟩] ∧
      "g" ∈ Mapping.sources [⟨"h", "h"⟩, ⟨"g", "g"⟩, ⟨"x2", "a"⟩] := by
  have hbase : resolve ["g", "a", "b", "h"] (.plain .numbered)
      [⟨some "x", .list [.column "b", .column "a"]⟩, ⟨none, .negate (.column "g")⟩] =
        .ok [⟨"x1", "b"⟩, ⟨"x2", "a"⟩] := by
    decide +kernel
  obtain ⟨hok, hsources, -⟩ := resolve_options_iff hbase ["h", "g", "h", "a"] ["b"]
  have hm := (hok [⟨"h", "h"⟩, ⟨"g", "g"⟩, ⟨"x2", "a"⟩]).2
    ⟨by decide, ["h", "g"], ⟨fun name => ?_, by decide⟩, by decide⟩
  · exact ⟨hbase, hm, (hsources _ hm).1 "g" (by decide) (by decide)⟩
  · simp only [Mapping.sources, List.map_cons, List.map_nil, List.mem_cons, List.not_mem_nil, or_false]
    grind

end ColumnSelect
