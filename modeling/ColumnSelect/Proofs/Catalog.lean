/-
Names and positions of a catalog: a name stands for the first position that has it, the positions in
order have all names, names and matchers select positions of the catalog only, and the names of the
matchers hide columns of those names.
-/
import ColumnSelect.Selection.Resolution

namespace ColumnSelect

theorem nameAt?_succ (catalog : Catalog) (i : Nat) : catalog.nameAt? (i + 1) = catalog[i]? := rfl

theorem bound_of_nameAt? {catalog : Catalog} {p : Nat} {name : String} (h : catalog.nameAt? p = some name) :
    1 ≤ p ∧ p ≤ catalog.length := by
  cases p with
  | zero => cases h
  | succ i =>
    obtain ⟨hi, -⟩ := List.getElem?_eq_some_iff.1 h
    omega

/-- A name stands for the first position that has it. -/
theorem position?_eq_some_iff {catalog : Catalog} {name : String} {p : Nat} :
    catalog.position? name = some p ↔
      catalog.nameAt? p = some name ∧ ∀ q < p, catalog.nameAt? q ≠ some name := by
  cases p with
  | zero => simp [Catalog.position?, Catalog.nameAt?]
  | succ i =>
    simp only [Catalog.position?, Option.map_eq_some_iff, Nat.add_right_cancel_iff, exists_eq_right,
      List.findIdx?_eq_some_iff_getElem, beq_iff_eq, nameAt?_succ, List.getElem?_eq_some_iff]
    constructor
    · rintro ⟨hi, hn, hbefore⟩
      refine ⟨⟨hi, hn⟩, fun q hq hname => ?_⟩
      obtain ⟨j, rfl⟩ : ∃ j, q = j + 1 := ⟨q - 1, by have := (bound_of_nameAt? hname).1; omega⟩
      obtain ⟨hj, hname⟩ := List.getElem?_eq_some_iff.1 hname
      exact hbefore j (by omega) hname
    · rintro ⟨⟨hi, hn⟩, hbefore⟩
      refine ⟨hi, hn, fun j hj hname => ?_⟩
      exact hbefore (j + 1) (by omega) (List.getElem?_eq_some_iff.2 ⟨by omega, hname⟩)

theorem map_nameAt?_allPositions (catalog : Catalog) :
    (allPositions catalog.length).map catalog.nameAt? = catalog.map some := by
  apply List.ext_getElem
  · simp [allPositions]
  · intro i hi hi'
    simp only [allPositions, List.getElem_map, List.getElem_range', Nat.one_mul]
    rw [Nat.add_comm, nameAt?_succ]
    exact List.getElem?_eq_getElem (by simpa using hi')

/-- The positions in order have the names of the catalog. -/
theorem filterMap_nameAt?_allPositions (catalog : Catalog) :
    (allPositions catalog.length).filterMap catalog.nameAt? = catalog := by
  calc (allPositions catalog.length).filterMap catalog.nameAt?
      = ((allPositions catalog.length).map catalog.nameAt?).filterMap id := by
        rw [List.filterMap_map]
        rfl
    _ = catalog := by
        rw [map_nameAt?_allPositions, List.filterMap_map]
        exact List.filterMap_some

/-- The positions selected by a condition are those whose name satisfies it. -/
theorem mem_positionsWhere_iff {catalog : Catalog} {found : String → Bool} {p : Nat} :
    p ∈ catalog.positionsWhere found ↔ ∃ name, catalog.nameAt? p = some name ∧ found name = true := by
  have hentry (name : String) : (name, p) ∈ catalog.zipIdx 1 ↔ catalog.nameAt? p = some name := by
    rw [List.mk_mem_zipIdx_iff_le_and_getElem?_sub]
    cases p with
    | zero => simp [Catalog.nameAt?]
    | succ i => simp [nameAt?_succ]
  simp only [Catalog.positionsWhere, List.mem_filterMap, Option.ite_none_right_eq_some, Option.some.injEq]
  constructor
  · rintro ⟨⟨name, _⟩, hmem, hfound, rfl⟩
    exact ⟨name, (hentry name).1 hmem, hfound⟩
  · rintro ⟨name, hname, hfound⟩
    exact ⟨(name, p), (hentry name).2 hname, hfound, rfl⟩

/-- The position of a name is a position of the catalog. -/
theorem bound_of_position? {catalog : Catalog} {name : String} {p : Nat} (h : catalog.position? name = some p) :
    1 ≤ p ∧ p ≤ catalog.length :=
  bound_of_nameAt? (position?_eq_some_iff.1 h).1

theorem bound_of_mem_positionsWhere {catalog : Catalog} {found : String → Bool} {p : Nat}
    (h : p ∈ catalog.positionsWhere found) : 1 ≤ p ∧ p ≤ catalog.length := by
  obtain ⟨name, hname, -⟩ := mem_positionsWhere_iff.1 h
  exact bound_of_nameAt? hname

/-- A matcher selects positions of the catalog. -/
theorem Matcher.bound_of_apply [Pattern.Engine] {catalog : Catalog} {call : Call} {positions : List Nat}
    (h : call.apply catalog = .ok positions) : ∀ p ∈ positions, 1 ≤ p ∧ p ≤ catalog.length := by
  have hselect {m : Matcher} {text : String} {found : String → Bool}
      (h : m.select text catalog found = .ok positions) : ∀ p ∈ positions, 1 ≤ p ∧ p ≤ catalog.length := by
    unfold Matcher.select at h
    split at h
    · cases h
    · cases h
      exact fun p hp => bound_of_mem_positionsWhere hp
  cases call with
  | startsWith text ignoreCase => exact hselect h
  | endsWith text ignoreCase => exact hselect h
  | contains text ignoreCase => exact hselect h
  | matchesPattern pattern ignoreCase =>
    rw [Call.apply] at h
    split at h
    · cases h
    · split at h
      · cases h
      · cases h
        exact fun p hp => bound_of_mem_positionsWhere hp
  | numRange stem numbers width =>
    cases h
    intro p hp
    obtain ⟨n, -, hn⟩ := List.mem_filterMap.1 hp
    exact bound_of_position? hn

/-- No matcher hides any of some names exactly when the name of none is among them. -/
theorem forall_ofName?_eq_none_iff {names : List String} :
    (∀ name ∈ names, Matcher.ofName? name = none) ↔ ∀ m : Matcher, m.name ∉ names := by
  constructor
  · intro h m hm
    have hnone := h m.name hm
    rw [Matcher.ofName?_name] at hnone
    cases hnone
  · intro h name hname
    cases ho : Matcher.ofName? name with
    | none => rfl
    | some m => exact absurd (Matcher.name_of_ofName? ho ▸ hname) (h m)

/-- A name of the catalog stands for the position at which it first occurs. -/
theorem position?_of_mem {catalog : Catalog} {name : String} (h : name ∈ catalog) :
    catalog.position? name = some (catalog.idxOf name + 1) := by
  have hfind := List.findIdx?_eq_some_iff_findIdx_eq.2 ⟨List.idxOf_lt_length_of_mem h, rfl⟩
  rw [Catalog.position?, hfind]
  rfl

end ColumnSelect
