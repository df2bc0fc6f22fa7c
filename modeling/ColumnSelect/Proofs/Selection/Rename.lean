/-
What a rename gives. It succeeds when every term asks for a change (`rename_eq_ok_iff`); the changes
then all apply at once: a column has the name that the last change of its position gives it, its own
where there is none (`getElem?_applyChanges`), and no column moves or goes (`sources_rename`).
-/
import ColumnSelect.Proofs.Outcome
import ColumnSelect.Selection.Rename
import Mathlib.Data.List.Induction

namespace ColumnSelect

/-! ## Changes -/

theorem changes_eq_ok_iff {catalog : Catalog} {number : Nat} {terms : List Term} {cs : List Change} :
    changes catalog number terms = .ok cs ↔ List.Forall₂ (fun t c => t.change catalog = .ok c) terms cs := by
  induction terms generalizing number cs with
  | nil =>
    rw [List.forall₂_nil_left_iff, changes, Except.ok.injEq]
    exact eq_comm
  | cons t ts ih =>
    rw [changes, bind_eq_ok_iff]
    simp only [mapError_eq_ok_iff, bind_eq_ok_iff, ih]
    constructor
    · rintro ⟨c, hc, cs, hcs, h⟩
      cases h
      exact .cons hc hcs
    · rintro (_ | ⟨hc, hcs⟩)
      exact ⟨_, hc, _, hcs, rfl⟩

theorem rename_eq_ok_iff {catalog : Catalog} {terms : List Term} {mapping : Mapping} :
    rename catalog terms = .ok mapping ↔
      ∃ cs, List.Forall₂ (fun t c => t.change catalog = .ok c) terms cs ∧
        (applyChanges catalog cs).zipWith Entry.mk catalog = mapping := by
  rw [rename, bind_eq_ok_iff]
  simp only [changes_eq_ok_iff]
  refine exists_congr fun cs => and_congr_right fun _ => ?_
  constructor
  · rintro ⟨⟩
    rfl
  · rintro rfl
    rfl

/-! ## Names after changes -/

theorem length_applyChanges (catalog : Catalog) (cs : List Change) :
    (applyChanges catalog cs).length = catalog.length := by
  unfold applyChanges
  induction cs generalizing catalog with
  | nil => rfl
  | cons c cs ih => rw [List.foldl_cons, ih, List.length_set]

/-- The name that changes give a position: that of the last change of it. -/
def newName? (cs : List Change) (p : Nat) : Option String :=
  (cs.reverse.find? (·.position = p)).map Change.name

theorem newName?_append_singleton (cs : List Change) (c : Change) (p : Nat) :
    newName? (cs ++ [c]) p = if c.position = p then some c.name else newName? cs p := by
  rw [newName?, List.reverse_append, List.reverse_singleton, List.singleton_append, List.find?_cons]
  by_cases h : c.position = p <;> simp [h, newName?]

/-- Changes apply all at once: a position has the name of the last change of it, or its own. -/
theorem getElem?_applyChanges (catalog : Catalog) {cs : List Change} (h : ∀ c ∈ cs, 1 ≤ c.position)
    (i : Nat) : (applyChanges catalog cs)[i]? =
      catalog[i]?.map fun own => (newName? cs (i + 1)).getD own := by
  -- the last change is the outermost, so the induction takes changes from behind
  induction cs using List.reverseRecOn with
  | nil => simp [applyChanges, newName?]
  | append_singleton cs c ih =>
    obtain ⟨hcs, hc⟩ := List.forall_mem_append.1 h
    have hc := hc c (List.mem_singleton_self c)
    have happly : applyChanges catalog (cs ++ [c]) = (applyChanges catalog cs).set (c.position - 1) c.name := by
      rw [applyChanges, List.foldl_append]
      rfl
    rw [happly, List.getElem?_set, newName?_append_singleton, length_applyChanges, ih hcs]
    by_cases hp : c.position = i + 1
    · rw [if_pos (by omega), if_pos hp]
      by_cases hi : i < catalog.length
      · rw [if_pos (by omega), List.getElem?_eq_getElem hi]
        rfl
      · rw [if_neg (by omega), List.getElem?_eq_none (by omega)]
        rfl
    · rw [if_neg (by omega), if_neg hp]

/-! ## The mapping -/

theorem outputs_zipWith {names catalog : List String} (h : names.length = catalog.length) :
    Mapping.outputs (names.zipWith Entry.mk catalog) = names := by
  rw [Mapping.outputs, List.map_zipWith]
  apply List.ext_getElem
  · simp [h]
  · intro i _ _
    simp

theorem sources_zipWith {names catalog : List String} (h : names.length = catalog.length) :
    Mapping.sources (names.zipWith Entry.mk catalog) = catalog := by
  rw [Mapping.sources, List.map_zipWith]
  apply List.ext_getElem
  · simp [h]
  · intro i _ _
    simp

/-- No column moves or goes. -/
theorem sources_rename {catalog : Catalog} {terms : List Term} {mapping : Mapping}
    (h : rename catalog terms = .ok mapping) : mapping.sources = catalog := by
  obtain ⟨cs, -, rfl⟩ := rename_eq_ok_iff.1 h
  exact sources_zipWith (length_applyChanges catalog cs)

end ColumnSelect
