/-
A rename as a whole, and undone. Its terms are entries of a new and an old name each. All old names are
looked up in the catalog as it was, so the terms apply at once: the last one whose old name stands for a
position names it, and a position that none stands for keeps its name (`rename_term_iff`). Where nothing is
lost, because the old names and the names after the rename are distinct, an entry still stands for its
position when both its names are exchanged, and so the exchanged entries undo the rename. Main statement:
`rename_undone`.
-/
import ColumnSelect.Proofs.Selection.Agreement

namespace ColumnSelect

/-! ## The terms of a rename -/

/-- A term asks for a change when it gives a new name to a column of the catalog. -/
theorem Term.change_eq_ok_iff {catalog : Catalog} {t : Term} {c : Change} :
    t.change catalog = .ok c ↔
      ∃ e : Entry, e.term = t ∧ catalog.position? e.source = some c.position ∧ e.output = c.name := by
  constructor
  · intro h
    have hterm : ∃ e : Entry, e.term = t := by
      unfold change at h
      obtain ⟨-, -, h⟩ := bind_eq_ok_iff.1 h
      obtain ⟨name, expr⟩ := t
      simp only at h
      split at h
      · cases h
      · exact ⟨⟨_, _⟩, rfl⟩
      · cases h
    obtain ⟨e, rfl⟩ := hterm
    exact ⟨e, rfl, Entry.change_term_eq_ok_iff.1 h⟩
  · rintro ⟨e, rfl, h⟩
    exact Entry.change_term_eq_ok_iff.2 h

theorem Entry.term_injective : Function.Injective Entry.term := by
  rintro ⟨output, source⟩ ⟨output', source'⟩ h
  cases h
  rfl

/-- The terms of a rename that succeeds each give a new name to a column. -/
theorem exists_entries_of_rename {catalog : Catalog} {terms : List Term} {mapping : Mapping}
    (h : rename catalog terms = .ok mapping) : ∃ entries : Mapping, entries.map Entry.term = terms := by
  obtain ⟨cs, hcs, -⟩ := rename_eq_ok_iff.1 h
  have hentry : ∀ t ∈ terms, ∃ e : Entry, e.term = t := by
    intro t ht
    obtain ⟨c, -, hc⟩ := exists_of_forall₂ hcs t ht
    obtain ⟨e, he, -⟩ := Term.change_eq_ok_iff.1 hc
    exact ⟨e, he⟩
  clear hcs h
  induction terms with
  | nil => exact ⟨[], rfl⟩
  | cons t ts ih =>
    obtain ⟨⟨e, rfl⟩, hts⟩ := List.forall_mem_cons.1 hentry
    obtain ⟨entries, rfl⟩ := ih hts
    exact ⟨e :: entries, rfl⟩

/-! ## Names after a rename -/

/-- The new name of the last entry whose old name stands for a position. -/
def lastName? (catalog : Catalog) (entries : Mapping) (p : Nat) : Option String :=
  (entries.reverse.find? fun e => catalog.position? e.source = some p).map Entry.output

/-- The mapping has every column of the catalog in order, each under the name that the last of the entries
gives it, or under its own. -/
structure Renames (catalog : Catalog) (entries mapping : Mapping) : Prop where
  known : ∀ e ∈ entries, e.source ∈ catalog
  sources : mapping.sources = catalog
  outputs : ∀ p own, catalog.nameAt? p = some own →
    Catalog.nameAt? mapping.outputs p = some ((lastName? catalog entries p).getD own)

theorem mem_iff_exists_position {catalog : Catalog} {name : String} :
    name ∈ catalog ↔ ∃ p, catalog.position? name = some p := by
  rw [← Option.isSome_iff_exists, ← Option.ne_none_iff_isSome, Ne, position?_eq_none_iff, not_not]

/-- A change and the entry that asks for it. -/
def Entry.Asks (catalog : Catalog) (e : Entry) (c : Change) : Prop :=
  catalog.position? e.source = some c.position ∧ e.output = c.name

theorem find?_of_asks {catalog : Catalog} {entries : Mapping} {cs : List Change}
    (h : List.Forall₂ (Entry.Asks catalog) entries cs) (p : Nat) :
    (cs.find? (·.position = p)).map Change.name =
      (entries.find? fun e => catalog.position? e.source = some p).map Entry.output := by
  induction h with
  | nil => rfl
  | @cons e c entries cs hc _ ih =>
    rw [List.find?_cons, List.find?_cons, hc.1]
    by_cases hp : c.position = p
    · simp [hp, hc.2]
    · simpa [hp] using ih

theorem newName?_eq_lastName? {catalog : Catalog} {entries : Mapping} {cs : List Change}
    (h : List.Forall₂ (Entry.Asks catalog) entries cs) (p : Nat) : newName? cs p = lastName? catalog entries p :=
  find?_of_asks (List.rel_reverse h) p

theorem exists_asks_iff {catalog : Catalog} {entries : Mapping} :
    (∃ cs, List.Forall₂ (Entry.Asks catalog) entries cs) ↔ ∀ e ∈ entries, e.source ∈ catalog := by
  induction entries with
  | nil => simp
  | cons e entries ih =>
    rw [List.forall_mem_cons, ← ih, mem_iff_exists_position]
    constructor
    · rintro ⟨_, hcs⟩
      obtain _ | ⟨hc, hcs⟩ := hcs
      exact ⟨⟨_, hc.1⟩, _, hcs⟩
    · rintro ⟨⟨p, hp⟩, cs, hcs⟩
      exact ⟨⟨p, e.output⟩ :: cs, .cons ⟨hp, rfl⟩ hcs⟩

/-- The changes that entries ask for rename the columns as the entries say. -/
theorem renames_of_asks {catalog : Catalog} {entries : Mapping} {cs : List Change}
    (h : List.Forall₂ (Entry.Asks catalog) entries cs)
    (hm : rename catalog (entries.map Entry.term) = .ok ((applyChanges catalog cs).zipWith Entry.mk catalog)) :
    Renames catalog entries ((applyChanges catalog cs).zipWith Entry.mk catalog) := by
  refine ⟨exists_asks_iff.1 ⟨cs, h⟩, sources_rename hm, fun p own hp => ?_⟩
  have hchanges : ∀ c ∈ cs, 1 ≤ c.position := by
    intro c hc
    obtain ⟨e, -, he⟩ := exists_of_forall₂ h.flip c hc
    exact (bound_of_nameAt? (position?_eq_some_iff.1 he.1).1).1
  obtain ⟨i, rfl⟩ : ∃ i, p = i + 1 := ⟨p - 1, by have := (bound_of_nameAt? hp).1; omega⟩
  rw [nameAt?_succ] at hp
  rw [outputs_zipWith (length_applyChanges catalog cs), nameAt?_succ, getElem?_applyChanges catalog hchanges, hp,
    newName?_eq_lastName? h]
  rfl

theorem eq_of_nameAt? {names catalog : Catalog} (hl : names.length = catalog.length)
    (h : ∀ p own, catalog.nameAt? p = some own → names.nameAt? p = some own) : names = catalog := by
  refine List.ext_getElem hl fun i hi hi' => ?_
  have hname := h (i + 1) catalog[i] (List.getElem?_eq_getElem hi')
  rw [nameAt?_succ, List.getElem?_eq_getElem hi] at hname
  exact Option.some.inj hname

theorem Mapping.length_outputs (mapping : Mapping) : mapping.outputs.length = mapping.sources.length := by
  rw [outputs, sources, List.length_map, List.length_map]

theorem Mapping.eq_zipWith (mapping : Mapping) : mapping.outputs.zipWith Entry.mk mapping.sources = mapping := by
  rw [outputs, sources, List.zipWith_map, List.zipWith_self]
  exact List.map_id mapping

/-- The entries leave no choice. -/
theorem Renames.unique {catalog : Catalog} {entries mapping mapping' : Mapping}
    (h : Renames catalog entries mapping) (h' : Renames catalog entries mapping') : mapping = mapping' := by
  have houtputs : mapping.outputs = mapping'.outputs := by
    refine eq_of_nameAt? ?_ fun p own hp => ?_
    · rw [Mapping.length_outputs, Mapping.length_outputs, h.sources, h'.sources]
    · -- both have the name of the last entry, where the catalog has a name
      have hb := bound_of_nameAt? hp
      rw [Mapping.length_outputs, h'.sources] at hb
      obtain ⟨name, hname⟩ := nameAt?_isSome hb
      rw [← hp, h'.outputs p name hname]
      exact h.outputs p name hname
  rw [← mapping.eq_zipWith, ← mapping'.eq_zipWith, houtputs, h.sources, h'.sources]

/-- A rename succeeds exactly when all old names are names of the catalog, and then the last new name of each
position counts. -/
theorem rename_term_iff {catalog : Catalog} {entries mapping : Mapping} :
    rename catalog (entries.map Entry.term) = .ok mapping ↔ Renames catalog entries mapping := by
  have hasks {cs : List Change} :
      List.Forall₂ (fun t c => Term.change catalog t = .ok c) (entries.map Entry.term) cs ↔
        List.Forall₂ (Entry.Asks catalog) entries cs := by
    rw [List.forall₂_map_left_iff]
    simp only [Entry.change_term_eq_ok_iff]
    rfl
  constructor
  · intro h
    obtain ⟨cs, hcs, rfl⟩ := rename_eq_ok_iff.1 h
    exact renames_of_asks (hasks.1 hcs) h
  · intro h
    obtain ⟨cs, hcs⟩ := exists_asks_iff.2 h.known
    have hm := rename_eq_ok_iff.2 ⟨cs, hasks.2 hcs, rfl⟩
    rw [h.unique (renames_of_asks hcs hm), hm]

/-! ## Renames undone -/

/-- The entry with its names exchanged. -/
def Entry.swap (e : Entry) : Entry := ⟨e.source, e.output⟩

theorem lastName?_eq_none {catalog : Catalog} {entries : Mapping} {p : Nat}
    (h : ∀ e ∈ entries, catalog.position? e.source ≠ some p) : lastName? catalog entries p = none := by
  rw [lastName?, Option.map_eq_none_iff, List.find?_eq_none]
  intro e he
  simpa using h e (List.mem_reverse.1 he)

/-- Where all entries for a position give it the same name, that is its name. -/
theorem lastName?_eq_some {catalog : Catalog} {entries : Mapping} {p : Nat} {name : String}
    (hsome : ∃ e ∈ entries, catalog.position? e.source = some p)
    (hall : ∀ e ∈ entries, catalog.position? e.source = some p → e.output = name) :
    lastName? catalog entries p = some name := by
  rw [lastName?]
  cases hf : entries.reverse.find? fun e => catalog.position? e.source = some p with
  | none =>
    obtain ⟨e, he, hp⟩ := hsome
    exact absurd hp (by simpa using List.find?_eq_none.1 hf e (List.mem_reverse.2 he))
  | some e =>
    have hp : catalog.position? e.source = some p := by simpa using List.find?_some hf
    exact congrArg some (hall e (List.mem_reverse.1 (List.mem_of_find?_eq_some hf)) hp)

theorem position?_of_nodup {catalog : Catalog} (hc : catalog.Nodup) {p : Nat} {name : String}
    (h : catalog.nameAt? p = some name) : catalog.position? name = some p := by
  obtain ⟨i, rfl⟩ : ∃ i, p = i + 1 := ⟨p - 1, by have := (bound_of_nameAt? h).1; omega⟩
  obtain ⟨hi, rfl⟩ := List.getElem?_eq_some_iff.1 h
  rw [position?_of_mem (List.getElem_mem hi), hc.idxOf_getElem]

section

variable {catalog : Catalog} {entries mapping : Mapping}

/-- Entries with different old names stand for different positions. -/
theorem eq_of_position? (hs : entries.sources.Nodup) {e e' : Entry} (he : e ∈ entries) (he' : e' ∈ entries) {p : Nat}
    (h : catalog.position? e.source = some p) (h' : catalog.position? e'.source = some p) : e = e' := by
  have hname := (position?_eq_some_iff.1 h).1
  rw [(position?_eq_some_iff.1 h').1] at hname
  exact List.inj_on_of_nodup_map hs he he' (Option.some.inj hname).symm

/-- After the rename, the new name of an entry stands for the position for which its old name stood. -/
theorem Renames.position?_output (h : Renames catalog entries mapping) (hs : entries.sources.Nodup)
    (ho : mapping.outputs.Nodup) {e : Entry} (he : e ∈ entries) :
    Catalog.position? mapping.outputs e.output = catalog.position? e.source := by
  obtain ⟨p, hp⟩ := mem_iff_exists_position.1 (h.known e he)
  have hlast : lastName? catalog entries p = some e.output :=
    lastName?_eq_some ⟨e, he, hp⟩ fun e' he' hp' => by rw [eq_of_position? hs he' he hp' hp]
  have hname := h.outputs p e.source (position?_eq_some_iff.1 hp).1
  rw [hlast, Option.getD_some] at hname
  rw [position?_of_nodup ho hname, hp]

/-- So the entries with their names exchanged rename the columns back. -/
theorem Renames.swap (h : Renames catalog entries mapping) (hs : entries.sources.Nodup)
    (ho : mapping.outputs.Nodup) :
    Renames mapping.outputs (entries.map Entry.swap) (catalog.zipWith Entry.mk mapping.outputs) := by
  have hl : catalog.length = mapping.outputs.length := by rw [Mapping.length_outputs, h.sources]
  refine ⟨List.forall_mem_map.2 fun e he => ?_, ?_, fun p out hp => ?_⟩
  · rw [mem_iff_exists_position]
    obtain ⟨p, hp⟩ := mem_iff_exists_position.1 (h.known e he)
    exact ⟨p, (h.position?_output hs ho he).trans hp⟩
  · exact sources_zipWith hl
  · obtain ⟨own, hown⟩ : ∃ own, catalog.nameAt? p = some own :=
      nameAt?_isSome (by rw [hl]; exact bound_of_nameAt? hp)
    have hout := h.outputs p own hown
    rw [hp] at hout
    rw [outputs_zipWith hl, hown]
    by_cases he : ∃ e ∈ entries, catalog.position? e.source = some p
    · -- the entry for the position gives its old name back, which is that of the catalog
      obtain ⟨e, he, hep⟩ := he
      have hname := (position?_eq_some_iff.1 hep).1
      rw [hown] at hname
      have hlast : lastName? mapping.outputs (entries.map Entry.swap) p = some own := by
        refine lastName?_eq_some ?_ (List.forall_mem_map.2 fun e' he' hp' => ?_)
        · exact ⟨e.swap, List.mem_map_of_mem he, (h.position?_output hs ho he).trans hep⟩
        · have hep' : catalog.position? e'.source = some p := (h.position?_output hs ho he').symm.trans hp'
          rw [eq_of_position? hs he' he hep' hep]
          exact (Option.some.inj hname).symm
      rw [hlast]
      rfl
    · -- no entry is for the position, neither before nor after
      have hnone : ∀ e ∈ entries, catalog.position? e.source ≠ some p := fun e hmem hep => he ⟨e, hmem, hep⟩
      rw [lastName?_eq_none hnone] at hout
      rw [lastName?_eq_none (List.forall_mem_map.2 fun e hmem hep => ?_), Option.some.inj hout]
      · rfl
      · exact hnone e hmem ((h.position?_output hs ho hmem).symm.trans hep)

end

/-- A rename keeps every column in its place and renames all at once: the column at a position has the new
name of the last term whose old name stands for that position in the catalog, and its own name where there is
no such term. If no old name is given twice and no two columns have one name afterwards, the same terms with
their names exchanged give the columns the names of the catalog again. -/
theorem rename_undone {catalog : Catalog} {terms : List Term} {mapping : Mapping}
    (h : rename catalog terms = .ok mapping) :
    mapping.sources = catalog ∧ ∃ entries : Mapping, entries.map Entry.term = terms ∧
      (∀ p own, catalog.nameAt? p = some own →
        Catalog.nameAt? mapping.outputs p = some ((lastName? catalog entries p).getD own)) ∧
      (entries.sources.Nodup → mapping.outputs.Nodup →
        ∃ back, rename mapping.outputs (entries.map fun e => e.swap.term) = .ok back ∧ back.outputs = catalog) := by
  obtain ⟨entries, rfl⟩ := exists_entries_of_rename h
  have hrenames := rename_term_iff.1 h
  refine ⟨hrenames.sources, entries, rfl, hrenames.outputs, fun hs ho => ?_⟩
  have hl : catalog.length = mapping.outputs.length := by rw [Mapping.length_outputs, hrenames.sources]
  refine ⟨_, ?_, outputs_zipWith hl⟩
  rw [← rename_term_iff.2 (hrenames.swap hs ho), List.map_map]
  rfl

/-- The last of two terms for one column counts, old names are those of the catalog, and a repeated name is that of
its first column. Three columns that pass their names around get them back. -/
theorem rename_undone_around :
    rename ["a", "b", "a"] ([⟨"x", "a"⟩, ⟨"a", "b"⟩, ⟨"b", "a"⟩].map Entry.term) =
        .ok [⟨"b", "a"⟩, ⟨"a", "b"⟩, ⟨"a", "a"⟩] ∧
      Catalog.nameAt? (Mapping.outputs [⟨"b", "a"⟩, ⟨"a", "b"⟩, ⟨"a", "a"⟩]) 1 =
        some ((lastName? ["a", "b", "a"] [⟨"x", "a"⟩, ⟨"a", "b"⟩, ⟨"b", "a"⟩] 1).getD "a") ∧
      rename ["a", "b", "c"] ([⟨"b", "a"⟩, ⟨"c", "b"⟩, ⟨"a", "c"⟩].map Entry.term) =
        .ok [⟨"b", "a"⟩, ⟨"c", "b"⟩, ⟨"a", "c"⟩] ∧
      Mapping.sources [⟨"b", "a"⟩, ⟨"c", "b"⟩, ⟨"a", "c"⟩] = ["a", "b", "c"] ∧
      ∃ back, rename ["b", "c", "a"] ([⟨"b", "a"⟩, ⟨"c", "b"⟩, ⟨"a", "c"⟩].map fun e : Entry => e.swap.term) = .ok back ∧
        back.outputs = ["a", "b", "c"] := by
  have hlast : rename ["a", "b", "a"] ([⟨"x", "a"⟩, ⟨"a", "b"⟩, ⟨"b", "a"⟩].map Entry.term) =
      .ok [⟨"b", "a"⟩, ⟨"a", "b"⟩, ⟨"a", "a"⟩] := by
    decide +kernel
  have haround : rename ["a", "b", "c"] ([⟨"b", "a"⟩, ⟨"c", "b"⟩, ⟨"a", "c"⟩].map Entry.term) =
      .ok [⟨"b", "a"⟩, ⟨"c", "b"⟩, ⟨"a", "c"⟩] := by
    decide +kernel
  obtain ⟨-, entries, hentries, houtputs, -⟩ := rename_undone hlast
  obtain ⟨hsources, entries', hentries', -, hundone⟩ := rename_undone haround
  obtain rfl := List.map_injective_iff.2 Entry.term_injective hentries
  obtain rfl := List.map_injective_iff.2 Entry.term_injective hentries'
  exact ⟨hlast, houtputs 1 "a" rfl, haround, hsources, hundone (by decide) (by decide)⟩

end ColumnSelect
