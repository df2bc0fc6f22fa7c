/-
Sets of code points as lists of closed intervals, the form in which this library keeps character
data. The operations on sets are told by the characters that they hold (`has_diff` and its like). In
the written form of a set, hexadecimal intervals are separated by blanks, as in "41-5A 61-7A AA".
-/
namespace ColumnSelect.Unicode

/-- A set of code points: a list of closed intervals `(lo, hi)`. -/
abbrev CodeSet := List (Nat × Nat)

namespace CodeSet

/-- Whether some interval holds the character. -/
def has (s : CodeSet) (c : Char) : Bool :=
  s.any fun r => r.1 ≤ c.toNat && c.toNat ≤ r.2

@[simp] theorem has_nil (c : Char) : has [] c = false := rfl

theorem has_cons (r : Nat × Nat) (s : CodeSet) (c : Char) :
    has (r :: s) c = (decide (r.1 ≤ c.toNat ∧ c.toNat ≤ r.2) || has s c) := by
  simp [has]

@[simp] theorem has_append (s t : CodeSet) (c : Char) :
    has (s ++ t) c = (has s c || has t c) := by
  simp [has, List.any_append]

/-! ## Operations -/

/-- The set of one character. -/
def single (c : Char) : CodeSet := [(c.toNat, c.toNat)]

/-- The set of all characters. -/
def full : CodeSet := [(0, 0xD7FF), (0xE000, 0x10FFFF)]

/-- What one interval leaves of another: a part below it and a part above it. -/
def rest (r q : Nat × Nat) : CodeSet :=
  (if q.1 < r.1 then [(q.1, min q.2 (r.1 - 1))] else []) ++
    if r.2 < q.2 then [(max q.1 (r.2 + 1), q.2)] else []

/-- What an interval leaves of a set. -/
def cut (s : CodeSet) (r : Nat × Nat) : CodeSet := s.flatMap (rest r)

/-- The characters of one set that are not in another. -/
def diff (s t : CodeSet) : CodeSet := t.foldl cut s

/-- The characters of both sets. -/
def inter (s t : CodeSet) : CodeSet := s.diff (s.diff t)

/-- The characters of exactly one of two sets. -/
def symmDiff (s t : CodeSet) : CodeSet := s.diff t ++ t.diff s

/-- The characters outside of a set. -/
def complement (s : CodeSet) : CodeSet := full.diff s

/-- The set, or its complement. -/
def complementIf (s : CodeSet) (b : Bool) : CodeSet := if b then s.complement else s

theorem has_rest (r q : Nat × Nat) (c : Char) : (rest r q).has c =
    (decide (q.1 ≤ c.toNat ∧ c.toNat ≤ q.2) && !decide (r.1 ≤ c.toNat ∧ c.toNat ≤ r.2)) := by
  rw [Bool.eq_iff_iff]
  unfold rest
  split <;> split <;> simp [has_cons] <;> omega

theorem has_cut (s : CodeSet) (r : Nat × Nat) (c : Char) :
    (s.cut r).has c = (s.has c && !decide (r.1 ≤ c.toNat ∧ c.toNat ≤ r.2)) := by
  induction s with
  | nil => rfl
  | cons q s ih =>
    have hcut : cut (q :: s) r = rest r q ++ cut s r := List.flatMap_cons
    rw [hcut, has_append, has_rest, ih, has_cons, Bool.and_or_distrib_right]

@[simp] theorem has_diff (s t : CodeSet) (c : Char) : (s.diff t).has c = (s.has c && !t.has c) := by
  induction t generalizing s with
  | nil => simp [diff]
  | cons r t ih =>
    have hdiff : s.diff (r :: t) = (s.cut r).diff t := rfl
    rw [hdiff, ih, has_cut, has_cons, Bool.not_or, Bool.and_assoc]

@[simp] theorem has_inter (s t : CodeSet) (c : Char) : (s.inter t).has c = (s.has c && t.has c) := by
  rw [inter, has_diff, has_diff]
  cases s.has c <;> simp

@[simp] theorem has_symmDiff (s t : CodeSet) (c : Char) :
    (s.symmDiff t).has c = (s.has c != t.has c) := by
  rw [symmDiff, has_append, has_diff, has_diff]
  cases s.has c <;> simp

@[simp] theorem has_full (c : Char) : full.has c = true := by
  have h : c.toNat < 0xD800 ∨ 0xDFFF < c.toNat ∧ c.toNat < 0x110000 := c.valid
  simp only [full, has_cons, has_nil, Bool.or_false, Bool.or_eq_true, decide_eq_true_eq]
  omega

@[simp] theorem has_complement (s : CodeSet) (c : Char) : s.complement.has c = !s.has c := by
  rw [complement, has_diff, has_full, Bool.true_and]

/-! ## Written sets -/

/-- The number written by upper-case hexadecimal digits. -/
def hexValue (digits : String) : Nat :=
  digits.foldl (fun n c => 16 * n + (if c ≤ '9' then c.toNat - 48 else c.toNat - 55)) 0

/-- The interval written as `LO-HI`, or as one number when it holds a single code point. -/
def interval (item : String) : Nat × Nat :=
  match (item.splitOn "-").map hexValue with
  | [lo, hi] => (lo, hi)
  | [lo] => (lo, lo)
  | _ => (1, 0)

/-- The set written in rows of intervals. -/
def ofRows (rows : List String) : CodeSet :=
  rows.flatMap fun row => (row.splitOn " ").map interval

/-! ## Fewest intervals -/

/-- Ascending intervals behind `(lo, hi)`, those that touch made one. -/
def joinFrom (lo hi : Nat) : CodeSet → CodeSet
  | [] => [(lo, hi)]
  | (lo', hi') :: rest =>
    if lo' ≤ hi + 1 then joinFrom lo (max hi hi') rest else (lo, hi) :: joinFrom lo' hi' rest

/-- The same set in the fewest intervals, in ascending order. -/
def normal (s : CodeSet) : CodeSet :=
  match s.mergeSort fun a b => a.1 ≤ b.1 with
  | [] => []
  | (lo, hi) :: rest => joinFrom lo hi rest

theorem has_joinFrom {lo hi : Nat} {s : CodeSet} (c : Char)
    (h : ((lo, hi) :: s).Pairwise fun a b => a.1 ≤ b.1) : (joinFrom lo hi s).has c = has ((lo, hi) :: s) c := by
  induction s generalizing lo hi with
  | nil => rfl
  | cons r s ih =>
    obtain ⟨hlow, hs⟩ := List.pairwise_cons.1 h
    have hr : lo ≤ r.1 := hlow r List.mem_cons_self
    unfold joinFrom
    split
    · have hjoin : ((lo, max hi r.2) :: s).Pairwise fun a b => a.1 ≤ b.1 :=
        List.pairwise_cons.2 ⟨fun q hq => hlow q (List.mem_cons_of_mem _ hq), hs.tail⟩
      rw [ih hjoin, has_cons, has_cons, has_cons, ← Bool.or_assoc, ← Bool.decide_or]
      congr 2
      grind
    · rw [has_cons, has_cons, ih hs]

@[simp] theorem has_normal (s : CodeSet) (c : Char) : s.normal.has c = s.has c := by
  have hperm := s.mergeSort_perm fun a b => decide (a.1 ≤ b.1)
  have hsorted : (s.mergeSort fun a b => decide (a.1 ≤ b.1)).Pairwise fun a b => a.1 ≤ b.1 := by
    refine (List.pairwise_mergeSort ?_ ?_ s).imp fun h => of_decide_eq_true h
    · simp only [decide_eq_true_eq]
      omega
    · simp only [Bool.or_eq_true, decide_eq_true_eq]
      omega
  unfold normal
  rw [has, has, ← hperm.any_eq]
  cases h : s.mergeSort fun a b => decide (a.1 ≤ b.1) with
  | nil => rfl
  | cons r others =>
    rw [h] at hsorted
    exact has_joinFrom c hsorted

end CodeSet

/-- A set of code points under the names it is known by, each in lower case and without blanks,
low lines and hyphens. -/
structure NamedSet where
  names : List String
  rows : List String

/-- The code points of the set. -/
def NamedSet.codes (s : NamedSet) : CodeSet := CodeSet.ofRows s.rows

/-- The first set of that name. -/
def NamedSet.find? (sets : List NamedSet) (name : String) : Option NamedSet :=
  sets.find? fun s => s.names.contains name

end ColumnSelect.Unicode
