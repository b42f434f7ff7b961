namespace WritePath

/-!
# Sets of labels

* `LabelSet` — labels in increasing order, so that sets with the same labels are equal.
* `LabelSet.insert`, `LabelSet.ofList`, `LabelSet.union` — one more label, some labels, two sets.
* `LabelSet.mem_insert`, `LabelSet.mem_ofList`, `LabelSet.mem_union`, `LabelSet.ext` — what they
  hold, and that this is all there is to a set.
-/

/-- A set of labels. -/
structure LabelSet where
  toList : List String
  sorted : toList.Pairwise (· < ·)
  deriving DecidableEq, Repr

namespace LabelSet

instance : Membership String LabelSet where
  mem s x := x ∈ s.toList

instance (x : String) (s : LabelSet) : Decidable (x ∈ s) :=
  inferInstanceAs (Decidable (x ∈ s.toList))

@[simp] theorem mem_toList {x : String} {s : LabelSet} : x ∈ s.toList ↔ x ∈ s := Iff.rfl

/-- The set without labels. -/
def empty : LabelSet := ⟨[], .nil⟩

@[simp] theorem not_mem_empty (x : String) : x ∉ empty := List.not_mem_nil

/-! ### One more label -/

/-- A label in its place among others. -/
def place (x : String) : List String → List String
  | [] => [x]
  | y :: rest => if x < y then x :: y :: rest else if y < x then y :: place x rest else y :: rest

theorem mem_place {x z : String} {l : List String} : z ∈ place x l ↔ z = x ∨ z ∈ l := by
  induction l with
  | nil => simp [place]
  | cons y rest ih =>
    unfold place
    split
    · simp
    · next hxy =>
      split
      · simp [ih, or_left_comm]
      · next hyx =>
        have : x = y := String.le_antisymm (String.not_lt.1 hyx) (String.not_lt.1 hxy)
        simp [this]

theorem pairwise_place {x : String} {l : List String} (h : l.Pairwise (· < ·)) :
    (place x l).Pairwise (· < ·) := by
  induction l with
  | nil => simp [place]
  | cons y rest ih =>
    have hy := List.pairwise_cons.1 h
    unfold place
    split
    · next hxy =>
      refine List.pairwise_cons.2 ⟨fun z hz => ?_, h⟩
      rcases List.mem_cons.1 hz with rfl | hz
      · exact hxy
      · exact String.lt_trans hxy (hy.1 z hz)
    · split
      · next hyx =>
        refine List.pairwise_cons.2 ⟨fun z hz => ?_, ih hy.2⟩
        rcases mem_place.1 hz with rfl | hz
        · exact hyx
        · exact hy.1 z hz
      · exact h

/-- The set with one more label. -/
def insert (s : LabelSet) (x : String) : LabelSet :=
  ⟨place x s.toList, pairwise_place s.sorted⟩

@[simp] theorem mem_insert {s : LabelSet} {x z : String} : z ∈ s.insert x ↔ z = x ∨ z ∈ s :=
  mem_place

/-! ### Several labels -/

/-- The set with the labels of a list added. -/
def insertAll (s : LabelSet) (labels : List String) : LabelSet :=
  labels.foldl insert s

@[simp] theorem mem_insertAll {s : LabelSet} {labels : List String} {z : String} :
    z ∈ s.insertAll labels ↔ z ∈ labels ∨ z ∈ s := by
  induction labels generalizing s with
  | nil => simp [insertAll]
  | cons x rest ih =>
    have : s.insertAll (x :: rest) = (s.insert x).insertAll rest := rfl
    rw [this, ih]
    simp [or_left_comm, or_assoc]

/-- The set of the labels of a list. -/
def ofList (labels : List String) : LabelSet :=
  empty.insertAll labels

@[simp] theorem mem_ofList {labels : List String} {z : String} :
    z ∈ ofList labels ↔ z ∈ labels := by
  simp [ofList]

/-- The labels of two sets. -/
def union (s t : LabelSet) : LabelSet :=
  s.insertAll t.toList

@[simp] theorem mem_union {s t : LabelSet} {z : String} : z ∈ s.union t ↔ z ∈ s ∨ z ∈ t := by
  simp [union, or_comm]

/-! ### Equal sets -/

theorem ext_toList {l m : List String} (hl : l.Pairwise (· < ·)) (hm : m.Pairwise (· < ·))
    (h : ∀ z, z ∈ l ↔ z ∈ m) : l = m := by
  induction l generalizing m with
  | nil =>
    cases m with
    | nil => rfl
    | cons y _ => exact absurd ((h y).2 List.mem_cons_self) List.not_mem_nil
  | cons x rest ih =>
    cases m with
    | nil => exact absurd ((h x).1 List.mem_cons_self) List.not_mem_nil
    | cons y others =>
      have hx := List.pairwise_cons.1 hl
      have hy := List.pairwise_cons.1 hm
      have hxy : x = y := by
        rcases List.mem_cons.1 ((h x).1 List.mem_cons_self) with e | hmem
        · exact e
        · rcases List.mem_cons.1 ((h y).2 List.mem_cons_self) with e | hmem'
          · exact e.symm
          · exact absurd (String.lt_trans (hy.1 x hmem) (hx.1 y hmem')) (String.lt_irrefl y)
      subst hxy
      refine congrArg (x :: ·) (ih hx.2 hy.2 fun z => ⟨fun hz => ?_, fun hz => ?_⟩)
      · rcases List.mem_cons.1 ((h z).1 (List.mem_cons_of_mem _ hz)) with rfl | hz'
        · exact absurd (hx.1 z hz) (String.lt_irrefl z)
        · exact hz'
      · rcases List.mem_cons.1 ((h z).2 (List.mem_cons_of_mem _ hz)) with rfl | hz'
        · exact absurd (hy.1 z hz) (String.lt_irrefl z)
        · exact hz'

/-- Sets with the same labels are equal. -/
theorem ext {s t : LabelSet} (h : ∀ z, z ∈ s ↔ z ∈ t) : s = t := by
  obtain ⟨l, hl⟩ := s
  obtain ⟨m, hm⟩ := t
  cases ext_toList hl hm h
  rfl

end LabelSet

end WritePath
