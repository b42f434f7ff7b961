namespace WritePath.Text

/-!
# Texts that are cut at a separator

* `CutAt` — what stands before the first separator in a text, and what after it.
* `exists_cutAt_iff`, `CutAt.unique` — a text that has the separator is cut in just one way.
* `CutAt.splitOn` — the pieces between all separators are what stands before the first and the
  pieces of the rest.
-/

/-- The first separator in a text stands between `before` and `after`. -/
structure CutAt (sep : Char) (s before after : String) : Prop where
  toList_eq : s.toList = before.toList ++ sep :: after.toList
  not_mem : sep ∉ before.toList

variable {sep : Char} {s before after before' after' : String}

/-- There is a first separator if there is any. -/
theorem exists_cutAt_iff : (∃ before after, CutAt sep s before after) ↔ sep ∈ s.toList := by
  constructor
  · rintro ⟨before, after, h⟩
    rw [h.toList_eq]
    exact List.mem_append_right _ List.mem_cons_self
  · intro h
    obtain ⟨before, after, hs, hbefore⟩ := List.eq_append_cons_of_mem h
    refine ⟨String.ofList before, String.ofList after, ?_, ?_⟩
    · rw [hs, String.toList_ofList, String.toList_ofList]
    · rwa [String.toList_ofList]

namespace CutAt

/-- Splitting takes off what stands before the first separator. -/
theorem splitOn (h : CutAt sep s before after) :
    s.toList.splitOn sep = before.toList :: after.toList.splitOn sep := by
  rw [h.toList_eq, List.splitOn_append_cons_self_of_not_mem h.not_mem]

/-- There is only one first separator. -/
theorem unique (h : CutAt sep s before after) (h' : CutAt sep s before' after') :
    before = before' ∧ after = after' := by
  have hpieces := h.splitOn.symm.trans h'.splitOn
  have hbefore : before = before' := String.toList_inj.1 (List.head_eq_of_cons_eq hpieces)
  subst hbefore
  have hrest := List.append_cancel_left (h.toList_eq.symm.trans h'.toList_eq)
  exact ⟨rfl, String.toList_inj.1 (List.tail_eq_of_cons_eq hrest)⟩

end CutAt

end WritePath.Text
