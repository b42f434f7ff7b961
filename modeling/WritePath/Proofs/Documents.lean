import Mathlib.Data.List.Induction
import WritePath.Bson.Basic

namespace WritePath

/-!
# Setting several fields, adding some, and leaving some out

`Document.merge` sets the fields of a second document one by one, so of a name that comes up twice
the last value stays. Everything that is told about a failed write is put together in this way.

* `Document.get?_merge` — the value under a name is the last one that was set, or else the old one.
* `Document.keys_ofList`, `Document.keys_merge` — the names stand in the order in which they were
  first set, so that those in use keep their places.
* `Document.Lacks` — none of some names is in use, so that `Document.get?_merge` finds the old
  values under them (`Document.Lacks.get?_reverse`).
* `Document.get?_append`, `Document.get?_toList`, `Document.merge_eq_append` — fields that are added
  at the end, as they are by setting new ones, and fields that may be left out.
* `Document.ext_get?`, `Document.merge_merge` — the names, their order and the values are all there
  is to a document, and setting the same fields once more changes none of them.
* `Document.without`, `Document.get?_without` — a document with some fields left out.
-/

namespace Document

/-- A field in front is found last among the fields read from the back. -/
theorem get?_reverse_cons (field : String × Bson) (rest : Document) (key : String) :
    get? (field :: rest).reverse key
      = (get? rest.reverse key).or (if key = field.1 then some field.2 else none) := by
  have hlast : get? [field] key = if key = field.1 then some field.2 else none := get?_cons ..
  rw [← hlast, List.reverse_cons]
  exact List.lookup_append

/-- **Last value.** Under every name stands the last value that was set, or else the old one. -/
theorem get?_merge (d details : Document) (key : String) :
    (d.merge details).get? key = (get? details.reverse key).or (d.get? key) := by
  induction details generalizing d with
  | nil => simp
  | cons field rest ih =>
    rw [merge_cons, ih, get?_insert, get?_reverse_cons]
    by_cases h : key = field.1 <;> simp [h]

/-- None of some names is in use. -/
def Lacks (d : Document) (names : List String) : Prop :=
  ∀ key ∈ names, key ∉ d.keys

instance (d : Document) (names : List String) : Decidable (d.Lacks names) :=
  inferInstanceAs (Decidable (∀ key ∈ names, key ∉ d.keys))

theorem Lacks.mono {d : Document} {names fewer : List String} (h : d.Lacks names)
    (hsub : fewer ⊆ names) : d.Lacks fewer :=
  fun key hkey => h key (hsub hkey)

/-- No value under any of them is set. -/
theorem Lacks.get?_reverse {details : Document} {names : List String} (h : details.Lacks names)
    {key : String} (hkey : key ∈ names) : get? details.reverse key = none := by
  rw [get?_eq_none_iff, keys, List.map_reverse, List.mem_reverse]
  exact h key hkey

/-! ### The order of the names -/

theorem merge_append (d details more : Document) :
    d.merge (details ++ more) = (d.merge details).merge more :=
  List.foldl_append

/-- Without its later repetitions, a list has its last item only if that is new. -/
theorem eraseDups_concat (l : List String) (a : String) :
    (l ++ [a]).eraseDups = if a ∈ l then l.eraseDups else l.eraseDups ++ [a] := by
  rw [List.eraseDups_append]
  by_cases h : a ∈ l
  · simp [List.removeAll, h]
  · simp [List.removeAll, h, List.eraseDups_cons]

/-- **First place.** The names stand in the order in which they were first set. -/
theorem keys_ofList (fields : List (String × Bson)) :
    (ofList fields).keys = (keys fields).eraseDups := by
  -- The field that is set last changes the names only if it has a new one.
  induction fields using List.reverseRecOn with
  | nil => rfl
  | append_singleton fields field ih =>
    have hset : ofList (fields ++ [field]) = insert field.1 field.2 (ofList fields) := by
      rw [ofList, merge_append]
      rfl
    have hkeys : keys (fields ++ [field]) = keys fields ++ [field.1] := List.map_append
    rw [hset, keys_insert, ih, hkeys, eraseDups_concat]
    simp only [List.mem_eraseDups]

/-- A field is found in the first part of a document, or else in the second. -/
theorem get?_append (d e : Document) (key : String) :
    get? (d ++ e) key = (d.get? key).or (e.get? key) :=
  List.lookup_append

/-- A field that may be left out. -/
theorem get?_toList (v? : Option Bson) (name key : String) :
    get? (v?.map fun v => (name, v)).toList key = if key = name then v? else none := by
  cases v? with
  | none => exact (ite_self none).symm
  | some v => exact get?_cons name v [] key

theorem keys_append (d e : Document) : keys (d ++ e) = d.keys ++ e.keys :=
  List.map_append

theorem insert_eq_append {d : Document} {key : String} (h : key ∉ d.keys) (value : Bson) :
    insert key value d = d ++ [(key, value)] := by
  induction d with
  | nil => rfl
  | cons field rest ih =>
    obtain ⟨hfield, hrest⟩ := not_or.1 (mt List.mem_cons.2 h)
    rw [insert, if_neg fun e => hfield e.symm, ih hrest, List.cons_append]

/-- Fields under new names are set at the end, in their order. -/
theorem merge_eq_append {d details : Document} (h : (d.keys ++ details.keys).Nodup) :
    d.merge details = d ++ details := by
  induction details generalizing d with
  | nil => exact (List.append_nil d).symm
  | cons field rest ih =>
    have hnew : field.1 ∉ d.keys := by
      intro hmem
      exact (List.nodup_append.1 h).2.2 _ hmem _ List.mem_cons_self rfl
    have hrest : (keys (d ++ [field]) ++ keys rest).Nodup := by
      rw [keys_append, List.append_assoc]
      exact h
    rw [merge_cons, insert_eq_append hnew, ih hrest, List.append_assoc]
    rfl

theorem ofList_of_nodup {d : Document} (h : d.keys.Nodup) : ofList d = d :=
  merge_eq_append h

/-- **New names.** Setting some fields leaves the names in their places. New ones follow in the order
in which they are first set. -/
theorem keys_merge {d : Document} (h : d.keys.Nodup) (details : Document) :
    (d.merge details).keys = d.keys ++ (details.keys.removeAll d.keys).eraseDups := by
  have hmerge : d.merge details = ofList (d ++ details) := by
    rw [ofList, merge_append, ← ofList, ofList_of_nodup h]
  have hold : d.keys.eraseDups = d.keys := by
    rw [← keys_ofList, ofList_of_nodup h]
  rw [hmerge, keys_ofList, keys_append, List.eraseDups_append, hold]

/-! ### Equal documents -/

/-- Where no name comes up twice, every field is found. -/
theorem get?_eq_some_iff_mem {d : Document} (h : d.keys.Nodup) {key : String} {v : Bson} :
    d.get? key = some v ↔ (key, v) ∈ d := by
  induction d with
  | nil => simp
  | cons field rest ih =>
    obtain ⟨k, w⟩ := field
    obtain ⟨hfirst, hrest⟩ := List.nodup_cons.1 h
    rw [get?_cons, List.mem_cons, Prod.mk.injEq]
    by_cases hk : key = k
    · have hnot : (key, v) ∉ rest := by
        intro hmem
        have hname : key ∈ keys rest := List.mem_map_of_mem hmem
        exact hfirst (hk ▸ hname)
      rw [if_pos hk, Option.some.injEq, eq_comm, or_iff_left hnot, and_iff_right hk]
    · rw [if_neg hk, ih hrest, or_iff_right (not_and_of_not_left _ hk)]

/-- Documents with the same names in the same order, none of them twice, are equal if they have the
same values. -/
theorem ext_get? {d e : Document} (h : d.keys.Nodup) (hkeys : d.keys = e.keys)
    (hget : ∀ key, d.get? key = e.get? key) : d = e := by
  induction d generalizing e with
  | nil => exact (List.map_eq_nil_iff.1 hkeys.symm).symm
  | cons field rest ih =>
    obtain ⟨key, v⟩ := field
    cases e with
    | nil => cases hkeys
    | cons other others =>
      obtain ⟨key', v'⟩ := other
      obtain ⟨rfl, hothers⟩ := List.cons.inj hkeys
      obtain ⟨hfirst, hrest⟩ := List.nodup_cons.1 h
      have hv : v = v' := by
        have := hget key
        rwa [get?_cons, get?_cons, if_pos rfl, if_pos rfl, Option.some.injEq] at this
      subst hv
      have heq : rest = others := by
        refine ih hrest hothers fun k => ?_
        by_cases hk : k = key
        · -- The first name does not come up again, in either document.
          have hothersFirst : key ∉ keys others := by
            rw [keys, ← hothers]
            exact hfirst
          rw [hk, get?_eq_none_iff.2 hfirst, get?_eq_none_iff.2 hothersFirst]
        · have := hget k
          rwa [get?_cons, get?_cons, if_neg hk, if_neg hk] at this
      rw [heq]

/-- **Once more.** Setting the same fields again changes nothing. -/
theorem merge_merge {d : Document} (h : d.keys.Nodup) (details : Document) :
    (d.merge details).merge details = d.merge details := by
  have hnodup : (d.merge details).keys.Nodup := nodup_keys_merge h details
  have hold : details.keys.removeAll (d.merge details).keys = [] := by
    rw [List.removeAll, List.filter_eq_nil_iff]
    intro key hkey
    simp only [keys_merge h, List.elem_eq_contains, List.contains_eq_mem, List.mem_append,
      List.mem_eraseDups, List.removeAll, List.mem_filter]
    by_cases hmem : key ∈ d.keys <;> simp [hmem, hkey]
  refine ext_get? (nodup_keys_merge hnodup details) ?_ fun key => ?_
  · rw [keys_merge hnodup, hold, List.eraseDups_nil, List.append_nil]
  · rw [get?_merge, get?_merge, ← Option.or_assoc, Option.or_self]

/-! ### Leaving fields out -/

/-- The fields under other names. -/
def without (d : Document) (names : List String) : Document :=
  d.filter fun field => field.1 ∉ names

/-- Leaving fields out shows under their names and nowhere else. -/
theorem get?_without (d : Document) (names : List String) (key : String) :
    (d.without names).get? key = if key ∈ names then none else d.get? key := by
  induction d with
  | nil => simp [without]
  | cons field rest ih =>
    obtain ⟨k, v⟩ := field
    rw [without] at ih ⊢
    by_cases hk : k ∈ names
    · -- The field is left out, and there was none under another name.
      rw [List.filter_cons_of_neg (by simpa using hk), ih, get?_cons]
      by_cases h : key = k <;> simp [h, hk]
    · rw [List.filter_cons_of_pos (by simpa using hk), get?_cons, ih, get?_cons]
      by_cases h : key = k <;> simp [h, hk]

theorem get?_without_of_not_mem {names : List String} {key : String} (h : key ∉ names)
    (d : Document) : (d.without names).get? key = d.get? key := by
  rw [get?_without, if_neg h]

theorem get?_without_of_mem {names : List String} {key : String} (h : key ∈ names)
    (d : Document) : (d.without names).get? key = none := by
  rw [get?_without, if_pos h]

end Document

end WritePath
