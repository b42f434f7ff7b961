import WritePath.Binary64.Basic

namespace WritePath

/-!
# BSON values and documents

* `Bson` — a value: numbers, text, arrays, documents and the special values of the format.
* `Document` — named values in order. Names are expected to differ, and every operation here keeps
  them so.
* `Document.get?`, `Document.insert`, `Document.merge` — look up, set one, set several.
* `Document.get?_insert`, `Document.keys_insert`, `Document.nodup_keys_insert` — what setting a
  field does to the values, to the order, and to the distinctness of the names.
-/

/-- A BSON value. -/
inductive Bson where
  | double (x : Binary64)
  | string (s : String)
  | array (items : List Bson)
  | document (fields : List (String × Bson))
  | boolean (b : Bool)
  | null
  | int32 (n : Int32)
  | int64 (n : Int64)
  | objectId (id : Vector UInt8 12)
  | dateTime (millis : Int64)
  | timestamp (time increment : UInt32)
  | binary (subtype : UInt8) (bytes : List UInt8)
  | regex (pattern options : String)
  | decimal128 (bytes : Vector UInt8 16)
  | javascript (code : String)
  | scopedJavascript (code : String) (scope : List (String × Bson))
  | symbol (s : String)
  | undefined
  | minKey
  | maxKey
  deriving Inhabited

/-- Named values, in order. -/
abbrev Document := List (String × Bson)

namespace Document

/-- The names, in order. -/
def keys (d : Document) : List String :=
  d.map Prod.fst

/-- The value under a name. -/
def get? (d : Document) (key : String) : Option Bson :=
  List.lookup key d

/-- Whether a name is in use. -/
def hasKey (d : Document) (key : String) : Bool :=
  (d.get? key).isSome

/-- Sets the value under a name. A name in use keeps its place, a new one goes to the end. -/
def insert (key : String) (value : Bson) : Document → Document
  | [] => [(key, value)]
  | field :: rest =>
    if field.1 = key then (key, value) :: rest else field :: insert key value rest

/-- Sets every field of a second document, in its order. -/
def merge (d details : Document) : Document :=
  details.foldl (fun d field => insert field.1 field.2 d) d

/-- The document of a list of fields, in which a repeated name keeps its first place and its last
value. -/
def ofList (fields : List (String × Bson)) : Document :=
  merge [] fields

/-! ### Looking up -/

@[simp] theorem get?_nil (key : String) : get? [] key = none := rfl

theorem get?_cons (k : String) (v : Bson) (rest : Document) (key : String) :
    get? ((k, v) :: rest) key = if key = k then some v else get? rest key := by
  by_cases h : key = k
  · simp [get?, h]
  · simp [get?, List.lookup_cons, h, beq_eq_false_iff_ne.2 h]

theorem get?_eq_none_iff {d : Document} {key : String} : d.get? key = none ↔ key ∉ d.keys := by
  induction d with
  | nil => simp [keys]
  | cons field rest ih =>
    obtain ⟨k, v⟩ := field
    rw [get?_cons]
    by_cases h : key = k
    · simp [h, keys]
    · simpa [h, keys] using ih

/-! ### Setting a field -/

@[simp] theorem insert_nil (key : String) (value : Bson) :
    insert key value [] = [(key, value)] :=
  rfl

/-- Setting a field shows under its own name and nowhere else. -/
theorem get?_insert (d : Document) (key : String) (value : Bson) (k : String) :
    (insert key value d).get? k = if k = key then some value else d.get? k := by
  induction d with
  | nil => simp [get?_cons]
  | cons field rest ih =>
    obtain ⟨k', v'⟩ := field
    unfold insert
    by_cases h : k' = key
    · subst h
      by_cases hk : k = k' <;> simp [get?_cons, hk]
    · by_cases hk : k = k'
      · subst hk
        simp [get?_cons, h]
      · simp [get?_cons, h, hk, ih]

/-- Setting a field keeps all names in place, and adds its own at the end where it is new. -/
theorem keys_insert (d : Document) (key : String) (value : Bson) :
    (insert key value d).keys = if key ∈ d.keys then d.keys else d.keys ++ [key] := by
  induction d with
  | nil => simp [keys]
  | cons field rest ih =>
    obtain ⟨k', v'⟩ := field
    unfold insert
    by_cases h : k' = key
    · subst h
      simp [keys]
    · have h' : ¬ key = k' := fun e => h e.symm
      simp only [keys] at ih
      by_cases hm : key ∈ rest.map Prod.fst <;> simp [keys, h, h', hm, ih]

theorem nodup_keys_insert {d : Document} (h : d.keys.Nodup) (key : String) (value : Bson) :
    (insert key value d).keys.Nodup := by
  rw [keys_insert]
  split
  · exact h
  · next hk => exact List.nodup_append.2 ⟨h, by simp, by simp; exact fun a ha e => hk (e ▸ ha)⟩

/-! ### Setting several fields -/

@[simp] theorem merge_nil (d : Document) : d.merge [] = d := rfl

@[simp] theorem merge_cons (d : Document) (field : String × Bson) (rest : Document) :
    d.merge (field :: rest) = (insert field.1 field.2 d).merge rest := rfl

theorem nodup_keys_merge {d : Document} (h : d.keys.Nodup) (details : Document) :
    (d.merge details).keys.Nodup := by
  induction details generalizing d with
  | nil => exact h
  | cons field rest ih => exact ih (nodup_keys_insert h _ _)

theorem nodup_keys_ofList (fields : List (String × Bson)) : (ofList fields).keys.Nodup :=
  nodup_keys_merge (by simp [keys]) fields

end Document

end WritePath
