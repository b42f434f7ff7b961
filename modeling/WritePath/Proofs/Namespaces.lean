import WritePath.Proofs.Cuts
import WritePath.Request.Namespace

namespace WritePath.Namespace

open Text

/-!
# Namespaces and their texts

The text of a namespace is read at its first dot, whichever of the names the dot belongs to.

* `parse?_eq_some_iff` — a text reads as the namespace whose names are on either side of its first
  dot.
* `accepts_exactly` — which texts are read, and that they are the texts of what they read as.
* `text_eq_iff` — two namespaces have one text if a dot can be counted to either of the names.
* `told_apart` — a namespace is read back from its text exactly if the database has no dot.
-/

variable {s db coll : String} {ns other : Namespace}

/-! ### Reading -/

/-- Reading joins the pieces after the first dot again. -/
theorem parse?_of_cutAt (h : CutAt '.' s db coll) : parse? s = (ofNames db coll).toOption := by
  rw [parse?, h.splitOn]
  show (ofNames (String.ofList db.toList)
    (String.ofList (['.'].intercalate (coll.toList.splitOn '.')))).toOption = _
  rw [List.intercalate_splitOn, String.ofList_toList, String.ofList_toList]

/-- Without a dot nothing is left for the collection. -/
theorem parse?_of_not_mem (h : '.' ∉ s.toList) : parse? s = none := by
  rw [parse?, List.splitOn_eq_singleton h]
  show (ofNames (String.ofList s.toList) "").toOption = none
  unfold ofNames
  split
  · rfl
  · rfl

theorem ofNames_eq_ok_iff : ofNames db coll = .ok ns ↔ ns.db = db ∧ ns.coll = coll := by
  constructor
  · intro h
    unfold ofNames at h
    split at h
    · cases h
    · split at h
      · cases h
      · cases h
        exact ⟨rfl, rfl⟩
  · rintro ⟨rfl, rfl⟩
    exact ofNames_of_ne ns.db_ne ns.coll_ne

theorem toOption_ofNames_eq_some_iff :
    (ofNames db coll).toOption = some ns ↔ ns.db = db ∧ ns.coll = coll := by
  rw [← ofNames_eq_ok_iff]
  cases ofNames db coll <;> simp [Except.toOption]

/-- A text reads as the namespace whose names are on either side of its first dot. -/
theorem parse?_eq_some_iff : parse? s = some ns ↔ CutAt '.' s ns.db ns.coll := by
  constructor
  · intro h
    by_cases hdot : '.' ∈ s.toList
    · obtain ⟨db, coll, hcut⟩ := exists_cutAt_iff.2 hdot
      rw [parse?_of_cutAt hcut, toOption_ofNames_eq_some_iff] at h
      obtain ⟨rfl, rfl⟩ := h
      exact hcut
    · rw [parse?_of_not_mem hdot] at h
      cases h
  · intro h
    rw [parse?_of_cutAt h, toOption_ofNames_eq_some_iff]
    exact ⟨rfl, rfl⟩

/-! ### The text -/

theorem toList_text (ns : Namespace) : ns.text.toList = ns.db.toList ++ '.' :: ns.coll.toList := by
  rw [text, String.toList_append, String.toList_append, List.append_assoc]
  rfl

/-- The text of a namespace has its first dot between the names unless the database has one. -/
theorem cutAt_text_iff : CutAt '.' ns.text ns.db ns.coll ↔ '.' ∉ ns.db.toList :=
  ⟨fun h => h.not_mem, fun h => ⟨ns.toList_text, h⟩⟩

theorem text_eq_of_cutAt (h : CutAt '.' s ns.db ns.coll) : ns.text = s := by
  rw [← String.toList_inj, toList_text, h.toList_eq]

/-- **Reading.** A string is read if it has a dot and there is some text before the first dot and
    some after it. The text before it is the database, and all the text after it, with whatever
    dots it has, is the collection. The string is the text of the namespace, and what the namespace
    is written as. -/
theorem accepts_exactly (s : String) :
    ((∃ ns, ofBson? (.string s) = some ns) ↔
      ∃ before after, CutAt '.' s before after ∧ before ≠ "" ∧ after ≠ "") ∧
    ∀ ns, ofBson? (.string s) = some ns →
      CutAt '.' s ns.db ns.coll ∧ '.' ∉ ns.db.toList ∧ ns.text = s ∧ ns.toBson = .string s := by
  refine ⟨⟨?read, ?found⟩, fun ns h => ?_⟩
  case read =>
    rintro ⟨ns, h⟩
    exact ⟨ns.db, ns.coll, parse?_eq_some_iff.1 h, ns.db_ne, ns.coll_ne⟩
  case found =>
    rintro ⟨before, after, hcut, hbefore, hafter⟩
    exact ⟨⟨before, after, hbefore, hafter⟩, parse?_eq_some_iff.2 hcut⟩
  · have hcut := parse?_eq_some_iff.1 h
    have htext := text_eq_of_cutAt hcut
    exact ⟨hcut, hcut.not_mem, htext, congrArg Bson.string htext⟩

/-- Repeated and trailing dots are kept. A text that begins with its only dot is not read. -/
theorem accepts_exactly_trailingDots :
    let dotted : Namespace := ⟨"db", ".a..", by decide, by decide⟩
    ofBson? (.string "db..a..") = some dotted ∧ dotted.toBson = .string "db..a.." ∧
      ¬ ∃ ns, ofBson? (.string ".coll") = some ns := by
  intro dotted
  have hread : ofBson? (.string "db..a..") = some dotted := rfl
  obtain ⟨-, hback⟩ := accepts_exactly "db..a.."
  obtain ⟨-, -, -, hwritten⟩ := hback dotted hread
  refine ⟨hread, hwritten, ?_⟩
  have hfirst : CutAt '.' ".coll" "" "coll" := ⟨rfl, by decide⟩
  rw [(accepts_exactly ".coll").1]
  rintro ⟨before, after, hcut, hbefore, -⟩
  exact hbefore (hcut.unique hfirst).1

/-! ### Namespaces with one text -/

/-- The database of the one goes on after that of the other, with a part of its collection. -/
def ReachesInto (ns other : Namespace) : Prop :=
  ∃ part, ns.db = other.db ++ "." ++ part ∧ other.coll = part ++ "." ++ ns.coll

theorem ext_names (hdb : ns.db = other.db) (hcoll : ns.coll = other.coll) : ns = other := by
  cases ns
  cases other
  cases hdb
  cases hcoll
  rfl

/-- Such a database has a dot. -/
theorem ReachesInto.mem_db (h : ns.ReachesInto other) : '.' ∈ ns.db.toList := by
  obtain ⟨part, hdb, -⟩ := h
  rw [hdb]
  simp

theorem ReachesInto.text_eq (h : ns.ReachesInto other) : ns.text = other.text := by
  obtain ⟨part, hdb, hcoll⟩ := h
  rw [text, text, hdb, hcoll]
  simp only [String.append_assoc]

/-- If one database begins with the other, either both are the same or the first reaches into the
collection. -/
theorem eq_or_reachesInto {rest : List Char} (hdb : ns.db.toList = other.db.toList ++ rest)
    (hcoll : '.' :: other.coll.toList = rest ++ '.' :: ns.coll.toList) :
    ns = other ∨ ns.ReachesInto other := by
  cases rest with
  | nil =>
    rw [List.append_nil, String.toList_inj] at hdb
    rw [List.nil_append, List.cons_inj_right, String.toList_inj] at hcoll
    exact .inl (ext_names hdb hcoll.symm)
  | cons c part =>
    rw [List.cons_append, List.cons.injEq] at hcoll
    obtain ⟨rfl, hcoll⟩ := hcoll
    refine .inr ⟨String.ofList part, ?_, ?_⟩
    · rw [← String.toList_inj, hdb]
      simp
    · rw [← String.toList_inj, hcoll]
      simp

/-- Two namespaces have one text if a dot can be counted to either of the names. -/
theorem text_eq_iff :
    ns.text = other.text ↔ ns = other ∨ ns.ReachesInto other ∨ other.ReachesInto ns := by
  constructor
  · intro h
    rw [← String.toList_inj, toList_text, toList_text, List.append_eq_append_iff] at h
    rcases h with ⟨rest, hdb, hcoll⟩ | ⟨rest, hdb, hcoll⟩
    · rcases eq_or_reachesInto hdb hcoll with heq | hreach
      · exact .inl heq.symm
      · exact .inr (.inr hreach)
    · rcases eq_or_reachesInto hdb hcoll with heq | hreach
      · exact .inl heq
      · exact .inr (.inl hreach)
  · rintro (rfl | h | h)
    · rfl
    · exact h.text_eq
    · exact h.text_eq.symm

/-- **Telling apart.** A namespace is read back from what it is written as exactly if its database
    has no dot, whatever dots its collection has. If any other namespace is written alike, the
    database of one of them goes on, after a dot, with a part of the collection of the other. So it
    is written in its own way among all namespaces without a dot in their databases. -/
theorem told_apart (h : ofNames db coll = .ok ns) :
    (ofBson? ns.toBson = some ns ↔ '.' ∉ db.toList) ∧
    ∀ other : Namespace,
      (ns.toBson = other.toBson ↔ ns = other ∨ ns.ReachesInto other ∨ other.ReachesInto ns) ∧
      ('.' ∉ db.toList → '.' ∉ other.db.toList → ns ≠ other → ns.toBson ≠ other.toBson) := by
  obtain ⟨rfl, rfl⟩ := ofNames_eq_ok_iff.1 h
  refine ⟨?back, fun other => ⟨?alike, fun hdot hdot' hne heq => ?apart⟩⟩
  case back =>
    show parse? ns.text = some ns ↔ _
    rw [parse?_eq_some_iff, cutAt_text_iff]
  case alike =>
    rw [toBson, toBson, Bson.string.injEq, text_eq_iff]
  case apart =>
    rcases text_eq_iff.1 (Bson.string.inj heq) with h | h | h
    · exact hne h
    · exact hdot h.mem_db
    · exact hdot' h.mem_db

/-- A collection may have dots at any place. -/
theorem told_apart_dottedCollection :
    let views : Namespace := ⟨"db", ".system..views.", by decide, by decide⟩
    let plain : Namespace := ⟨"db", "system.views", by decide, by decide⟩
    ofNames "db" ".system..views." = .ok views ∧ ofBson? views.toBson = some views ∧
      views.toBson ≠ plain.toBson := by
  intro views plain
  have hviews : ofNames "db" ".system..views." = .ok views := rfl
  obtain ⟨hback, hothers⟩ := told_apart hviews
  obtain ⟨-, hapart⟩ := hothers plain
  exact ⟨hviews, hback.2 (by decide), hapart (by decide) (by decide) (by decide)⟩

/-- A database may have a dot too. Then another namespace is read back. -/
theorem told_apart_dottedDatabase :
    ∃ ns other, ofNames "a.b" "c" = .ok ns ∧ ofNames "a" "b.c" = .ok other ∧ ns ≠ other ∧
      ns.toBson = other.toBson ∧ ofBson? ns.toBson = some other :=
  ⟨⟨"a.b", "c", by decide, by decide⟩, ⟨"a", "b.c", by decide, by decide⟩, rfl, rfl, by decide, rfl,
    rfl⟩

end WritePath.Namespace
