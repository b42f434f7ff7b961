import WritePath.Proofs.Cuts
import WritePath.Proofs.Numerals
import WritePath.ServerAddress

namespace WritePath.ServerAddress

open Text

/-!
# Addresses that are accepted

An address is a host, or a host and the numeral of a port behind a colon.

* `Spells` — what a text of this form says.
* `HasFault`, `faultPlace` — what may be wrong with a text, and in which order it is looked for.
* `Outcome`, `outcome_parse` — what becomes of a text, and of what form it is then.
* `parse_eq_ok_iff` — the texts that are accepted are those of this form.
* `parse_eq_error_iff` — any other is refused for the first of its faults.
* `parse_exactly` — both.
-/

variable {s host port : String} {a : ServerAddress} {e e' : InvalidArgument}

/-! ### The form of an address -/

/-- An address has no host: nothing stands before the first colon, or there is nothing at all. -/
def LacksHost (s : String) : Prop :=
  s = "" ∨ ∃ rest, s = ":" ++ rest

/-- In an address, the port stands between the first colon and the next one, or the end. -/
def HasPort (s host port : String) : Prop :=
  ∃ rest, CutAt ':' s host rest ∧
    (rest = port ∧ ':' ∉ rest.toList ∨ ∃ more, CutAt ':' rest port more)

/-- What an address says: a host that is not empty and has no colon, and a port that is not zero. The
host is taken in lower case. -/
inductive Spells : String → ServerAddress → Prop where
  | host {h : String} (hne : h ≠ "") (hcolon : ':' ∉ h.toList) : Spells h ⟨lowercase h, none⟩
  | hostAndPort {h p : String} {n : UInt16} (hne : h ≠ "") (hcolon : ':' ∉ h.toList)
      (hp : Denotes p.toList n.toNat) (hn : 1 ≤ n.toNat) :
      Spells (h ++ ":" ++ p) ⟨lowercase h, some n⟩

/-- What is wrong with an address: it has no host, or the port is no numeral of a 16-bit number, or
it is zero, or there is more than one colon. -/
inductive HasFault (s : String) : InvalidArgument → Prop where
  | missingHost (h : LacksHost s) : HasFault s (.missingHost s)
  | unreadablePort {host port : String} (hport : HasPort s host port)
      (h : ∀ n ≤ 65535, ¬ Denotes port.toList n) : HasFault s (.unreadablePort port)
  | zeroPort {host port : String} (hport : HasPort s host port) (h : Denotes port.toList 0) :
      HasFault s (.zeroPort s)
  | extraColon (h : 2 ≤ s.toList.count ':') : HasFault s (.extraColon s)

/-- The order in which faults are looked for. -/
def faultPlace : InvalidArgument → Nat
  | .missingHost _ => 0
  | .unreadablePort _ => 1
  | .zeroPort _ => 2
  | _ => 3

/-! ### The parts of an address -/

/-- The host and the port are the first two pieces, and there are more if there are more colons. -/
theorem HasPort.splitOn (h : HasPort s host port) :
    ∃ more, s.toList.splitOn ':' = host.toList :: port.toList :: more ∧
      (more = [] ↔ s.toList.count ':' < 2) := by
  obtain ⟨rest, hcut, ⟨rfl, hlast⟩ | ⟨more, hcut'⟩⟩ := h
  · refine ⟨[], ?_, ?_⟩
    · rw [hcut.splitOn, List.splitOn_eq_singleton hlast]
    · rw [hcut.toList_eq, List.count_append, List.count_cons_self,
        List.count_eq_zero_of_not_mem hcut.not_mem, List.count_eq_zero_of_not_mem hlast]
      simp
  · refine ⟨more.toList.splitOn ':', ?_, ?_⟩
    · rw [hcut.splitOn, hcut'.splitOn]
    · rw [hcut.toList_eq, hcut'.toList_eq, List.count_append, List.count_cons_self,
        List.count_append, List.count_cons_self]
      exact iff_of_false (List.splitOn_ne_nil _ _) (by omega)

theorem HasPort.unique {host' port' : String} (h : HasPort s host port)
    (h' : HasPort s host' port') : host = host' ∧ port = port' := by
  obtain ⟨more, hsplit, -⟩ := h.splitOn
  obtain ⟨more', hsplit', -⟩ := h'.splitOn
  have hpieces := hsplit.symm.trans hsplit'
  rw [List.cons.injEq, List.cons.injEq, String.toList_inj, String.toList_inj] at hpieces
  exact ⟨hpieces.1, hpieces.2.1⟩

/-- With a single colon, the port ends the address. -/
theorem HasPort.eq_append (h : HasPort s host port) (hcount : s.toList.count ':' < 2) :
    s = host ++ ":" ++ port ∧ ':' ∉ host.toList := by
  obtain ⟨rest, hcut, ⟨rfl, -⟩ | ⟨more, hcut'⟩⟩ := h
  · refine ⟨?_, hcut.not_mem⟩
    rw [← String.toList_inj, hcut.toList_eq]
    simp
  · rw [hcut.toList_eq, hcut'.toList_eq, List.count_append, List.count_cons_self,
      List.count_append, List.count_cons_self] at hcount
    omega

theorem exists_hasPort (h : ':' ∈ s.toList) : ∃ host port, HasPort s host port := by
  obtain ⟨host, rest, hcut⟩ := exists_cutAt_iff.2 h
  by_cases hrest : ':' ∈ rest.toList
  · obtain ⟨port, more, hcut'⟩ := exists_cutAt_iff.2 hrest
    exact ⟨host, port, rest, hcut, .inr ⟨more, hcut'⟩⟩
  · exact ⟨host, rest, rest, hcut, .inl ⟨rfl, hrest⟩⟩

theorem cutAt_of_colon_first (rest : String) : CutAt ':' (":" ++ rest) "" rest :=
  ⟨by simp, by simp⟩

/-- An address with a port lacks a host if the host is empty. -/
theorem HasPort.lacksHost_iff (h : HasPort s host port) : LacksHost s ↔ host = "" := by
  obtain ⟨rest, hcut, -⟩ := h
  constructor
  · rintro (rfl | ⟨rest', rfl⟩)
    · have hcolon : ':' ∈ "".toList := exists_cutAt_iff.1 ⟨host, rest, hcut⟩
      exact absurd hcolon (by decide)
    · exact (hcut.unique (cutAt_of_colon_first rest')).1
  · rintro rfl
    refine .inr ⟨rest, ?_⟩
    rw [← String.toList_inj, hcut.toList_eq]
    simp

/-! ### Reading -/

theorem toList_ne_nil (h : s ≠ "") : s.toList ≠ [] := by
  rwa [Ne, String.toList_eq_nil_iff]

theorem parse_of_lacksHost (h : LacksHost s) : parse s = .error (.missingHost s) := by
  rcases h with rfl | ⟨rest, rfl⟩
  · rfl
  · rw [parse, (cutAt_of_colon_first rest).splitOn]
    rfl

theorem parse_of_not_mem (hne : s ≠ "") (h : ':' ∉ s.toList) :
    parse s = .ok ⟨lowercase s, none⟩ := by
  rw [parse, List.splitOn_eq_singleton h]
  show (if s.toList = [] then _ else _) = _
  rw [if_neg (toList_ne_nil hne), String.ofList_toList]

theorem parse_of_unreadable (hport : HasPort s host port) (hne : host ≠ "")
    (h : Numeral.readUInt16? port.toList = none) : parse s = .error (.unreadablePort port) := by
  obtain ⟨more, hsplit, -⟩ := hport.splitOn
  simp only [parse, hsplit, if_neg (toList_ne_nil hne), h, String.ofList_toList]

theorem parse_of_readable (hport : HasPort s host port) (hne : host ≠ "") {n : UInt16}
    (h : Numeral.readUInt16? port.toList = some n) :
    parse s = if n = 0 then .error (.zeroPort s)
      else if s.toList.count ':' < 2 then .ok ⟨lowercase host, some n⟩
      else .error (.extraColon s) := by
  obtain ⟨more, hsplit, hmore⟩ := hport.splitOn
  simp only [parse, hsplit, if_neg (toList_ne_nil hne), h, String.ofList_toList, ← hmore, ite_not]

/-- What becomes of an address, and of what form it is then. -/
inductive Outcome (s : String) : Except InvalidArgument ServerAddress → Prop where
  | missingHost (h : LacksHost s) : Outcome s (.error (.missingHost s))
  | host (hhost : ¬ LacksHost s) (hcolon : ':' ∉ s.toList) : Outcome s (.ok ⟨lowercase s, none⟩)
  | unreadablePort {host port : String} (hne : host ≠ "") (hport : HasPort s host port)
      (h : ∀ n ≤ 65535, ¬ Denotes port.toList n) : Outcome s (.error (.unreadablePort port))
  | zeroPort {host port : String} (hne : host ≠ "") (hport : HasPort s host port)
      (h : Denotes port.toList 0) : Outcome s (.error (.zeroPort s))
  | extraColon {host port : String} {n : UInt16} (hne : host ≠ "") (hport : HasPort s host port)
      (hn : Denotes port.toList n.toNat) (hpos : 1 ≤ n.toNat) (h : 2 ≤ s.toList.count ':') :
      Outcome s (.error (.extraColon s))
  | hostAndPort {host port : String} {n : UInt16} (hne : host ≠ "") (hport : HasPort s host port)
      (hn : Denotes port.toList n.toNat) (hpos : 1 ≤ n.toNat) (h : s.toList.count ':' < 2) :
      Outcome s (.ok ⟨lowercase host, some n⟩)

theorem one_le_toNat {n : UInt16} (h : n ≠ 0) : 1 ≤ n.toNat := by
  rw [Nat.one_le_iff_ne_zero, Ne, ← UInt16.toNat_zero, UInt16.toNat_inj]
  exact h

theorem outcome_parse (s : String) : Outcome s (parse s) := by
  by_cases hlacks : LacksHost s
  · rw [parse_of_lacksHost hlacks]
    exact .missingHost hlacks
  by_cases hcolon : ':' ∈ s.toList
  · obtain ⟨host, port, hport⟩ := exists_hasPort hcolon
    have hne : host ≠ "" := by rwa [Ne, ← hport.lacksHost_iff]
    cases hread : Numeral.readUInt16? port.toList with
    | none =>
      rw [parse_of_unreadable hport hne hread]
      exact .unreadablePort hne hport (Numeral.readUInt16?_eq_none_iff.1 hread)
    | some n =>
      have hn := Numeral.readUInt16?_eq_some_iff.1 hread
      rw [parse_of_readable hport hne hread]
      split
      · next hzero =>
        subst hzero
        exact .zeroPort hne hport hn
      · next hzero =>
        split
        · next hcount => exact .hostAndPort hne hport hn (one_le_toNat hzero) hcount
        · next hcount => exact .extraColon hne hport hn (one_le_toNat hzero) (by omega)
  · rw [parse_of_not_mem (fun hempty => hlacks (.inl hempty)) hcolon]
    exact .host hlacks hcolon

/-! ### What is accepted -/

/-- No digit is a colon, nor is the plus sign. -/
theorem not_mem_of_denotes {text : List Char} {n : Nat} (h : Denotes text n) : ':' ∉ text := by
  obtain ⟨digits, hsign, -, hdigits, -⟩ := h
  have hcolon : ':' ∉ digits := fun hmem => absurd (hdigits ':' hmem) (by decide)
  rcases hsign with rfl | rfl
  · exact hcolon
  · simpa using hcolon

theorem hasPort_append {h p : String} (hcolon : ':' ∉ h.toList) (hp : ':' ∉ p.toList) :
    HasPort (h ++ ":" ++ p) h p :=
  ⟨p, ⟨by simp, hcolon⟩, .inl ⟨rfl, hp⟩⟩

/-- The addresses that are accepted are those of the given form. -/
theorem parse_eq_ok_iff : parse s = .ok a ↔ Spells s a := by
  constructor
  · intro h
    have houtcome := outcome_parse s
    rw [h] at houtcome
    cases houtcome with
    | host hhost hcolon => exact .host (fun hempty => hhost (.inl hempty)) hcolon
    | hostAndPort hne hport hn hpos hcount =>
      obtain ⟨hs, hcolon⟩ := hport.eq_append hcount
      rw [hs]
      exact .hostAndPort hne hcolon hn hpos
  · intro h
    cases h with
    | host hne hcolon => exact parse_of_not_mem hne hcolon
    | @hostAndPort h p n hne hcolon hp hn =>
      have hcolon' := not_mem_of_denotes hp
      have hzero : n ≠ 0 := by
        rintro rfl
        cases hn
      have hcount : (h ++ ":" ++ p).toList.count ':' < 2 := by
        simp [List.count_eq_zero_of_not_mem hcolon, List.count_eq_zero_of_not_mem hcolon']
      rw [parse_of_readable (hasPort_append hcolon hcolon') hne
        (Numeral.readUInt16?_eq_some_iff.2 hp), if_neg hzero, if_pos hcount]

/-! ### What is refused -/

/-- Without a colon, only the host can be missing. -/
theorem not_hasFault_of_not_mem (hhost : ¬ LacksHost s) (hcolon : ':' ∉ s.toList) :
    ¬ HasFault s e := by
  have hport : ∀ host port, ¬ HasPort s host port := by
    rintro host port ⟨rest, hcut, -⟩
    exact hcolon (exists_cutAt_iff.1 ⟨host, rest, hcut⟩)
  rintro (h | ⟨h, -⟩ | ⟨h, -⟩ | h)
  · exact hhost h
  · exact hport _ _ h
  · exact hport _ _ h
  · rw [List.count_eq_zero_of_not_mem hcolon] at h
    omega

/-- With a host and a port, what is wrong is one of the other faults. -/
theorem hasFault_iff_of_hasPort (hport : HasPort s host port) (hne : host ≠ "") :
    HasFault s e ↔
      (e = .unreadablePort port ∧ ∀ n ≤ 65535, ¬ Denotes port.toList n) ∨
      (e = .zeroPort s ∧ Denotes port.toList 0) ∨
      (e = .extraColon s ∧ 2 ≤ s.toList.count ':') := by
  constructor
  · rintro (h | ⟨hport', h⟩ | ⟨hport', h⟩ | h)
    · exact absurd (hport.lacksHost_iff.1 h) hne
    · obtain ⟨-, rfl⟩ := hport.unique hport'
      exact .inl ⟨rfl, h⟩
    · obtain ⟨-, rfl⟩ := hport.unique hport'
      exact .inr (.inl ⟨rfl, h⟩)
    · exact .inr (.inr ⟨rfl, h⟩)
  · rintro (⟨rfl, h⟩ | ⟨rfl, h⟩ | ⟨rfl, h⟩)
    · exact .unreadablePort hport h
    · exact .zeroPort hport h
    · exact .extraColon h

/-- No two faults of one address have the same place. -/
theorem HasFault.unique (h : HasFault s e) (h' : HasFault s e')
    (hplace : faultPlace e = faultPlace e') : e = e' := by
  cases h with
  | missingHost =>
    cases h' with
    | missingHost => rfl
    | _ => cases hplace
  | unreadablePort hport =>
    cases h' with
    | unreadablePort hport' => rw [(hport.unique hport').2]
    | _ => cases hplace
  | zeroPort =>
    cases h' with
    | zeroPort => rfl
    | _ => cases hplace
  | extraColon =>
    cases h' with
    | extraColon => rfl
    | _ => cases hplace

/-- What is accepted has no fault. -/
theorem not_hasFault_of_parse (h : parse s = .ok a) : ¬ HasFault s e := by
  have houtcome := outcome_parse s
  rw [h] at houtcome
  cases houtcome with
  | host hhost hcolon => exact not_hasFault_of_not_mem hhost hcolon
  | @hostAndPort host port n hne hport hn hpos hcount =>
    rw [hasFault_iff_of_hasPort hport hne]
    rintro (⟨-, hnone⟩ | ⟨-, hzero⟩ | ⟨-, hmore⟩)
    · exact hnone n.toNat (Nat.le_of_lt_succ n.toNat_lt) hn
    · have heq := hn.unique hzero
      omega
    · omega

/-- What is refused has a fault, and it is refused for the first one. -/
theorem hasFault_of_parse (h : parse s = .error e) :
    HasFault s e ∧ ∀ e', HasFault s e' → faultPlace e ≤ faultPlace e' := by
  have houtcome := outcome_parse s
  rw [h] at houtcome
  -- Reading went past the checks before the one that failed, which excludes the earlier faults.
  cases houtcome with
  | missingHost hhost => exact ⟨.missingHost hhost, fun e' _ => Nat.zero_le _⟩
  | unreadablePort hne hport hnone =>
    refine ⟨.unreadablePort hport hnone, fun e' he' => ?_⟩
    rw [hasFault_iff_of_hasPort hport hne] at he'
    rcases he' with ⟨rfl, -⟩ | ⟨rfl, -⟩ | ⟨rfl, -⟩ <;> simp [faultPlace]
  | zeroPort hne hport hzero =>
    refine ⟨.zeroPort hport hzero, fun e' he' => ?_⟩
    rw [hasFault_iff_of_hasPort hport hne] at he'
    rcases he' with ⟨-, hnone⟩ | ⟨rfl, -⟩ | ⟨rfl, -⟩
    · exact absurd hzero (hnone 0 (by decide))
    · exact Nat.le_refl _
    · simp [faultPlace]
  | @extraColon host port n hne hport hn hpos hcount =>
    refine ⟨.extraColon hcount, fun e' he' => ?_⟩
    rw [hasFault_iff_of_hasPort hport hne] at he'
    rcases he' with ⟨-, hnone⟩ | ⟨-, hzero⟩ | ⟨rfl, -⟩
    · exact absurd hn (hnone n.toNat (Nat.le_of_lt_succ n.toNat_lt))
    · have heq := hn.unique hzero
      omega
    · exact Nat.le_refl _

/-- An address is refused for the first of its faults, and for nothing else. -/
theorem parse_eq_error_iff :
    parse s = .error e ↔ HasFault s e ∧ ∀ e', HasFault s e' → faultPlace e ≤ faultPlace e' := by
  constructor
  · exact hasFault_of_parse
  · rintro ⟨hfault, hfirst⟩
    cases hs : parse s with
    | ok a => exact absurd hfault (not_hasFault_of_parse hs)
    | error e₀ =>
      -- Both come first among the faults, so they have one place.
      obtain ⟨hfault₀, hfirst₀⟩ := hasFault_of_parse hs
      have hplace : faultPlace e₀ = faultPlace e :=
        Nat.le_antisymm (hfirst₀ e hfault) (hfirst e₀ hfault₀)
      rw [hfault₀.unique hfault hplace]

/-- **Addresses.** A text is accepted as an address if it is a host without colons, or such a host, a
    colon and the numeral of a number from 1 to 65535, and then it is this host in lower case and
    this port. Any other text has a fault and is refused for the first of them: that it has no host,
    that the port is no numeral of such a number, that it is zero, that there is a second colon. -/
theorem parse_exactly (s : String) :
    (∀ a, parse s = .ok a ↔ Spells s a) ∧
    ∀ e, parse s = .error e ↔
      HasFault s e ∧ ∀ e', HasFault s e' → faultPlace e ≤ faultPlace e' :=
  ⟨fun _ => parse_eq_ok_iff, fun _ => parse_eq_error_iff⟩

/-- Two faults: the port is zero, and there is a second colon. -/
example : parse "host:00:1" = .error (.zeroPort "host:00:1") := by
  decide

end WritePath.ServerAddress
