import WritePath.Proofs.Addresses
import WritePath.Proofs.LowerCase

namespace WritePath.ServerAddress

open Text

/-!
# Servers that are told apart

An address that was read has its host in lower case already. So its text, which always has a port,
is read as the same server, and the text, the identity and the comparison tell servers apart alike.

* `IsNormal`, `isNormal_of_parse` — the form of an address that was read.
* `parse_text` — its text is read back with the port spelled out.
* `text_eq_iff`, `identity_eq_iff`, `sameServer_iff` — what two addresses have in common if they have
  the same text, the same identity, or mean the same server.
* `told_by_text` — all of this.
-/

variable {s t : String} {a b : ServerAddress}

/-! ### Addresses that were read -/

/-- The form of an address that was read: the host is not empty, has no colon and is in lower case,
and the port is not zero. -/
structure IsNormal (a : ServerAddress) : Prop where
  host_ne : a.host ≠ ""
  colon : ':' ∉ a.host.toList
  lower : lowercase a.host = a.host
  port : 1 ≤ a.effectivePort.toNat

/-- A host in lower case has all that is asked of it. -/
theorem isNormal_lowercase {h : String} {port : Option UInt16} (hne : h ≠ "")
    (hcolon : ':' ∉ h.toList) (hport : 1 ≤ (port.getD defaultPort).toNat) :
    IsNormal ⟨lowercase h, port⟩ where
  host_ne := fun hempty => hne (lowercase_eq_empty_iff.1 hempty)
  colon := fun hmem => hcolon (colon_mem_lowercase_iff.1 hmem)
  lower := lowercase_lowercase h
  port := hport

theorem isNormal_of_parse (h : parse s = .ok a) : a.IsNormal := by
  cases parse_eq_ok_iff.1 h with
  | host hne hcolon => exact isNormal_lowercase hne hcolon (by decide)
  | hostAndPort hne hcolon _ hn => exact isNormal_lowercase hne hcolon hn

/-! ### Their texts -/

/-- The host ends at the only colon. -/
theorem cutAt_text (ha : a.IsNormal) : CutAt ':' a.text a.host (toString a.effectivePort.toNat) :=
  ⟨by simp [text], ha.colon⟩

/-- The text of an address is read as the same host and port. -/
theorem parse_text (ha : a.IsNormal) : parse a.text = .ok ⟨a.host, some a.effectivePort⟩ := by
  have hspells : Spells a.text ⟨lowercase a.host, some a.effectivePort⟩ :=
    .hostAndPort ha.host_ne ha.colon (denotes_toString _) ha.port
  rw [ha.lower] at hspells
  exact parse_eq_ok_iff.2 hspells

theorem ofBson?_toBson (a : ServerAddress) : ofBson? a.toBson = (parse a.text).toOption :=
  rfl

/-- Two addresses have the same text if they have the same host and port. -/
theorem text_eq_iff (ha : a.IsNormal) (hb : b.IsNormal) :
    a.text = b.text ↔ a.host = b.host ∧ a.effectivePort = b.effectivePort := by
  constructor
  · intro h
    have hcut := cutAt_text hb
    rw [← h] at hcut
    obtain ⟨hhost, hport⟩ := (cutAt_text ha).unique hcut
    have hdenotes := denotes_toString a.effectivePort.toNat
    rw [hport] at hdenotes
    exact ⟨hhost, UInt16.toNat_inj.1 (hdenotes.unique (denotes_toString _))⟩
  · rintro ⟨hhost, hport⟩
    rw [text, text, hhost, hport]

/-! ### Telling servers apart -/

theorem identity_eq_iff :
    a.identity = b.identity ↔ a.host = b.host ∧ a.effectivePort = b.effectivePort :=
  Prod.mk_inj

theorem sameServer_iff :
    a.sameServer b = true ↔ a.host = b.host ∧ a.effectivePort = b.effectivePort :=
  sameServer_iff_identity_eq.trans identity_eq_iff

/-- **Servers.** An address that was read is told by its text, be it as such or as a value: this is
    read as an address that means the same server, with the same host and the port spelled out. Two
    addresses that were read mean the same server if they have the same text, and if they have the
    same identity: in each case they agree in their hosts and their ports, of which one that is not
    given counts as 27017. -/
theorem told_by_text (ha : parse s = .ok a) (hb : parse t = .ok b) :
    (∃ a', parse a.text = .ok a' ∧ ofBson? a.toBson = some a' ∧ a'.sameServer a = true ∧
      a'.host = a.host ∧ a'.portNumber = some (a.portNumber.getD 27017)) ∧
    (a.sameServer b = true ↔ a.host = b.host ∧ a.portNumber.getD 27017 = b.portNumber.getD 27017) ∧
    (a.sameServer b = true ↔ a.text = b.text) ∧ (a.text = b.text ↔ a.identity = b.identity) := by
  have hread := parse_text (isNormal_of_parse ha)
  have htext := text_eq_iff (isNormal_of_parse ha) (isNormal_of_parse hb)
  refine ⟨⟨_, hread, ?value, ?same, rfl, rfl⟩, sameServer_iff, sameServer_iff.trans htext.symm,
    htext.trans identity_eq_iff.symm⟩
  case value =>
    rw [ofBson?_toBson, hread]
    rfl
  case same => exact sameServer_iff.2 ⟨rfl, rfl⟩

/-- One server has two addresses. In the first it is in capital letters, of which the last takes the
    form that stands at the end of a word, and has no port. -/
theorem told_by_text_twice :
    let a : ServerAddress := ⟨"άλφας", none⟩
    let b : ServerAddress := ⟨"άλφας", some 27017⟩
    (parse "ΆΛΦΑΣ" = .ok a ∧ parse "άλφας:+027017" = .ok b) ∧
    a.text = "άλφας:27017" ∧ a.text = b.text ∧ a.identity = b.identity ∧ a ≠ b ∧
      ∃ a', parse a.text = .ok a' ∧ a'.portNumber = some 27017 := by
  intro a b
  have ha : parse "ΆΛΦΑΣ" = .ok a := by decide +kernel
  have hb : parse "άλφας:+027017" = .ok b := by decide +kernel
  obtain ⟨⟨a', hread, -, -, -, hport⟩, hsame, hsame', hidentity⟩ := told_by_text ha hb
  have htext : a.text = b.text := hsame'.1 (hsame.2 ⟨rfl, rfl⟩)
  exact ⟨⟨ha, hb⟩, by decide, htext, hidentity.1 htext, by decide, a', hread, hport⟩

end WritePath.ServerAddress
