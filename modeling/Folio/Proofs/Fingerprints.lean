-- Fingerprints of pages. Two pages of one query have different texts; so as far as the digest tells
-- these texts apart, a page is never given out for another.
import Folio.Proofs.PageTexts
import Mathlib.Data.List.Nodup

namespace Folio.Cache

/-- Different pages of one query have different texts. -/
theorem pageBytes_injective {connection collection : Option String} {c : QueryConfig}
    {pageSize page other : Int} (h : pageBytes connection collection c page pageSize =
      pageBytes connection collection c other pageSize) : page = other := by
  rw [pageBytes_eq_iff_inOrder, shape_inOrder_iff] at h
  exact h.2.2.1

/-- The digest tells apart the texts of the pages of a query, up to a last page. -/
def TellsApart (connection collection : Option String) (c : QueryConfig) (pageSize last : Int) :
    Prop :=
  ∀ page other, 1 ≤ page → page ≤ last → 1 ≤ other → other ≤ last →
    Digest.sha256 (pageBytes connection collection c page pageSize) =
      Digest.sha256 (pageBytes connection collection c other pageSize) →
    pageBytes connection collection c page pageSize =
      pageBytes connection collection c other pageSize

/-- Pages whose texts are told apart have fingerprints of their own. -/
theorem TellsApart.page_eq {connection collection : Option String} {c : QueryConfig}
    {pageSize last page other : Int} (h : TellsApart connection collection c pageSize last)
    (hpage : 1 ≤ page) (hlast : page ≤ last) (hother : 1 ≤ other) (hlast' : other ≤ last)
    (heq : fingerprint connection collection c page pageSize =
      fingerprint connection collection c other pageSize) : page = other :=
  pageBytes_injective (h page other hpage hlast hother hlast' heq)

/-- The digest of one of the first pages, character by character. -/
def pageDigest (connection collection : Option String) (c : QueryConfig) (pageSize : Int)
    (k : Nat) : List Char :=
  Digest.hexDigest (pageBytes connection collection c (k + 1) pageSize)

/-- Pages with different digests are told apart. -/
theorem tellsApart_of_nodup {connection collection : Option String} {c : QueryConfig}
    {pageSize : Int} {last : Nat}
    (h : ((List.range last).map (pageDigest connection collection c pageSize)).Nodup) :
    TellsApart connection collection c pageSize last := by
  intro page other hpage hlast hother hlast' heq
  obtain ⟨k, rfl⟩ : ∃ k : Nat, page = k + 1 := ⟨(page - 1).toNat, by omega⟩
  obtain ⟨m, rfl⟩ : ∃ m : Nat, other = m + 1 := ⟨(other - 1).toNat, by omega⟩
  have hhex := String.ofList_injective heq
  have hsame : k = m := List.inj_on_of_nodup_map h (List.mem_range.mpr (by omega))
    (List.mem_range.mpr (by omega)) hhex
  rw [hsame]

end Folio.Cache
