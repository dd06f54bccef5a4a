import SdioWlan.Proofs.Scan.Beacon
import SdioWlan.ScanReport

namespace SdioWlan

namespace Bss

/-- A network of WPA2 is one whose RSN element was kept. -/
theorem isSome_rsn_of_parse {raw : Bytes} {b : Bss} (h : parse raw = .ok b)
    (hs : b.security = .wpa2) : b.rsn.isSome := by
  obtain ⟨d, -, rfl⟩ := parse_eq_ok_iff.mp h
  exact List.getLast?_isSome.mpr (Security.payloads_ne_nil_of_ofElements hs)

/-- A network keeps no more vendor elements than there are places for. -/
theorem length_vendor_of_parse {raw : Bytes} {b : Bss} (h : parse raw = .ok b) :
    b.vendor.length ≤ maxVendor := by
  obtain ⟨d, -, rfl⟩ := parse_eq_ok_iff.mp h
  exact List.length_take_le _ _

end Bss

namespace ScanReport

theorem exists_parse_of_split {sets rest : Bytes} {b : Bss} (h : split sets = .ok (b, rest)) :
    ∃ raw, Bss.parse raw = .ok b := by
  unfold split at h
  split at h
  · rename_i n₀ n₁ tail
    dsimp only at h
    split at h
    · cases hp : Bss.parse (tail.take (ofLe16 n₀ n₁).toNat) with
      | error e =>
        rw [hp] at h
        cases h
      | ok b' =>
        rw [hp] at h
        cases h
        exact ⟨_, hp⟩
    · cases h
  · cases h

theorem exists_parse_of_mem_walk {n : Nat} {sets : Bytes} {b : Bss} (h : b ∈ (walk n sets).1) :
    ∃ raw, Bss.parse raw = .ok b := by
  induction n generalizing sets with
  | zero => cases h
  | succ n ih =>
    rw [walk] at h
    cases hs : split sets with
    | error e =>
      rw [hs] at h
      cases h
    | ok r =>
      obtain ⟨b', rest⟩ := r
      rw [hs] at h
      rcases List.mem_cons.mp h with rfl | h
      · exact exists_parse_of_split hs
      · exact ih h

theorem isSome_rsn_of_mem {r : ScanReport} {b : Bss} (h : b ∈ r.networks)
    (hs : b.security = .wpa2) : b.rsn.isSome := by
  obtain ⟨raw, hp⟩ := exists_parse_of_mem_walk h
  exact Bss.isSome_rsn_of_parse hp hs

theorem length_vendor_of_mem_walk {n : Nat} {sets : Bytes} {b : Bss} (h : b ∈ (walk n sets).1) :
    b.vendor.length ≤ Bss.maxVendor := by
  obtain ⟨raw, hp⟩ := exists_parse_of_mem_walk h
  exact Bss.length_vendor_of_parse hp

theorem length_sets_of_parse {body : Bytes} {r : ScanReport} (h : parse body = .ok r) :
    r.sets.length ≤ body.length := by
  unfold parse at h
  split at h
  · cases h
    simp only [List.length_cons]
    omega
  · cases h

end ScanReport

end SdioWlan
