import SealingProxy.Proofs.FieldLaws
import SealingProxy.Proofs.JsonRoundTrip
import SealingProxy.Sidecar
/-! # The sidecar in a resource

A resource with the sidecar is nested as deeply as it may be and holds the numbers it held before.
Read back, it names the key that was written into it. -/

namespace SealingProxy

namespace Json

theorem Fits.lt {n : Nat} {ms : Fields Json} (h : Fits n (.object ms)) : n < 127 := by
  have hd := h.2
  rw [depth] at hd
  omega

theorem Fits.insert {n : Nat} {ms : Fields Json} (h : Fits n (.object ms)) {v : Json}
    (hv : Fits (n + 1) v) (name : String) : Fits n (.object (Fields.insert ms name v)) := by
  refine fits_object h.lt (Fields.nodup_insert h.1.1 name v) fun m hm => ?_
  rcases Fields.mem_insert hm with rfl | hm
  · exact hv
  · exact h.member hm

theorem fits_string {n : Nat} (hn : n ≤ 127) (s : String) : Fits n (.string s) := by
  have hd : depth (.string s) = 0 := by simp [depth]
  exact ⟨trivial, by omega⟩

theorem fits_empty {n : Nat} (hn : n < 127) : Fits n (.object []) :=
  fits_object hn List.nodup_nil fun _ hm => absurd hm List.not_mem_nil

theorem numbers_string (s : String) : (string s).numbers = [] :=
  rfl

theorem mem_numbers_insert {ms : Fields Json} {name : String} {v : Json} {k : JsonNumber}
    (h : k ∈ (object (Fields.insert ms name v)).numbers) :
    k ∈ v.numbers ∨ k ∈ (object ms).numbers := by
  obtain ⟨m, hm, hk⟩ := mem_memberNumbers_iff.1 h
  rcases Fields.mem_insert hm with rfl | hm
  · exact .inl hk
  · exact .inr (mem_memberNumbers_iff.2 ⟨m, hm, hk⟩)

theorem fits_of_strings {ms : Fields Json} (hd : (ms.map (·.1)).Nodup)
    (hs : ∀ m ∈ ms, ∃ s, m.2 = .string s) : Fits 0 (.object ms) := by
  refine fits_object (by decide) hd fun m hm => ?_
  obtain ⟨s, hs⟩ := hs m hm
  rw [hs]
  exact fits_string (by decide) s

theorem not_mem_numbers_of_strings {ms : Fields Json} (hs : ∀ m ∈ ms, ∃ s, m.2 = .string s)
    (k : JsonNumber) : k ∉ (object ms).numbers := by
  intro hk
  obtain ⟨m, hm, hk⟩ := mem_memberNumbers_iff.1 hk
  obtain ⟨s, hs⟩ := hs m hm
  rw [hs, numbers_string] at hk
  exact absurd hk List.not_mem_nil

end Json

namespace Sidecar
open Json

def recordedKey? (r : Resource) : Option String :=
  (Fields.get? (custom r) keyName).bind Json.string?

theorem fits_addTo (s : Sidecar) {n : Nat} {c : Fields Json} (h : Fits n (.object c)) :
    Fits n (.object (s.addTo c)) := by
  unfold addTo
  generalize s.members = ms
  induction ms generalizing c with
  | nil => exact h
  | cons m ms ih => exact ih (h.insert (fits_string h.lt m.2) m.1)

theorem mem_numbers_addTo {s : Sidecar} {c : Fields Json} {k : JsonNumber}
    (h : k ∈ (object (s.addTo c)).numbers) : k ∈ (object c).numbers := by
  unfold addTo at h
  generalize s.members = ms at h
  induction ms generalizing c with
  | nil => exact h
  | cons m ms ih =>
    rcases mem_numbers_insert (ih h) with hk | hk
    · rw [numbers_string] at hk
      exact absurd hk List.not_mem_nil
    · exact hk

theorem nodup_custom {r : Resource} (hr : (Json.object r).HasDistinctNames) :
    ((custom r).map (·.1)).Nodup := by
  unfold custom
  split
  · next c hc =>
    have hmembers := membersHaveDistinctNames_iff.1 hr.2
    exact (hmembers _ (Fields.mem_of_get? hc)).1
  · exact List.nodup_nil

theorem fits_custom {n : Nat} {r : Resource} (hn : n < 126) (h : Fits n (.object r)) :
    Fits (n + 1) (.object (custom r)) := by
  unfold custom
  split
  · next hc => exact h.member (Fields.mem_of_get? hc)
  · exact fits_empty (by omega)

theorem mem_numbers_custom {r : Resource} {k : JsonNumber}
    (h : k ∈ (object (custom r)).numbers) : k ∈ (object r).numbers := by
  unfold custom at h
  split at h
  · next hc => exact mem_memberNumbers_iff.2 ⟨_, Fields.mem_of_get? hc, h⟩
  · exact absurd h List.not_mem_nil

theorem fits_writeInto (s : Sidecar) {r : Resource} (h : Fits 0 (.object r)) :
    Fits 0 (.object (s.writeInto r)) :=
  h.insert (fits_addTo s (fits_custom (by decide) h)) metadataName

theorem mem_numbers_writeInto {s : Sidecar} {r : Resource} {k : JsonNumber}
    (h : k ∈ (object (s.writeInto r)).numbers) : k ∈ (object r).numbers := by
  rcases mem_numbers_insert h with h | h
  · exact mem_numbers_custom (mem_numbers_addTo h)
  · exact h

/-- The custom metadata has every member of the sidecar that was added to it. -/
theorem get?_addTo {s : Sidecar} {m : String × String} (hm : m ∈ s.members) (c : Fields Json) :
    Fields.get? (s.addTo c) m.1 = some (Json.string m.2) := by
  have hd : (s.members.map (·.1)).Nodup := by
    simp only [members, List.map_cons, List.map_nil]
    decide
  exact Fields.get?_foldl_insert_of_mem (g := Json.string) hd hm c

@[simp] theorem custom_writeInto (s : Sidecar) (r : Resource) :
    custom (s.writeInto r) = s.addTo (custom r) := by
  unfold writeInto
  rw [custom, Fields.get?_insert_self]

theorem custom_rereadMembers (r : Resource) :
    custom (rereadMembers r) = rereadMembers (custom r) := by
  unfold custom
  rw [get?_rereadMembers]
  cases Fields.get? r metadataName with
  | none => rfl
  | some v => cases v <;> rfl

/-- A written sidecar names its key, also when it is read back. -/
theorem recordedKey?_writeInto (s : Sidecar) (r : Resource) :
    recordedKey? (rereadMembers (s.writeInto r)) = some s.keyId := by
  have hkey : (keyName, s.keyId) ∈ s.members := by simp [members]
  rw [recordedKey?, custom_rereadMembers, custom_writeInto, get?_rereadMembers, get?_addTo hkey]
  rfl

end Sidecar
end SealingProxy
