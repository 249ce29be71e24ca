import SealingProxy.Proofs.InstantTexts
import SealingProxy.Proofs.SidecarLaws
import SealingProxy.Session.Record
/-! # Records read back

A record is read as the session that it was written for, up to how its instant reads. An instant in
the years that are covered reads as itself. -/

namespace SealingProxy.Session

open Json

theorem readRepeated?_of_strings {ms : Fields Json} (hd : (ms.map (·.1)).Nodup)
    (hs : ∀ m ∈ ms, ∃ s, m.2 = .string s) :
    Json.readRepeated? (Json.object ms).write = some (.object ms) := by
  have hfits := fits_of_strings hd hs
  have hn (n : JsonNumber) (h : n ∈ (Json.object ms).numbers) : False :=
    not_mem_numbers_of_strings hs n h
  rw [readRepeated?_write (fun n h => (hn n h).elim) hfits.1 hfits.2,
    reread_of_hasWholeNumbers _ fun n h => (hn n h).elim]

theorem ofJson?_toJson (s : Session) :
    ofJson? s.toJson = (Instant.read? s.createdAt.text).map fun t => { s with createdAt := t } := by
  obtain ⟨bucket, objectName, contentType, createdAt⟩ := s
  cases contentType <;> cases h : Instant.read? createdAt.text <;>
    simp [ofJson?, toJson, isSingle, names, Fields.get?, ofValues?, optional?, Json.string?, h]

theorem read?_write (s : Session) :
    read? s.write = (Instant.read? s.createdAt.text).map fun t => { s with createdAt := t } := by
  have hread : Json.readRepeated? s.write = some s.toJson := by
    obtain ⟨bucket, objectName, contentType, createdAt⟩ := s
    cases contentType <;> exact readRepeated?_of_strings (by simp) (by simp)
  rw [read?, hread]
  exact ofJson?_toJson s

theorem read?_write_of_isValid {s : Session} (h : s.createdAt.IsValid) :
    read? s.write = some s := by
  rw [read?_write, Instant.read?_text h]
  rfl

end SealingProxy.Session
