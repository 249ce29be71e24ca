import SealingProxy.Proofs.PlaintextViews
import SealingProxy.Proofs.SealedMultiparts
/-! # Facts recorded in a resource

The sidecar is written into any resource, whatever custom metadata that has, and the facts of the
plaintext are read back from it. Showing facts replaces those of the sealed object and leaves every
other field alone, in whatever order the fields are. Both edits stop at a resource that has what they
put there, and so making one of them twice is making it once. -/

namespace SealingProxy

namespace Sidecar

/-- The resources that writing the sidecar leaves alone are those that carry it. -/
theorem writeInto_eq_self_iff {s : Sidecar} {r : Resource} : s.writeInto r = r ↔ s.IsIn r := by
  constructor
  · intro h
    rw [← h]
    exact s.isIn_writeInto r
  · intro h
    obtain ⟨c, hc, hcustom⟩ := exists_object_of_custom (h _ List.mem_cons_self)
    have hadd : s.addTo c = c := Fields.foldl_insert_eq_self (hcustom ▸ h)
    rw [writeInto, hcustom, hadd, Fields.insert_eq_self hc]

theorem writeInto_writeInto (s : Sidecar) (r : Resource) :
    s.writeInto (s.writeInto r) = s.writeInto r :=
  writeInto_eq_self_iff.2 (s.isIn_writeInto r)

end Sidecar

namespace PlaintextFacts

variable {f : PlaintextFacts} {r stored shown reordered : Resource}

theorem ShownIn.applyTo_eq_self (h : f.ShownIn stored shown) : f.applyTo shown = shown := by
  rw [applyTo, Fields.insert_eq_self h.size, Fields.insert_eq_self h.md5,
    Fields.swapErase_eq_self h.checksum]

theorem applyTo_applyTo (f : PlaintextFacts) (hd : (r.map (·.1)).Nodup) :
    f.applyTo (f.applyTo r) = f.applyTo r :=
  (f.shownIn_applyTo hd).applyTo_eq_self

/-- What is shown of a resource does not hang on the order of its fields. -/
theorem ShownIn.of_perm (h : f.ShownIn reordered shown) (hd : (stored.map (·.1)).Nodup)
    (hp : reordered.Perm stored) : f.ShownIn stored shown :=
  { h with rest := fun name hname => (h.rest name hname).trans (Fields.get?_eq_of_perm hd hp name) }

end PlaintextFacts

/-- A resource gives back the facts that were recorded in it and shows the facts it is given. Neither
edit changes more than that, or changes anything the second time. -/
theorem Resource.records_and_shows_facts {r : Resource} (hr : (Json.object r).HasDistinctNames) :
    (∀ (content : Bytes) (keyId version : String), content.length < UInt64.size →
      PlaintextFacts.ofResource? ((Sidecar.ofPlaintext content keyId version).writeInto r) =
        some ⟨content.length, contentMd5 content⟩) ∧
    (∀ s : Sidecar, s.IsWrittenInto r (s.writeInto r) ∧
      s.writeInto (s.writeInto r) = s.writeInto r) ∧
    ∀ (f : PlaintextFacts) (reordered : Resource), reordered.Perm r →
      f.ShownIn r (f.applyTo reordered) ∧
        f.applyTo (f.applyTo reordered) = f.applyTo reordered := by
  refine ⟨fun content keyId version hlength => ?_, fun s => ?_, fun f reordered hp => ?_⟩
  · exact PlaintextFacts.ofResource?_of_isIn hlength (Sidecar.isIn_writeInto _ r)
  · exact ⟨s.isWrittenInto_writeInto hr, s.writeInto_writeInto r⟩
  · have hreordered : (reordered.map (·.1)).Nodup := (hp.map _).nodup_iff.2 hr.1
    have hshown := f.shownIn_applyTo hreordered
    exact ⟨hshown.of_perm hr.1 hp, f.applyTo_applyTo hreordered⟩

/-- The resource of an object whose client has set two fields of the sidecar itself. -/
def taggedCat : Resource :=
  [("crc32c", .string "yZRlqg=="),
    ("metadata", .object [("x-md5Hash", .null), ("owner", .string "ops"),
      ("x-unencrypted-content-length", .string "-1")]),
    ("name", .string "cat.jpg"), ("size", .string "96")]

theorem Resource.records_and_shows_facts_tagged :
    (Json.object taggedCat).HasDistinctNames ∧ (utf8 "meow").length < UInt64.size ∧
      taggedCat.reverse.Perm taggedCat ∧
      PlaintextFacts.ofResource? ((Sidecar.ofPlaintext (utf8 "meow") "k" "1").writeInto taggedCat) =
        some ⟨4, contentMd5 (utf8 "meow")⟩ ∧
      (PlaintextFacts.mk 4 "SkvkDJasYxTpHZPzgEOmNA==").ShownIn taggedCat
        ((PlaintextFacts.mk 4 "SkvkDJasYxTpHZPzgEOmNA==").applyTo taggedCat.reverse) := by
  have hr : (Json.object taggedCat).HasDistinctNames := by
    simp [taggedCat, Json.HasDistinctNames, Json.MembersHaveDistinctNames]
  have hlength : (utf8 "meow").length < UInt64.size := by decide
  have hp : taggedCat.reverse.Perm taggedCat := List.reverse_perm taggedCat
  obtain ⟨hrecorded, -, hshown⟩ := Resource.records_and_shows_facts hr
  exact ⟨hr, hlength, hp, hrecorded (utf8 "meow") "k" "1" hlength, (hshown _ _ hp).1⟩

end SealingProxy
