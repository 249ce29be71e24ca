import Mathlib.Data.String.Basic
import SealingProxy.Proofs.CachedKeys
import SealingProxy.Proofs.FieldLaws
import SealingProxy.Proofs.MappedKeys
import SealingProxy.Proofs.Utf8
/-! # Keys that are checked at the start

The keys that an engine checks before it serves anything are listed apart from the mapping that finds
the key of a bucket. The list has exactly the keys that some bucket has, although entries override
one another, and it ascends, so that the check ends at the least key that does not work. -/

namespace SealingProxy

/-- The order of texts is that of their octets. -/
theorem utf8_lt_utf8 {s t : String} (h : s < t) : utf8 s < utf8 t :=
  Text.Utf8.encode_lt_encode (String.lt_iff_toList_lt.1 h)

namespace KeyMapping

def ListsOnce (m : KeyMapping) : Prop :=
  (m.perBucket.map (·.1)).Nodup

variable {m : KeyMapping} {keyId : String}

theorem ListsOnce.add (h : m.ListsOnce) (entry : Entry) : (m.add entry).ListsOnce := by
  unfold KeyMapping.add
  split
  · exact h
  · refine List.nodup_cons.2 ⟨fun hmem => ?_, h.sublist (List.filter_sublist.map _)⟩
    obtain ⟨other, hother, hbucket⟩ := List.mem_map.1 hmem
    have hne := (List.mem_filter.1 hother).2
    simp [hbucket] at hne

theorem ListsOnce.addAll (h : m.ListsOnce) (entries : List Entry) :
    (entries.foldl KeyMapping.add m).ListsOnce := by
  induction entries generalizing m with
  | nil => exact h
  | cons entry entries ih => exact ih (h.add entry)

theorem listsOnce_of_parse {raw : String} (h : parse raw = .ok m) : m.ListsOnce := by
  unfold parse at h
  split at h
  · cases h
  · next entries _ =>
    cases h
    exact ListsOnce.addAll (m := {}) List.nodup_nil entries

/-- The listed keys are those that some bucket has. -/
theorem mem_keyIds_iff (h : m.ListsOnce) :
    keyId ∈ m.keyIds ↔ ∃ bucket, m.resolve bucket = some keyId := by
  unfold keyIds resolve
  cases m.everyBucket with
  | some every => simp [eq_comm]
  | none =>
    dsimp only
    rw [List.mem_mergeSort, List.mem_eraseDups, List.mem_map]
    constructor
    · rintro ⟨⟨bucket, _⟩, hentry, rfl⟩
      exact ⟨bucket, (Fields.get?_eq_some_iff h).2 hentry⟩
    · rintro ⟨bucket, hbucket⟩
      exact ⟨(bucket, keyId), Fields.mem_of_get? hbucket, rfl⟩

theorem pairwise_keyIds (m : KeyMapping) : m.keyIds.Pairwise (· ≤ ·) := by
  unfold keyIds
  cases m.everyBucket with
  | some every => exact List.pairwise_singleton ..
  | none =>
    refine List.Pairwise.imp of_decide_eq_true (List.pairwise_mergeSort ?_ ?_ _)
    · intro a b c hab hbc
      exact decide_eq_true (le_trans (of_decide_eq_true hab) (of_decide_eq_true hbc))
    · intro a b
      simpa using le_total a b

end KeyMapping

namespace Engine

/-- The service hands out the key, and what the key seals of the check text it opens again. -/
def PassesCheck (keys : KeyService) (draw : SealDraw) (keyId : String) : Prop :=
  ∃ handle ciphertext, keys.handle keyId = .ok handle ∧
    Envelope.encrypt handle draw checkText = .ok ciphertext ∧
    Envelope.decrypt handle ciphertext = .ok checkText

variable {keys : KeyService} {w : Surroundings} {keyId : String} {ciphers : CipherCache}

theorem checkHandle_eq_ok_iff {handle : KeyHandle} {draw : SealDraw} :
    checkHandle handle draw = .ok () ↔ ∃ ciphertext,
      Envelope.encrypt handle draw checkText = .ok ciphertext ∧
      Envelope.decrypt handle ciphertext = .ok checkText := by
  unfold checkHandle
  cases Envelope.encrypt handle draw checkText with
  | error e => simp
  | ok ciphertext =>
    cases hopen : Envelope.decrypt handle ciphertext with
    | error e => simp [hopen]
    | ok opened =>
      by_cases heq : opened = checkText <;> simp [hopen, heq]

/-- The check of one key succeeds if the key passes, and else names it. -/
theorem checkKey_cases (h : ciphers.Holds keys) (w : Surroundings) (keyId : String) :
    PassesCheck keys (w.draw keyId) keyId ∧ (checkKey keys w keyId ciphers).1 = .ok () ∨
    ¬PassesCheck keys (w.draw keyId) keyId ∧
      ∃ reason, (checkKey keys w keyId ciphers).1 = .error (.keyVerification keyId reason) := by
  unfold checkKey
  split
  · next e after hget =>
    refine .inr ⟨?_, e.message, rfl⟩
    rintro ⟨handle, -, hhandle, -⟩
    have hok : (ciphers.get keys w.now keyId).1 = .ok handle := h.get_eq_ok_iff.2 hhandle
    rw [hget] at hok
    cases hok
  · next handle after hget =>
    have hhandle : keys.handle keyId = .ok handle := h.get_eq_ok_iff.1 (congrArg Prod.fst hget)
    have hpasses : PassesCheck keys (w.draw keyId) keyId ↔
        checkHandle handle (w.draw keyId) = .ok () := by
      rw [checkHandle_eq_ok_iff, PassesCheck]
      simp [hhandle]
    cases hcheck : checkHandle handle (w.draw keyId) with
    | ok _ => exact .inl ⟨hpasses.2 hcheck, rfl⟩
    | error reason => exact .inr ⟨by simp [hpasses, hcheck], reason, rfl⟩

/-- Either all keys pass, or the check ends at the first that does not. -/
theorem checkKeys_cases (h : ciphers.Holds keys) (w : Surroundings) (keyIds : List String) :
    (∀ keyId ∈ keyIds, PassesCheck keys (w.draw keyId) keyId) ∧
      (checkKeys keys w keyIds ciphers).1 = .ok () ∨
    ∃ before keyId after reason, keyIds = before ++ keyId :: after ∧
      (∀ other ∈ before, PassesCheck keys (w.draw other) other) ∧
      ¬PassesCheck keys (w.draw keyId) keyId ∧
      (checkKeys keys w keyIds ciphers).1 = .error (.keyVerification keyId reason) := by
  induction keyIds generalizing ciphers with
  | nil => exact .inl ⟨by simp, rfl⟩
  | cons first keyIds ih =>
    rcases checkKey_cases h w first with ⟨hpasses, hfirst⟩ | ⟨hfails, reason, hfirst⟩
    · have hholds : (checkKey keys w first ciphers).2.Holds keys := by
        rw [checkKey_snd]
        exact h.get w.now first
      have hrest : checkKeys keys w (first :: keyIds) ciphers =
          checkKeys keys w keyIds (checkKey keys w first ciphers).2 := by
        rw [checkKeys]
        split
        · next hc => simp [hc] at hfirst
        · next hc => rw [hc]
      rw [hrest]
      rcases ih hholds with ⟨hall, hok⟩ | ⟨before, keyId, after, reason, rfl, hbefore, hrest⟩
      · exact .inl ⟨List.forall_mem_cons.2 ⟨hpasses, hall⟩, hok⟩
      · exact .inr ⟨first :: before, keyId, after, reason, rfl,
          List.forall_mem_cons.2 ⟨hpasses, hbefore⟩, hrest⟩
    · refine .inr ⟨[], first, keyIds, reason, rfl, by simp, hfails, ?_⟩
      rw [checkKeys]
      split
      · next hc => rw [hc] at hfirst; exact hfirst
      · next hc => simp [hc] at hfirst

theorem create_eq_ok {c : Config} {m : KeyMapping} {idle : Nat}
    (hmapping : KeyMapping.parse c.keyMapping = .ok m) (hspan : c.cacheSpan = .ok idle)
    (keys : KeyService) :
    create c keys = .ok
      ({ classifier := ⟨c.interceptHosts, m.resolve⟩
         context := ⟨m.resolve, keys, c.version⟩
         disabled := c.encryptionDisabled
         keyIds := m.keyIds }, { idle }) := by
  have hparsed : c.mapping = .ok m := by
    rw [Config.mapping, hmapping]
    rfl
  rw [create, hparsed]
  dsimp only
  rw [hspan]

/-- Where encryption is enabled, an engine checks exactly the keys that some bucket has. The check
succeeds only if every one of them works, and else names the least that does not, in the order of
octets. -/
theorem verifyKeys_covers {c : Config} {m : KeyMapping} {idle : Nat}
    (hmapping : KeyMapping.parse c.keyMapping = .ok m) (hspan : c.cacheSpan = .ok idle)
    (henabled : c.encryptionDisabled = false) (keys : KeyService) :
    ∃ e ciphers, create c keys = .ok (e, ciphers) ∧ e.context.resolve = m.resolve ∧
      (∀ keyId, keyId ∈ e.keyIds ↔ keyId ≠ "" ∧ ∃ bucket, m.resolve bucket = some keyId) ∧
      ∀ w : Surroundings,
        ((e.verifyKeys w ciphers).1 = .ok () ↔
          ∀ bucket keyId, m.resolve bucket = some keyId →
            PassesCheck keys (w.draw keyId) keyId) ∧
        ∀ error, (e.verifyKeys w ciphers).1 = .error error →
          ∃ keyId reason, error = .keyVerification keyId reason ∧
            (∃ bucket, m.resolve bucket = some keyId) ∧
            ¬PassesCheck keys (w.draw keyId) keyId ∧
            ∀ bucket other, m.resolve bucket = some other →
              ¬PassesCheck keys (w.draw other) other → other ≠ keyId → utf8 keyId < utf8 other := by
  have hmem {keyId : String} : keyId ∈ m.keyIds ↔ ∃ bucket, m.resolve bucket = some keyId :=
    KeyMapping.mem_keyIds_iff (KeyMapping.listsOnce_of_parse hmapping)
  refine ⟨_, _, create_eq_ok hmapping hspan keys, rfl, fun keyId => ?_, fun w => ?_⟩
  · refine hmem.trans ⟨fun h => ⟨?_, h⟩, fun h => h.2⟩
    obtain ⟨bucket, hbucket⟩ := h
    exact (KeyMapping.namesKeys_of_parse hmapping).resolve_ne hbucket
  · have hholds : CipherCache.Holds keys { idle } := CipherCache.holds_of_entries_eq_nil rfl
    simp only [verifyKeys, henabled, Bool.false_eq_true, if_false]
    rcases checkKeys_cases hholds w m.keyIds with
      ⟨hall, hok⟩ | ⟨before, keyId, after, reason, hsplit, hbefore, hfails, herror⟩
    · rw [hok]
      refine ⟨⟨fun _ bucket keyId hbucket => hall keyId (hmem.2 ⟨bucket, hbucket⟩),
        fun _ => rfl⟩, nofun⟩
    · have hkey : keyId ∈ m.keyIds := by simp [hsplit]
      obtain ⟨bucket, hbucket⟩ := hmem.1 hkey
      rw [herror]
      refine ⟨⟨nofun, fun h => absurd (h bucket keyId hbucket) hfails⟩,
        fun error h => ⟨keyId, reason, (Except.error.inj h).symm, ⟨bucket, hbucket⟩, hfails, ?_⟩⟩
      -- A key that fails is not among those before the first that fails, so it comes after it.
      intro bucket other hother hotherFails hne
      have hafter : other ∈ after := by
        have hlisted : other ∈ m.keyIds := hmem.2 ⟨bucket, hother⟩
        rw [hsplit] at hlisted
        rcases List.mem_append.1 hlisted with hlisted | hlisted
        · exact absurd (hbefore other hlisted) hotherFails
        · exact (List.mem_cons.1 hlisted).resolve_left hne
      have hsorted := m.pairwise_keyIds
      rw [hsplit] at hsorted
      have hle : keyId ≤ other :=
        (List.pairwise_cons.1 (List.pairwise_append.1 hsorted).2.1).1 other hafter
      exact utf8_lt_utf8 (lt_of_le_of_ne hle hne.symm)

def overriddenConfig : Config :=
  { keyMapping := "photos:a, albums:m, logs:c, photos:k" }

def overriddenMapping : KeyMapping :=
  { perBucket := [("photos", "k"), ("logs", "c"), ("albums", "m")] }

def noKeys : KeyService where
  handle _ := .error (.invalidKeyMaterial "offline")

/-- The overridden key is not checked, and of the others the least is named. -/
theorem verifyKeys_covers_overridden :
    KeyMapping.parse overriddenConfig.keyMapping = .ok overriddenMapping ∧
    ∃ e ciphers, create overriddenConfig noKeys = .ok (e, ciphers) ∧ "a" ∉ e.keyIds ∧
      ∀ w, ∃ reason, (e.verifyKeys w ciphers).1 = .error (.keyVerification "c" reason) := by
  have hparse : KeyMapping.parse overriddenConfig.keyMapping = .ok overriddenMapping := by
    decide +kernel
  have hspan : overriddenConfig.cacheSpan = .ok 14400000000000 := by decide +kernel
  have hlisted {bucket keyId : String} (h : overriddenMapping.resolve bucket = some keyId) :
      keyId = "k" ∨ keyId = "c" ∨ keyId = "m" := by
    simpa [overriddenMapping] using List.mem_map_of_mem (f := (·.2)) (Fields.mem_of_get? h)
  have hnone (w : Surroundings) (keyId : String) : ¬PassesCheck noKeys (w.draw keyId) keyId := by
    rintro ⟨handle, -, hhandle, -⟩
    cases hhandle
  obtain ⟨e, ciphers, hcreate, -, hmem, hverify⟩ := verifyKeys_covers hparse hspan rfl noKeys
  refine ⟨hparse, e, ciphers, hcreate, fun h => ?_, fun w => ?_⟩
  · obtain ⟨-, bucket, hbucket⟩ := (hmem "a").1 h
    exact absurd (hlisted hbucket) (by decide)
  · obtain ⟨hok, hleast⟩ := hverify w
    have hlogs : overriddenMapping.resolve "logs" = some "c" := by decide
    cases hresult : (e.verifyKeys w ciphers).1 with
    | ok _ => exact absurd (hok.1 hresult "logs" "c" hlogs) (hnone w "c")
    | error error =>
      obtain ⟨keyId, reason, rfl, ⟨bucket, hbucket⟩, -, hless⟩ := hleast error hresult
      have hc := hless "logs" "c" hlogs (hnone w "c")
      rcases hlisted hbucket with rfl | rfl | rfl
      · exact absurd (hc (by decide)) (by decide +kernel)
      · exact ⟨reason, rfl⟩
      · exact absurd (hc (by decide)) (by decide +kernel)

end Engine
end SealingProxy
