import SealingProxy.Text.Utf8
/-! # Reading what was written in UTF-8

A written character reads back as itself, whatever octets follow it, and a character that is read is
the one that the octets write. So both readers give a written text back, and writing is one-to-one. It
keeps the order of texts. -/

namespace SealingProxy.Text.Utf8

/-- One octet that continues a character, with the six bits `d`. -/
private theorem follow_cons (bits n : Nat) {d : Nat} (hd : d < 64) {low high : UInt8}
    (hl : low.toNat ≤ d + 0x80) (hh : d + 0x80 ≤ high.toNat) (s : Bytes) :
    follow bits (n + 1) low high (UInt8.ofNat (d + 0x80) :: s) =
      follow (bits * 64 + d) n 0x80 0xBF s := by
  have hb : (UInt8.ofNat (d + 0x80)).toNat = d + 0x80 := by
    rw [UInt8.toNat_ofNat']
    omega
  have hle : low ≤ UInt8.ofNat (d + 0x80) ∧ UInt8.ofNat (d + 0x80) ≤ high := by
    rw [UInt8.le_iff_toNat_le, UInt8.le_iff_toNat_le, hb]
    exact ⟨hl, hh⟩
  rw [follow, if_pos hle, hb, Nat.add_sub_cancel]

private theorem follow_inner (bits n : Nat) {d : Nat} (hd : d < 64) (s : Bytes) :
    follow bits (n + 1) 0x80 0xBF (UInt8.ofNat (d + 0x80) :: s) =
      follow (bits * 64 + d) n 0x80 0xBF s :=
  follow_cons bits n hd (Nat.le_add_left ..) (by simp; omega) s

/-- The octet after a leading one, where some leading octets narrow what it may be. -/
private theorem follow_narrowed (bits n : Nat) {d : Nat} (hd : d < 64) {p q : Prop} [Decidable p]
    [Decidable q] {low high : UInt8} (hl : p → low.toNat ≤ d + 0x80)
    (hh : q → d + 0x80 ≤ high.toNat) (s : Bytes) :
    follow bits (n + 1) (if p then low else 0x80) (if q then high else 0xBF)
        (UInt8.ofNat (d + 0x80) :: s) =
      follow (bits * 64 + d) n 0x80 0xBF s := by
  refine follow_cons bits n hd ?_ ?_ s
  · split
    · next hp => exact hl hp
    · exact Nat.le_add_left ..
  · split
    · next hq => exact hh hq
    · change d + 0x80 ≤ 191
      omega

private theorem lead?_two {k : Nat} (h₁ : 2 ≤ k) (h₂ : k < 32) :
    lead? (UInt8.ofNat (k + 0xC0)) = some ⟨k, 1, 0x80, 0xBF⟩ := by
  have hb : (UInt8.ofNat (k + 0xC0)).toNat = k + 0xC0 := by
    rw [UInt8.toNat_ofNat']
    omega
  simp only [lead?, UInt8.lt_iff_toNat_lt, hb]
  rw [if_neg (by simp; omega), if_pos (by simp; omega), Nat.add_sub_cancel]

private theorem lead?_three {k : Nat} (h : k < 16) :
    lead? (UInt8.ofNat (k + 0xE0)) =
      some ⟨k, 2, if k = 0 then 0xA0 else 0x80, if k = 13 then 0x9F else 0xBF⟩ := by
  have hb : (UInt8.ofNat (k + 0xE0)).toNat = k + 0xE0 := by
    rw [UInt8.toNat_ofNat']
    omega
  have h0 : UInt8.ofNat (k + 0xE0) = 0xE0 ↔ k = 0 := by
    rw [← UInt8.toNat_inj, hb]; simp
  have h13 : UInt8.ofNat (k + 0xE0) = 0xED ↔ k = 13 := by
    rw [← UInt8.toNat_inj, hb]; simp
  simp only [lead?, UInt8.lt_iff_toNat_lt, hb, h0, h13]
  rw [if_neg (by simp), if_neg (by simp), if_pos (by simp; omega), Nat.add_sub_cancel]

private theorem lead?_four {k : Nat} (h : k < 5) :
    lead? (UInt8.ofNat (k + 0xF0)) =
      some ⟨k, 3, if k = 0 then 0x90 else 0x80, if k = 4 then 0x8F else 0xBF⟩ := by
  have hb : (UInt8.ofNat (k + 0xF0)).toNat = k + 0xF0 := by
    rw [UInt8.toNat_ofNat']
    omega
  have h0 : UInt8.ofNat (k + 0xF0) = 0xF0 ↔ k = 0 := by
    rw [← UInt8.toNat_inj, hb]; simp
  have h4 : UInt8.ofNat (k + 0xF0) = 0xF4 ↔ k = 4 := by
    rw [← UInt8.toNat_inj, hb]; simp
  simp only [lead?, UInt8.lt_iff_toNat_lt, hb, h0, h4]
  rw [if_neg (by simp), if_neg (by simp), if_neg (by simp), if_pos (by simp; omega),
    Nat.add_sub_cancel]

private theorem next_lead {b low high : UInt8} {bits n : Nat} (hb : 0x80 ≤ b.toNat)
    (hl : lead? b = some ⟨bits, n, low, high⟩) (s : Bytes) : next b s =
      ((follow bits n low high s).1.map Char.ofNat, (follow bits n low high s).2) := by
  have h : ¬b < 0x80 := by
    rw [UInt8.lt_iff_toNat_lt]
    simp; omega
  simp only [next, if_neg h, hl]

/-- The cases of the proof are those of the written character: one to four octets. -/
theorem read_utf8EncodeChar_append (c : Char) (s : Bytes) :
    read (String.utf8EncodeChar c ++ s) = some c :: read s := by
  have hc : Char.ofNat c.val.toNat = c := Char.ofNat_toNat c
  have hv : c.val.toNat < 0xD800 ∨ 0xDFFF < c.val.toNat ∧ c.val.toNat < 0x110000 := c.valid
  generalize hn : c.val.toNat = n at hc hv
  simp only [String.utf8EncodeChar, hn]
  split
  · have hb : (UInt8.ofNat n).toNat = n := by
      rw [UInt8.toNat_ofNat']
      omega
    have hlt : UInt8.ofNat n < 0x80 := by
      rw [UInt8.lt_iff_toNat_lt, hb]
      simp; omega
    rw [List.cons_append, List.nil_append, read, next, if_pos hlt, hb, hc]
  split
  · have hd : n / 64 * 64 + n % 64 = n := by omega
    rw [Nat.mod_eq_of_lt (show n / 64 < 0x20 by omega)]
    simp only [List.cons_append, List.nil_append]
    rw [read, next_lead (by rw [UInt8.toNat_ofNat']; omega) (lead?_two (by omega) (by omega)),
      follow_inner _ _ (Nat.mod_lt _ (by decide)), follow, hd]
    simp [hc]
  split
  · have hd : (n / 4096 * 64 + n / 64 % 64) * 64 + n % 64 = n := by omega
    rw [Nat.mod_eq_of_lt (show n / 4096 < 0x10 by omega)]
    simp only [List.cons_append, List.nil_append]
    have hlow (h : n / 4096 = 0) : 0xA0 ≤ n / 64 % 64 + 0x80 := by omega
    have hhigh (h : n / 4096 = 13) : n / 64 % 64 + 0x80 ≤ 0x9F := by omega
    rw [read, next_lead (by rw [UInt8.toNat_ofNat']; omega) (lead?_three (by omega)),
      follow_narrowed _ _ (Nat.mod_lt _ (by decide)) hlow hhigh,
      follow_inner _ _ (Nat.mod_lt _ (by decide)), follow, hd]
    simp [hc]
  · have hd : ((n / 262144 * 64 + n / 4096 % 64) * 64 + n / 64 % 64) * 64 + n % 64 = n := by omega
    rw [Nat.mod_eq_of_lt (show n / 262144 < 0x08 by omega)]
    simp only [List.cons_append, List.nil_append]
    have hlow (h : n / 262144 = 0) : 0x90 ≤ n / 4096 % 64 + 0x80 := by omega
    have hhigh (h : n / 262144 = 4) : n / 4096 % 64 + 0x80 ≤ 0x8F := by omega
    rw [read, next_lead (by rw [UInt8.toNat_ofNat']; omega) (lead?_four (by omega)),
      follow_narrowed _ _ (Nat.mod_lt _ (by decide)) hlow hhigh,
      follow_inner _ _ (Nat.mod_lt _ (by decide)), follow_inner _ _ (Nat.mod_lt _ (by decide)),
      follow, hd]
    simp [hc]

/-! ## What is read was written -/

private theorem eq_ofNat_add {b : UInt8} {k : Nat} (h : k ≤ b.toNat) :
    b = UInt8.ofNat (b.toNat - k + k) := by
  rw [Nat.sub_add_cancel h, UInt8.ofNat_toNat]

/-- An octet that continues a character was there, with six bits within its bounds. -/
private theorem exists_of_follow {bits n m : Nat} {low high : UInt8} (hlow : 0x80 ≤ low.toNat)
    {s : Bytes} (h : (follow bits (n + 1) low high s).1 = some m) :
    ∃ d t, s = UInt8.ofNat (d + 0x80) :: t ∧ low.toNat ≤ d + 0x80 ∧ d + 0x80 ≤ high.toNat ∧
      follow bits (n + 1) low high s = follow (bits * 64 + d) n 0x80 0xBF t := by
  cases s with
  | nil => cases h
  | cons b t =>
    rw [follow] at h ⊢
    split at h
    · next hb =>
      have hl := UInt8.le_iff_toNat_le.1 hb.1
      have hh := UInt8.le_iff_toNat_le.1 hb.2
      rw [if_pos hb]
      refine ⟨b.toNat - 0x80, t, ?_, by omega, by omega, rfl⟩
      rw [← eq_ofNat_add (Nat.le_trans hlow hl)]
    · cases h

/-- What an octet announces, by the number of octets that are to follow. -/
private theorem lead?_cases {b : UInt8} {l : Lead} (h : lead? b = some l) :
    (∃ k, 2 ≤ k ∧ k < 32 ∧ b = UInt8.ofNat (k + 0xC0) ∧ l = ⟨k, 1, 0x80, 0xBF⟩) ∨
    (∃ k, k < 16 ∧ b = UInt8.ofNat (k + 0xE0) ∧
      l = ⟨k, 2, if k = 0 then 0xA0 else 0x80, if k = 13 then 0x9F else 0xBF⟩) ∨
    ∃ k, k < 5 ∧ b = UInt8.ofNat (k + 0xF0) ∧
      l = ⟨k, 3, if k = 0 then 0x90 else 0x80, if k = 4 then 0x8F else 0xBF⟩ := by
  have hl := h
  simp only [lead?, UInt8.lt_iff_toNat_lt, UInt8.reduceToNat] at h
  split at h
  · cases h
  split at h
  · refine .inl ⟨b.toNat - 0xC0, by omega, by omega, eq_ofNat_add (by omega), ?_⟩
    exact (Option.some.inj h).symm
  split at h
  · have hb : b = UInt8.ofNat (b.toNat - 0xE0 + 0xE0) := eq_ofNat_add (by omega)
    rw [hb, lead?_three (by omega)] at hl
    exact .inr (.inl ⟨_, by omega, hb, (Option.some.inj hl).symm⟩)
  split at h
  · have hb : b = UInt8.ofNat (b.toNat - 0xF0 + 0xF0) := eq_ofNat_add (by omega)
    rw [hb, lead?_four (by omega)] at hl
    exact .inr (.inr ⟨_, by omega, hb, (Option.some.inj hl).symm⟩)
  · cases h

private theorem toNat_ofNat {n : Nat} (h : n.isValidChar) : (Char.ofNat n).val.toNat = n := by
  rw [Char.ofNat, dif_pos h]
  rfl

private theorem utf8EncodeChar_two {k d : Nat} (hk : 2 ≤ k) (hk' : k < 32) (hd : d < 64) :
    String.utf8EncodeChar (Char.ofNat (k * 64 + d)) =
      [UInt8.ofNat (k + 0xC0), UInt8.ofNat (d + 0x80)] := by
  have hn := toNat_ofNat (n := k * 64 + d) (.inl (by omega))
  have h₁ : (k * 64 + d) / 64 % 32 = k := by omega
  have h₂ : (k * 64 + d) % 64 = d := by omega
  simp only [String.utf8EncodeChar, hn, h₁, h₂]
  rw [if_neg (by omega), if_pos (by omega)]

private theorem utf8EncodeChar_three {k d e : Nat} (hk : k < 16) (hd : d < 64) (he : e < 64)
    (h0 : k = 0 → 32 ≤ d) (h13 : k = 13 → d < 32) :
    String.utf8EncodeChar (Char.ofNat ((k * 64 + d) * 64 + e)) =
      [UInt8.ofNat (k + 0xE0), UInt8.ofNat (d + 0x80), UInt8.ofNat (e + 0x80)] := by
  have hn := toNat_ofNat (n := (k * 64 + d) * 64 + e) (by unfold Nat.isValidChar; omega)
  have h₁ : ((k * 64 + d) * 64 + e) / 4096 % 16 = k := by omega
  have h₂ : ((k * 64 + d) * 64 + e) / 64 % 64 = d := by omega
  have h₃ : ((k * 64 + d) * 64 + e) % 64 = e := by omega
  simp only [String.utf8EncodeChar, hn, h₁, h₂, h₃]
  rw [if_neg (by omega), if_neg (by omega), if_pos (by omega)]

private theorem utf8EncodeChar_four {k d e f : Nat} (hk : k < 5) (hd : d < 64) (he : e < 64)
    (hf : f < 64) (h0 : k = 0 → 16 ≤ d) (h4 : k = 4 → d < 16) :
    String.utf8EncodeChar (Char.ofNat (((k * 64 + d) * 64 + e) * 64 + f)) =
      [UInt8.ofNat (k + 0xF0), UInt8.ofNat (d + 0x80), UInt8.ofNat (e + 0x80),
        UInt8.ofNat (f + 0x80)] := by
  have hn := toNat_ofNat (n := ((k * 64 + d) * 64 + e) * 64 + f)
    (by unfold Nat.isValidChar; omega)
  have h₁ : (((k * 64 + d) * 64 + e) * 64 + f) / 262144 % 8 = k := by omega
  have h₂ : (((k * 64 + d) * 64 + e) * 64 + f) / 4096 % 64 = d := by omega
  have h₃ : (((k * 64 + d) * 64 + e) * 64 + f) / 64 % 64 = e := by omega
  have h₄ : (((k * 64 + d) * 64 + e) * 64 + f) % 64 = f := by omega
  simp only [String.utf8EncodeChar, hn, h₁, h₂, h₃, h₄]
  rw [if_neg (by omega), if_neg (by omega), if_neg (by omega)]

/-- A character that is read is the one that the octets read write. The cases are the lengths. -/
theorem eq_append_of_next {b : UInt8} {s : Bytes} {c : Char} (h : (next b s).1 = some c) :
    b :: s = String.utf8EncodeChar c ++ (next b s).2 := by
  unfold next at h ⊢
  split
  · next hlt =>
    rw [if_pos hlt] at h
    obtain rfl := Option.some.inj h
    have hlt : b.toNat < 0x80 := UInt8.lt_iff_toNat_lt.1 hlt
    have hn := toNat_ofNat (n := b.toNat) (.inl (by omega))
    simp only [String.utf8EncodeChar, hn]
    rw [if_pos (by omega)]
    simp
  · next hlt =>
    rw [if_neg hlt] at h
    cases hl : lead? b with
    | none =>
      rw [hl] at h
      cases h
    | some l =>
      rw [hl] at h
      dsimp only at h ⊢
      obtain ⟨n, hn, rfl⟩ := Option.map_eq_some_iff.1 h
      rcases lead?_cases hl with ⟨k, hk, hk', rfl, rfl⟩ | ⟨k, hk, rfl, rfl⟩ | ⟨k, hk, rfl, rfl⟩
      · obtain ⟨d, s, rfl, hd, hd', hf⟩ := exists_of_follow (by simp) hn
        rw [hf, follow] at hn ⊢
        obtain rfl := Option.some.inj hn
        simp only [UInt8.reduceToNat] at hd hd'
        rw [utf8EncodeChar_two hk hk' (by omega)]
        rfl
      · obtain ⟨d, s, rfl, hd, hd', hf⟩ := exists_of_follow (by dsimp only; split <;> decide) hn
        rw [hf] at hn ⊢
        obtain ⟨e, s, rfl, he, he', hf⟩ := exists_of_follow (by decide) hn
        rw [hf, follow] at hn ⊢
        obtain rfl := Option.some.inj hn
        simp only [UInt8.reduceToNat] at he he'
        have hlow : d < 64 ∧ (k = 0 → 32 ≤ d) ∧ (k = 13 → d < 32) := by
          dsimp only at hd hd'
          split at hd <;> split at hd' <;> simp only [UInt8.reduceToNat] at hd hd' <;> omega
        rw [utf8EncodeChar_three hk hlow.1 (by omega) hlow.2.1 hlow.2.2]
        rfl
      · obtain ⟨d, s, rfl, hd, hd', hf⟩ := exists_of_follow (by dsimp only; split <;> decide) hn
        rw [hf] at hn ⊢
        obtain ⟨e, s, rfl, he, he', hf⟩ := exists_of_follow (by decide) hn
        rw [hf] at hn ⊢
        obtain ⟨f, s, rfl, hf₀, hf₁, hf⟩ := exists_of_follow (by decide) hn
        rw [hf, follow] at hn ⊢
        obtain rfl := Option.some.inj hn
        simp only [UInt8.reduceToNat] at he he' hf₀ hf₁
        have hlow : d < 64 ∧ (k = 0 → 16 ≤ d) ∧ (k = 4 → d < 16) := by
          dsimp only at hd hd'
          split at hd <;> split at hd' <;> simp only [UInt8.reduceToNat] at hd hd' <;> omega
        rw [utf8EncodeChar_four hk hlow.1 (by omega) (by omega) hlow.2.1 hlow.2.2]
        rfl

/-! ## Texts -/

theorem read_encode (s : List Char) : read (encode s) = s.map some := by
  induction s with
  | nil => rw [encode, List.flatMap_nil, read]; rfl
  | cons c s ih =>
    rw [encode, List.flatMap_cons, read_utf8EncodeChar_append]
    exact congrArg (some c :: ·) ih

theorem decode?_encode (s : List Char) : decode? (encode s) = some s := by
  rw [decode?, read_encode]
  induction s with
  | nil => rfl
  | cons c s ih => simp [List.mapM_cons, ih]

theorem decode?_ne_some_nil {s : Bytes} (h : s ≠ []) : decode? s ≠ some [] := by
  obtain ⟨b, s, rfl⟩ := List.exists_cons_of_ne_nil h
  rw [decode?, read, List.mapM_cons]
  cases (next b s).1 with
  | none => simp
  | some c => cases (read (next b s).2).mapM id <;> simp

theorem decodeLossy_encode (s : List Char) : decodeLossy (encode s) = s := by
  rw [decodeLossy, read_encode, List.map_map]
  exact List.map_id s

@[simp] theorem encode_nil : encode [] = [] := rfl

@[simp] theorem encode_append (s t : List Char) : encode (s ++ t) = encode s ++ encode t :=
  List.flatMap_append

theorem encode_cons (c : Char) (s : List Char) :
    encode (c :: s) = String.utf8EncodeChar c ++ encode s :=
  List.flatMap_cons

theorem decodeLossy_encode_append (s : List Char) (t : Bytes) :
    decodeLossy (encode s ++ t) = s ++ decodeLossy t := by
  induction s with
  | nil => rfl
  | cons c s ih =>
    rw [encode_cons, List.append_assoc, decodeLossy, read_utf8EncodeChar_append, List.map_cons]
    exact congrArg (c :: ·) ih

/-- A written text starts with another one only where the texts do. -/
theorem eq_append_of_encode {s u : List Char} {t : Bytes} (h : encode s = encode u ++ t) :
    ∃ v, s = u ++ v ∧ t = encode v := by
  have hs : s = u ++ decodeLossy t := by
    rw [← decodeLossy_encode_append, ← h, decodeLossy_encode]
  refine ⟨decodeLossy t, hs, ?_⟩
  rw [hs, encode_append] at h
  exact (List.append_cancel_left h).symm

/-! ## Octets of ASCII -/

theorem utf8EncodeChar_of_lt {c : Char} (h : c.toNat < 0x80) :
    String.utf8EncodeChar c = [UInt8.ofNat c.toNat] := by
  have : c.val.toNat ≤ 0x7f := Nat.le_of_lt_succ h
  rw [String.utf8EncodeChar, if_pos this]
  rfl

/-- All octets of a character outside ASCII are outside ASCII. -/
theorem le_of_mem_utf8EncodeChar {c : Char} (h : 0x80 ≤ c.toNat) {b : UInt8}
    (hb : b ∈ String.utf8EncodeChar c) : 0x80 ≤ b.toNat := by
  have hv : 0x80 ≤ c.val.toNat := h
  generalize hn : c.val.toNat = n at hv
  simp only [String.utf8EncodeChar, hn] at hb
  split at hb
  · omega
  split at hb
  · simp only [List.mem_cons, List.not_mem_nil, or_false] at hb
    rcases hb with rfl | rfl <;> rw [UInt8.toNat_ofNat'] <;> omega
  split at hb
  · simp only [List.mem_cons, List.not_mem_nil, or_false] at hb
    rcases hb with rfl | rfl | rfl <;> rw [UInt8.toNat_ofNat'] <;> omega
  · simp only [List.mem_cons, List.not_mem_nil, or_false] at hb
    rcases hb with rfl | rfl | rfl | rfl <;> rw [UInt8.toNat_ofNat'] <;> omega

theorem mem_utf8EncodeChar_iff {c d : Char} (hd : d.toNat < 0x80) :
    UInt8.ofNat d.toNat ∈ String.utf8EncodeChar c ↔ d = c := by
  have hb : (UInt8.ofNat d.toNat).toNat = d.toNat := by
    rw [UInt8.toNat_ofNat']
    omega
  by_cases hc : c.toNat < 0x80
  · rw [utf8EncodeChar_of_lt hc, List.mem_singleton]
    constructor
    · intro h
      have := congrArg UInt8.toNat h
      rw [hb, UInt8.toNat_ofNat', Nat.mod_eq_of_lt (by omega)] at this
      rw [← Char.ofNat_toNat d, this, Char.ofNat_toNat]
    · rintro rfl
      rfl
  · constructor
    · intro h
      have := le_of_mem_utf8EncodeChar (Nat.le_of_not_lt hc) h
      omega
    · rintro rfl
      exact absurd hd hc

/-- A character of ASCII occurs in a text as often as its octet does in the written text. -/
theorem mem_encode_iff {d : Char} (hd : d.toNat < 0x80) (s : List Char) :
    UInt8.ofNat d.toNat ∈ encode s ↔ d ∈ s := by
  rw [encode, List.mem_flatMap]
  constructor
  · rintro ⟨c, hc, h⟩
    rwa [(mem_utf8EncodeChar_iff hd).1 h]
  · intro h
    exact ⟨d, h, (mem_utf8EncodeChar_iff hd).2 rfl⟩

theorem head?_encode_cons_eq {c d : Char} (hd : d.toNat < 0x80) {s : List Char}
    (h : (encode (c :: s)).head? = some (UInt8.ofNat d.toNat)) : d = c := by
  rw [encode_cons, List.head?_append, Option.or_of_isSome (by simp)] at h
  exact (mem_utf8EncodeChar_iff hd).1 (List.mem_of_head? h)

/-! ## Reading in pieces

An octet of ASCII continues no character, so that the octets before it read as they do on their own. -/

private theorem follow_append {low : UInt8} (hlow : 0x80 ≤ low.toNat) {a : UInt8}
    (ha : a.toNat < 0x80) (bits n : Nat) (high : UInt8) (s t : Bytes) :
    follow bits n low high (s ++ a :: t) =
      ((follow bits n low high s).1, (follow bits n low high s).2 ++ a :: t) := by
  induction n generalizing bits low high s with
  | zero => rfl
  | succ n ih =>
    cases s with
    | nil =>
      have hout : ¬(low ≤ a ∧ a ≤ high) := by
        rw [UInt8.le_iff_toNat_le]
        omega
      simp only [List.nil_append, follow, if_neg hout]
    | cons b s =>
      rw [List.cons_append, follow, follow]
      split
      · exact ih (by decide) _ _ s
      · rfl

private theorem next_append {a : UInt8} (ha : a.toNat < 0x80) (b : UInt8) (s t : Bytes) :
    next b (s ++ a :: t) = ((next b s).1, (next b s).2 ++ a :: t) := by
  unfold next
  split
  · rfl
  · cases hl : lead? b with
    | none => rfl
    | some l =>
      have hlow : 0x80 ≤ l.low.toNat := by
        rcases lead?_cases hl with ⟨k, -, -, -, rfl⟩ | ⟨k, -, -, rfl⟩ | ⟨k, -, -, rfl⟩
        · exact Nat.le_refl _
        · dsimp only; split <;> decide
        · dsimp only; split <;> decide
      dsimp only
      rw [follow_append hlow ha]

theorem read_append {a : UInt8} (ha : a.toNat < 0x80) (s t : Bytes) :
    read (s ++ a :: t) = read s ++ read (a :: t) := by
  induction hn : s.length using Nat.strongRecOn generalizing s with
  | ind n ih =>
    cases s with
    | nil =>
      rw [List.nil_append, read.eq_1, List.nil_append]
    | cons b s =>
      have hlt : (next b s).2.length < n := by
        rw [← hn]
        exact Nat.lt_succ_of_le (length_next_le b s)
      rw [List.cons_append, read, next_append ha, ih _ hlt _ rfl, read.eq_2 b s, List.cons_append]

theorem decodeLossy_append {a : UInt8} (ha : a.toNat < 0x80) (s t : Bytes) :
    decodeLossy (s ++ a :: t) = decodeLossy s ++ Char.ofNat a.toNat :: decodeLossy t := by
  have hread : read (a :: t) = some (Char.ofNat a.toNat) :: read t := by
    rw [read, next, if_pos (UInt8.lt_iff_toNat_lt.2 ha)]
  rw [decodeLossy, read_append ha, hread, List.map_append]
  rfl

theorem follow_suffix (bits n : Nat) (low high : UInt8) (s : Bytes) :
    (follow bits n low high s).2 <:+ s := by
  fun_induction follow bits n low high s with
  | case1 => exact List.suffix_refl _
  | case2 => exact List.suffix_refl _
  | case3 _ _ _ _ b s _ ih => exact ih.trans (List.suffix_cons ..)
  | case4 => exact List.suffix_refl _

theorem next_suffix (b : UInt8) (s : Bytes) : (next b s).2 <:+ s := by
  unfold next
  split
  · exact List.suffix_refl _
  · split
    · exact List.suffix_refl _
    · exact follow_suffix ..

/-- A character of ASCII is read from its octet only. -/
theorem mem_of_mem_decodeLossy {c : Char} (hc : c.toNat < 0x80) {s : Bytes}
    (h : c ∈ decodeLossy s) : UInt8.ofNat c.toNat ∈ s := by
  have hplain : c ≠ '\uFFFD' := by
    rintro rfl
    exact absurd hc (by decide)
  induction hn : s.length using Nat.strongRecOn generalizing s with
  | ind n ih =>
    cases s with
    | nil =>
      rw [decodeLossy, read] at h
      cases h
    | cons b s =>
      rw [decodeLossy, read, List.map_cons] at h
      rcases List.mem_cons.1 h with h | h
      · cases hnext : (next b s).1 with
        | none =>
          rw [hnext] at h
          exact absurd h hplain
        | some d =>
          rw [hnext] at h
          obtain rfl : c = d := h
          rw [eq_append_of_next hnext]
          exact List.mem_append_left _ ((mem_utf8EncodeChar_iff hc).2 rfl)
      · have hlt : (next b s).2.length < n := by
          rw [← hn]
          exact Nat.lt_succ_of_le (length_next_le b s)
        exact List.mem_cons_of_mem _ ((next_suffix b s).subset (ih _ hlt h rfl))

/-- The start of a text that was read without a replacement is what the octets start with. -/
theorem eq_append_of_decodeLossy {u v : List Char} (hu : '\uFFFD' ∉ u) {s : Bytes}
    (h : decodeLossy s = u ++ v) : ∃ t, s = encode u ++ t ∧ decodeLossy t = v := by
  induction u generalizing s with
  | nil => exact ⟨s, rfl, h⟩
  | cons c u ih =>
    rw [List.mem_cons, not_or] at hu
    cases s with
    | nil =>
      rw [decodeLossy, read] at h
      cases h
    | cons b s =>
      rw [decodeLossy, read, List.map_cons, List.cons_append] at h
      obtain ⟨hc, hrest⟩ := List.cons.inj h
      obtain ⟨t, ht, htext⟩ := ih hu.2 hrest
      have hnext : (next b s).1 = some c := by
        cases hn : (next b s).1 with
        | none =>
          rw [hn] at hc
          exact absurd hc hu.1
        | some d =>
          rw [hn] at hc
          exact congrArg some hc
      exact ⟨t, by rw [eq_append_of_next hnext, ht, encode_cons, List.append_assoc], htext⟩

/-! ## Order -/

/-- The written forms of two characters differ first in an octet that orders them as their code points
do. The cases are the lengths of the two forms. -/
theorem utf8EncodeChar_append_lt {c d : Char} (h : c < d) (s t : Bytes) :
    String.utf8EncodeChar c ++ s < String.utf8EncodeChar d ++ t := by
  have hlt : c.val.toNat < d.val.toNat := h
  have hd : d.val.toNat < 0x110000 := by
    rcases d.valid with h | h
    · exact Nat.lt_trans h (by decide)
    · exact h.2
  have hcons {a b : Nat} {u v : Bytes} (h : a % 256 < b % 256 ∨ a % 256 = b % 256 ∧ u < v) :
      UInt8.ofNat a :: u < UInt8.ofNat b :: v := by
    rw [List.cons_lt_cons_iff, UInt8.lt_iff_toNat_lt, ← UInt8.toNat_inj, UInt8.toNat_ofNat',
      UInt8.toNat_ofNat']
    exact h
  generalize hm : c.val.toNat = m at hlt
  generalize hn : d.val.toNat = n at hlt hd
  simp only [String.utf8EncodeChar, hm, hn]
  split
  · split
    · exact hcons (by omega)
    split
    · exact hcons (by omega)
    split <;> exact hcons (by omega)
  split
  · split
    · omega
    split
    · rcases Nat.lt_or_ge (m / 64) (n / 64) with h | h
      · exact hcons (by omega)
      · exact hcons (.inr ⟨by omega, hcons (by omega)⟩)
    split <;> exact hcons (by omega)
  split
  · split
    · omega
    split
    · omega
    split
    · rcases Nat.lt_or_ge (m / 4096) (n / 4096) with h | h
      · exact hcons (by omega)
      refine hcons (.inr ⟨by omega, ?_⟩)
      rcases Nat.lt_or_ge (m / 64) (n / 64) with h | h
      · exact hcons (by omega)
      · exact hcons (.inr ⟨by omega, hcons (by omega)⟩)
    · exact hcons (by omega)
  · split
    · omega
    split
    · omega
    split
    · omega
    rcases Nat.lt_or_ge (m / 262144) (n / 262144) with h | h
    · exact hcons (by omega)
    refine hcons (.inr ⟨by omega, ?_⟩)
    rcases Nat.lt_or_ge (m / 4096) (n / 4096) with h | h
    · exact hcons (by omega)
    refine hcons (.inr ⟨by omega, ?_⟩)
    rcases Nat.lt_or_ge (m / 64) (n / 64) with h | h
    · exact hcons (by omega)
    · exact hcons (.inr ⟨by omega, hcons (by omega)⟩)

/-- The order of texts by code points is that of their octets. -/
theorem encode_lt_encode {s t : List Char} (h : s < t) : encode s < encode t := by
  induction h with
  | @nil d t =>
    have hne : String.utf8EncodeChar d ++ encode t ≠ [] := by simp
    obtain ⟨b, u, hu⟩ := List.exists_cons_of_ne_nil hne
    rw [encode_nil, encode_cons, hu]
    exact List.nil_lt_cons b u
  | rel h =>
    rw [encode_cons, encode_cons]
    exact utf8EncodeChar_append_lt h _ _
  | cons _ ih =>
    rw [encode_cons, encode_cons]
    exact List.append_left_lt ih

end SealingProxy.Text.Utf8

namespace SealingProxy

@[simp] theorem utf8_append (s t : String) : utf8 (s ++ t) = utf8 s ++ utf8 t := by
  simp [utf8]

theorem utf8_ofList (s : List Char) : utf8 (String.ofList s) = Text.Utf8.encode s := by
  simp [utf8]

end SealingProxy
