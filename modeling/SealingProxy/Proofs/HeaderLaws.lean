import SealingProxy.Headers
import SealingProxy.Proofs.Utf8
/-! # Laws of header fields

What a change of one name does to the values of every name. Texts of visible ASCII are kept as they
are: as a value they can be set, and they read back. -/

namespace SealingProxy

namespace Text

theorem charOfByte_of_toNat {c : Char} (hc : c.toNat < 0x80) :
    charOfByte (UInt8.ofNat c.toNat) = c := by
  rw [charOfByte, UInt8.toNat_ofNat', Nat.mod_eq_of_lt (by omega), Char.ofNat_toNat]

/-- The octets of ASCII text are its characters. -/
theorem encode_eq_map {s : List Char} (h : ∀ c ∈ s, c.toNat < 0x80) :
    Utf8.encode s = s.map fun c => UInt8.ofNat c.toNat := by
  induction s with
  | nil => rfl
  | cons c s ih =>
    rw [Utf8.encode_cons, Utf8.utf8EncodeChar_of_lt (h c (List.mem_cons_self ..)),
      ih fun a ha => h a (List.mem_cons_of_mem _ ha)]
    rfl

/-- ASCII octets are those of the text they make. -/
theorem utf8_ofAscii {b : Bytes} (h : ∀ a ∈ b, a.toNat < 0x80) : utf8 (ofAscii b) = b := by
  have hchar (a : UInt8) (ha : a ∈ b) : (charOfByte a).toNat = a.toNat := by
    have hofNat : ∀ n < 0x80, (Char.ofNat n).toNat = n := by decide
    exact hofNat _ (h a ha)
  have hascii : ∀ c ∈ b.map charOfByte, c.toNat < 0x80 := by
    intro c hc
    obtain ⟨a, ha, rfl⟩ := List.mem_map.1 hc
    rw [hchar a ha]
    exact h a ha
  rw [ofAscii, utf8_ofList, encode_eq_map hascii, List.map_map]
  have hid : ∀ a ∈ b, ((fun c => UInt8.ofNat c.toNat) ∘ charOfByte) a = id a := by
    intro a ha
    simp only [Function.comp_apply, hchar a ha, id]
    exact UInt8.ofNat_toNat
  exact (List.map_congr_left hid).trans (List.map_id _)

theorem ofAscii_utf8 {s : String} (h : ∀ c ∈ s.toList, c.toNat < 0x80) : ofAscii (utf8 s) = s := by
  have hid : ∀ c ∈ s.toList, (charOfByte ∘ fun c => UInt8.ofNat c.toNat) c = id c :=
    fun c hc => charOfByte_of_toNat (h c hc)
  rw [ofAscii, utf8, encode_eq_map h, List.map_map, List.map_congr_left hid, List.map_id,
    String.ofList_toList]

end Text

namespace Headers
open Text

variable {h : Headers} {m n : HeaderName}

theorem values_append (h : Headers) (m n : HeaderName) (v : Bytes) :
    (h.append m v).values n = h.values n ++ if m = n then [v] else [] := by
  by_cases hmn : m = n <;> simp [append, values, List.filter_append, hmn]

theorem values_erase_self (h : Headers) (n : HeaderName) : (h.erase n).values n = [] := by
  simp [erase, values, List.filter_filter]

theorem values_erase_of_ne (hmn : n ≠ m) (h : Headers) : (h.erase m).values n = h.values n := by
  have hp (e : HeaderName × Bytes) : (e.1 == n && e.1 != m) = (e.1 == n) := by
    by_cases he : e.1 = n <;> simp [he, hmn]
  simp only [erase, values, List.filter_filter, hp]

theorem values_eraseAll {ns : List HeaderName} (hn : n ∉ ns) (h : Headers) :
    (h.eraseAll ns).values n = h.values n := by
  have hp (e : HeaderName × Bytes) : (e.1 == n && !ns.contains e.1) = (e.1 == n) := by
    by_cases he : e.1 = n <;> simp [he, hn]
  simp only [eraseAll, values, List.filter_filter, hp]

theorem values_eraseAll_of_mem {ns : List HeaderName} (hn : n ∈ ns) (h : Headers) :
    (h.eraseAll ns).values n = [] := by
  rw [values, List.map_eq_nil_iff, List.filter_eq_nil_iff]
  intro e he
  have hkept := (List.mem_filter.1 he).2
  rw [beq_iff_eq]
  rintro rfl
  simp [hn] at hkept

theorem values_insert_self (h : Headers) (n : HeaderName) (v : Bytes) :
    (h.insert n v).values n = [v] := by
  simp [insert, values_append, values_erase_self]

theorem values_insert_of_ne (hmn : n ≠ m) (h : Headers) (v : Bytes) :
    (h.insert m v).values n = h.values n := by
  simp [insert, values_append, values_erase_of_ne hmn, Ne.symm hmn]

theorem values_set_of_ne (hmn : n ≠ m) (h : Headers) (s : String) :
    (h.set m s).values n = h.values n := by
  unfold set
  split
  · exact values_insert_of_ne hmn h _
  · rfl

/-- What can be read of a name depends on its values only. -/
theorem get?_congr {g : Headers} (hv : g.values n = h.values n) : g.get? n = h.get? n := by
  rw [get?, hv, get?]

/-- The text is visible ASCII, as a value that can be read. -/
def IsVisible (s : String) : Prop :=
  (utf8 s).all isVisibleByte = true

instance (s : String) : Decidable (IsVisible s) :=
  inferInstanceAs (Decidable (_ = true))

theorem lt_of_isVisibleByte {b : UInt8} (h : isVisibleByte b = true) : b.toNat < 0x80 := by
  simp only [isVisibleByte, Bool.or_eq_true, beq_iff_eq, Bool.and_eq_true,
    decide_eq_true_eq, UInt8.lt_iff_toNat_lt] at h
  rcases h with rfl | h
  · decide
  · have : (127 : UInt8).toNat = 127 := rfl
    omega

theorem isValueByte_of_isVisibleByte {b : UInt8} (h : isVisibleByte b = true) :
    isValueByte b = true := by
  have hlt := lt_of_isVisibleByte h
  simp only [isVisibleByte, isValueByte, Bool.or_eq_true, beq_iff_eq, Bool.and_eq_true,
    decide_eq_true_eq, UInt8.lt_iff_toNat_lt, bne_iff_ne, ne_eq] at h ⊢
  refine h.imp_right fun h => ⟨h.1, ?_⟩
  rintro rfl
  exact absurd h.2 (by decide)

theorem IsVisible.append {s t : String} (hs : IsVisible s) (ht : IsVisible t) :
    IsVisible (s ++ t) := by
  rw [IsVisible, utf8_append, List.all_append, Bool.and_eq_true]
  exact ⟨hs, ht⟩

theorem isVisible_of_forall_mem {s : String} (h : ∀ c ∈ s.toList, 32 ≤ c.toNat ∧ c.toNat < 127) :
    IsVisible s := by
  have hbyte : ∀ n < 127, 32 ≤ n → isVisibleByte (UInt8.ofNat n) = true := by decide
  rw [IsVisible, utf8, encode_eq_map fun c hc => Nat.lt_succ_of_lt (h c hc).2, List.all_eq_true]
  intro b hb
  obtain ⟨c, hc, rfl⟩ := List.mem_map.1 hb
  exact hbyte _ (h c hc).2 (h c hc).1

theorem isVisible_append_iff {s t : String} : IsVisible (s ++ t) ↔ IsVisible s ∧ IsVisible t := by
  rw [IsVisible, utf8_append, List.all_append, Bool.and_eq_true]
  rfl

theorem IsVisible.lt {s : String} (hs : IsVisible s) : ∀ b ∈ utf8 s, b.toNat < 0x80 :=
  fun b hb => lt_of_isVisibleByte (List.all_eq_true.1 hs b hb)

theorem IsVisible.not_mem_of_le {s : String} (hs : IsVisible s) {c : Char} (hc : 0x80 ≤ c.toNat) :
    c ∉ s.toList := by
  intro hm
  obtain ⟨b, hb⟩ := List.exists_mem_of_ne_nil (String.utf8EncodeChar c) (by simp)
  have hlt := hs.lt b (List.mem_flatMap.2 ⟨c, hm, hb⟩)
  have hle := Utf8.le_of_mem_utf8EncodeChar hc hb
  omega

theorem IsVisible.ofAscii_utf8 {s : String} (hs : IsVisible s) : ofAscii (utf8 s) = s :=
  Text.ofAscii_utf8 fun _ hc => Nat.lt_of_not_le fun hle => hs.not_mem_of_le hle hc

theorem IsVisible.not_mem {s : String} (hs : IsVisible s) {c : Char} (hc : c.toNat < 0x80)
    (hb : isVisibleByte (UInt8.ofNat c.toNat) = false) : c ∉ s.toList := by
  intro hm
  have hbyte := List.all_eq_true.1 hs _ ((Utf8.mem_encode_iff hc _).2 hm)
  rw [hb] at hbyte
  cases hbyte

/-- The first value can be read when it is visible, and then it is the text. -/
theorem get?_eq_some_iff {s : String} :
    h.get? n = some s ↔ IsVisible s ∧ (h.values n).head? = some (utf8 s) := by
  unfold get?
  cases hv : h.values n with
  | nil => simp
  | cons v vs =>
    by_cases ha : v.all isVisibleByte
    · have hu : utf8 (ofAscii v) = v :=
        utf8_ofAscii fun b hb => lt_of_isVisibleByte (List.all_eq_true.1 ha b hb)
      simp only [ha, if_true, Option.some.injEq, List.head?_cons]
      constructor
      · rintro rfl
        exact ⟨by rw [IsVisible, hu]; exact ha, hu.symm⟩
      · rintro ⟨hs, rfl⟩
        exact hs.ofAscii_utf8
    · simp only [ha, Bool.false_eq_true, if_false, List.head?_cons, Option.some.injEq, reduceCtorEq,
        false_iff, not_and]
      rintro hs rfl
      exact ha hs

theorem isVisible_of_get? {s : String} (hg : h.get? n = some s) : IsVisible s :=
  (get?_eq_some_iff.1 hg).1

theorem values_set_self {s : String} (hs : IsVisible s) (h : Headers) (n : HeaderName) :
    (h.set n s).values n = [utf8 s] := by
  have hv : (utf8 s).all isValueByte := by
    rw [List.all_eq_true]
    exact fun b hb => isValueByte_of_isVisibleByte (List.all_eq_true.1 hs b hb)
  rw [set, if_pos hv, values_insert_self]

theorem get?_set_self {s : String} (hs : IsVisible s) (h : Headers) (n : HeaderName) :
    (h.set n s).get? n = some s := by
  rw [get?_eq_some_iff, values_set_self hs]
  exact ⟨hs, rfl⟩

/-! ## Erasing several names

What is done to a name that is erased does not count; other changes commute with erasing. -/

section Erasing

variable {ns : List HeaderName}

theorem get?_eraseAll (hn : n ∉ ns) (h : Headers) : (h.eraseAll ns).get? n = h.get? n :=
  get?_congr (values_eraseAll hn h)

theorem eraseAll_comm (h : Headers) (ms ns : List HeaderName) :
    (h.eraseAll ms).eraseAll ns = (h.eraseAll ns).eraseAll ms := by
  simp only [eraseAll, List.filter_filter, Bool.and_comm]

theorem eraseAll_erase (h : Headers) (m : HeaderName) (ns : List HeaderName) :
    (h.erase m).eraseAll ns = (h.eraseAll ns).erase m := by
  simp only [eraseAll, erase, List.filter_filter, Bool.and_comm]

theorem eraseAll_append_names (h : Headers) (ms ns : List HeaderName) :
    h.eraseAll (ms ++ ns) = (h.eraseAll ms).eraseAll ns := by
  simp only [eraseAll, List.filter_filter, List.contains_eq_mem, List.mem_append,
    Bool.decide_or, Bool.not_or, Bool.and_comm]

theorem eraseAll_cons (h : Headers) (m : HeaderName) (ns : List HeaderName) :
    h.eraseAll (m :: ns) = (h.erase m).eraseAll ns := by
  have hp (e : HeaderName × Bytes) :
      (!(m :: ns).contains e.1) = (!ns.contains e.1 && e.1 != m) := by
    by_cases he : e.1 = m <;> simp [he]
  simp only [eraseAll, erase, List.filter_filter, hp]

@[simp] theorem eraseAll_eraseAll_self (h : Headers) (ns : List HeaderName) :
    (h.eraseAll ns).eraseAll ns = h.eraseAll ns := by
  simp [eraseAll, List.filter_filter]

theorem eraseAll_erase_of_mem (hm : m ∈ ns) (h : Headers) :
    (h.erase m).eraseAll ns = h.eraseAll ns := by
  have hp (e : HeaderName × Bytes) : (!ns.contains e.1 && e.1 != m) = !ns.contains e.1 := by
    by_cases he : e.1 = m <;> simp [he, hm]
  simp only [eraseAll, erase, List.filter_filter, hp]

theorem eraseAll_append (h : Headers) (m : HeaderName) (v : Bytes) (ns : List HeaderName) :
    (h.append m v).eraseAll ns = if m ∈ ns then h.eraseAll ns else (h.eraseAll ns).append m v := by
  by_cases hm : m ∈ ns <;> simp [append, eraseAll, List.filter_append, hm]

theorem eraseAll_insert_of_mem (hm : m ∈ ns) (h : Headers) (v : Bytes) :
    (h.insert m v).eraseAll ns = h.eraseAll ns := by
  rw [insert, eraseAll_append, if_pos hm, eraseAll_erase_of_mem hm]

theorem eraseAll_insert_of_not_mem (hm : m ∉ ns) (h : Headers) (v : Bytes) :
    (h.insert m v).eraseAll ns = (h.eraseAll ns).insert m v := by
  rw [insert, eraseAll_append, if_neg hm, eraseAll_erase, insert]

theorem eraseAll_set_of_mem (hm : m ∈ ns) (h : Headers) (s : String) :
    (h.set m s).eraseAll ns = h.eraseAll ns := by
  unfold set
  split
  · exact eraseAll_insert_of_mem hm h _
  · rfl

theorem eraseAll_set_of_not_mem (hm : m ∉ ns) (h : Headers) (s : String) :
    (h.set m s).eraseAll ns = (h.eraseAll ns).set m s := by
  unfold set
  split
  · exact eraseAll_insert_of_not_mem hm h _
  · rfl

end Erasing

end Headers
end SealingProxy
