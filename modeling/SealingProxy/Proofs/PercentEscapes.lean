import SealingProxy.Proofs.HeaderLaws
import SealingProxy.Text.Percent
/-! # Reading what was escaped

An escaped octet reads back as itself, and a plain one stands for itself as long as the percent sign
is not plain. So a name survives as a segment of a path, whatever characters it holds, and no mark
of the path occurs in the segment. -/

namespace SealingProxy.Text

/-- What holds of the numbers below 256 holds of all octets. -/
theorem forall_octet {p : UInt8 → Prop} (h : ∀ n : Fin 256, p (UInt8.ofNat n)) (b : UInt8) :
    p b := by
  have hb : UInt8.ofNat b.toNat = b := UInt8.ofNat_toNat
  exact hb ▸ h ⟨b.toNat, b.toNat_lt⟩

theorem isAlphanum_capitalHexDigit {v : UInt8} (h : v < 16) :
    isAlphanum (capitalHexDigit v) = true := by
  have hall := forall_octet (p := fun v => v < 16 → isAlphanum (capitalHexDigit v) = true)
    (by decide +kernel)
  exact hall v h

theorem hexValue?_capitalHexDigit {v : UInt8} (h : v < 16) :
    hexValue? (capitalHexDigit v) = some v := by
  have hall := forall_octet (p := fun v => v < 16 → hexValue? (capitalHexDigit v) = some v)
    (by decide +kernel)
  exact hall v h

namespace Percent

variable {plain : UInt8 → Bool}

theorem div_lt (b : UInt8) : b / 16 < 16 := by
  have hall := forall_octet (p := fun b => b / 16 < 16) (by decide +kernel)
  exact hall b

theorem mod_lt (b : UInt8) : b % 16 < 16 := by
  have hall := forall_octet (p := fun b => b % 16 < 16) (by decide +kernel)
  exact hall b

theorem unescape_cons {a : UInt8} (h : a ≠ sign) (s : Bytes) :
    unescape (a :: s) = a :: unescape s := by
  rcases s with _ | ⟨b, _ | ⟨c, s⟩⟩
  · rfl
  · rfl
  · rw [unescape, if_neg h]

theorem unescape_ne_nil {s : Bytes} (h : s ≠ []) : unescape s ≠ [] := by
  unfold unescape
  split
  · exact absurd rfl h
  · simp
  · simp
  · split
    · split <;> simp
    · simp

theorem unescape_escapeByte_append (b : UInt8) (s : Bytes) :
    unescape (escapeByte b ++ s) = b :: unescape s := by
  have hvalue := forall_octet (p := fun b => b / 16 * 16 + b % 16 = b) (by decide +kernel) b
  rw [escapeByte, List.cons_append, List.cons_append, List.cons_append, List.nil_append, unescape,
    if_pos rfl, hexValue?_capitalHexDigit (div_lt b), hexValue?_capitalHexDigit (mod_lt b)]
  exact congrArg (· :: unescape s) hvalue

/-- The induction is on the octets that are written. -/
theorem unescape_escape (hsign : plain sign = false) (s : Bytes) :
    unescape (escape plain s) = s := by
  induction s with
  | nil => rfl
  | cons b s ih =>
    have hcons : escape plain (b :: s) =
        (if plain b then [b] else escapeByte b) ++ escape plain s := List.flatMap_cons
    rw [hcons]
    split
    · next hb =>
      have hne : b ≠ sign := by
        rintro rfl
        exact absurd hb (by rw [hsign]; decide)
      rw [List.singleton_append, unescape_cons hne, ih]
    · rw [unescape_escapeByte_append, ih]

/-- Only plain octets and percent signs are written, as the digits are plain. -/
theorem of_mem_escape (hplain : ∀ b, isAlphanum b = true → plain b = true) {b : UInt8} {s : Bytes}
    (h : b ∈ escape plain s) : plain b = true ∨ b = sign := by
  obtain ⟨a, -, hb⟩ := List.mem_flatMap.1 h
  split at hb
  · next ha =>
    obtain rfl := List.mem_singleton.1 hb
    exact .inl ha
  · simp only [escapeByte, List.mem_cons, List.not_mem_nil, or_false] at hb
    rcases hb with rfl | rfl | rfl
    · exact .inr rfl
    · exact .inl (hplain _ (isAlphanum_capitalHexDigit (div_lt a)))
    · exact .inl (hplain _ (isAlphanum_capitalHexDigit (mod_lt a)))

theorem of_mem_escape_isPathByte {b : UInt8} {s : Bytes} (h : b ∈ escape isPathByte s) :
    isPathByte b = true ∨ b = sign :=
  of_mem_escape (fun b hb => by rw [isPathByte, hb]; rfl) h

theorem utf8_encodeSegment (s : String) : utf8 (encodeSegment s) = escape isPathByte (utf8 s) := by
  have hall := forall_octet (p := fun b => isPathByte b = true ∨ b = sign → b.toNat < 0x80)
    (by decide +kernel)
  exact utf8_ofAscii fun b hb => hall b (of_mem_escape_isPathByte hb)

/-- A name reads back from the segment that it is written as. -/
theorem decodeSegment_encodeSegment (s : String) : decodeSegment (encodeSegment s) = s := by
  rw [decodeSegment, utf8_encodeSegment, unescape_escape (by decide), utf8, Utf8.decode?_encode]
  exact String.ofList_toList

theorem decodeSegment_ne {s : String} (h : s ≠ "") : decodeSegment s ≠ "" := by
  have hoctets : utf8 s ≠ [] := by
    obtain ⟨c, cs, hcs⟩ := List.exists_cons_of_ne_nil (mt String.toList_eq_nil_iff.1 h)
    rw [utf8, hcs, Utf8.encode_cons]
    simp
  unfold decodeSegment
  split
  · next t ht =>
    rw [ne_eq, String.ofList_eq_empty_iff]
    rintro rfl
    exact Utf8.decode?_ne_some_nil (unescape_ne_nil hoctets) ht
  · exact h

/-- Only the empty segment stands for the empty name. -/
theorem decodeSegment_eq_empty_iff {s : String} : decodeSegment s = "" ↔ s = "" := by
  refine ⟨fun h => Decidable.of_not_not fun hs => decodeSegment_ne hs h, ?_⟩
  rintro rfl
  decide +kernel

theorem encodeSegment_ne {s : String} (h : s ≠ "") : encodeSegment s ≠ "" := by
  intro he
  have hread := decodeSegment_encodeSegment s
  rw [he] at hread
  exact h (hread.symm.trans (by decide +kernel))

/-- No mark of a path or a query occurs in a segment. -/
theorem not_mem_encodeSegment {c : Char} (hc : c.toNat < 0x80)
    (hplain : isPathByte (UInt8.ofNat c.toNat) = false) (hsign : UInt8.ofNat c.toNat ≠ sign)
    (s : String) : c ∉ (encodeSegment s).toList := by
  intro hm
  have hb : UInt8.ofNat c.toNat ∈ utf8 (encodeSegment s) := (Utf8.mem_encode_iff hc _).2 hm
  rw [utf8_encodeSegment] at hb
  rcases of_mem_escape_isPathByte hb with h | h
  · rw [hplain] at h
    cases h
  · exact hsign h

end Percent
end SealingProxy.Text
