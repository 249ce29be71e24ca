import SealingProxy.Proofs.PercentEscapes
import SealingProxy.Proofs.TextPieces
import SealingProxy.Query
/-! # Written queries read back

A name or a value reads back from its written form, in which no mark of the query occurs. So the
parameters read back as they were written, in their order and with their repetitions. -/

namespace SealingProxy.Query
open Text

/-- The octets that are not escaped in a form. A space among them is written as a plus. -/
private abbrev isPlain (b : UInt8) : Bool :=
  isFormByte b || b == 32

private theorem of_mem_escape_isPlain {b : UInt8} {s : Bytes}
    (h : b ∈ Percent.escape isPlain s) : isPlain b = true ∨ b = Percent.sign :=
  Percent.of_mem_escape (fun b hb => by rw [isPlain, isFormByte, hb]; rfl) h

theorem utf8_encodeField (s : String) : utf8 (encodeField s) =
    (Percent.escape (fun b => isFormByte b || b == 32) (utf8 s)).map
      fun b => if b = 32 then 43 else b := by
  have hall := forall_octet (p := fun b => isPlain b = true ∨ b = Percent.sign →
    (if b = 32 then 43 else b).toNat < 0x80) (by decide +kernel)
  apply utf8_ofAscii
  intro b hb
  obtain ⟨a, ha, rfl⟩ := List.mem_map.1 hb
  exact hall a (of_mem_escape_isPlain ha)

/-- A field reads back from its written form. -/
theorem decodeField_encodeField (s : String) : decodeField (utf8 (encodeField s)) = s := by
  have hall := forall_octet (p := fun b => isPlain b = true ∨ b = Percent.sign →
    (if (if b = 32 then 43 else b) = 43 then 32 else if b = 32 then 43 else b) = b)
    (by decide +kernel)
  -- Only spaces were written as a plus, so that reading every plus as a space undoes it.
  have hspaces : (utf8 (encodeField s)).map (fun b => if b = 43 then 32 else b) =
      Percent.escape isPlain (utf8 s) := by
    rw [utf8_encodeField, List.map_map]
    exact (List.map_congr_left fun b hb => hall b (of_mem_escape_isPlain hb)).trans (List.map_id _)
  rw [decodeField, hspaces, Percent.unescape_escape (by decide), utf8, Utf8.decodeLossy_encode,
    String.ofList_toList]

/-- Neither mark of a query occurs in a written field. -/
theorem not_mem_encodeField (s : String) :
    38 ∉ utf8 (encodeField s) ∧ 61 ∉ utf8 (encodeField s) := by
  have hall := forall_octet (p := fun b => isPlain b = true ∨ b = Percent.sign →
    (if b = 32 then 43 else b) ≠ 38 ∧ (if b = 32 then 43 else b) ≠ 61) (by decide +kernel)
  rw [utf8_encodeField]
  constructor
  · intro h
    obtain ⟨b, hb, he⟩ := List.mem_map.1 h
    exact (hall b (of_mem_escape_isPlain hb)).1 he
  · intro h
    obtain ⟨b, hb, he⟩ := List.mem_map.1 h
    exact (hall b (of_mem_escape_isPlain hb)).2 he

theorem utf8_writePair (p : String × String) :
    utf8 (writePair p) = utf8 (encodeField p.1) ++ 61 :: utf8 (encodeField p.2) := by
  have heq : utf8 "=" = [61] := by decide
  rw [writePair, utf8_append, utf8_append, heq, List.append_assoc, List.singleton_append]

theorem readPair_writePair (p : String × String) : readPair (utf8 (writePair p)) = p := by
  rw [utf8_writePair, readPair, cut_append_cons (not_mem_encodeField p.1).2]
  dsimp only
  rw [decodeField_encodeField, decodeField_encodeField]

theorem ampersand_not_mem_writePair (p : String × String) : 38 ∉ utf8 (writePair p) := by
  rw [utf8_writePair, List.mem_append, List.mem_cons]
  rintro (h | h | h)
  · exact (not_mem_encodeField p.1).1 h
  · exact absurd h (by decide)
  · exact (not_mem_encodeField p.2).1 h

/-- A text that is written pair by pair is cut into these pairs. -/
theorem pieces_intercalate (p : String × String) (params : List (String × String)) :
    pieces 38 (utf8 ("&".intercalate ((p :: params).map writePair))) =
      (p :: params).map fun p => utf8 (writePair p) := by
  induction params generalizing p with
  | nil =>
    rw [List.map_singleton, List.map_singleton, String.intercalate_singleton]
    exact pieces_of_not_mem (ampersand_not_mem_writePair p)
  | cons q params ih =>
    have hmark : utf8 "&" = [38] := by decide
    rw [List.map_cons, List.map_cons, String.intercalate_cons_cons, utf8_append, utf8_append,
      hmark, List.append_assoc, List.singleton_append,
      pieces_append_cons (ampersand_not_mem_writePair p), ← List.map_cons, ih q]
    rfl

/-- The parameters read back as they were written. -/
theorem parse_text (q : Query) : parse q.text = q := by
  obtain ⟨_ | ⟨p, params⟩⟩ := q
  · decide +kernel
  · have hne : ∀ b ∈ (p :: params).map (fun p => utf8 (writePair p)), (!b.isEmpty) = true := by
      intro b hb
      obtain ⟨a, -, rfl⟩ := List.mem_map.1 hb
      rw [utf8_writePair]
      simp
    unfold parse text
    dsimp only
    rw [pieces_intercalate, List.filter_eq_self.2 hne, List.map_map]
    have hid : ∀ a ∈ p :: params, (readPair ∘ fun p => utf8 (writePair p)) a = id a := by
      intro a _
      rw [Function.comp_apply, readPair_writePair, id]
    rw [List.map_congr_left hid, List.map_id]

end SealingProxy.Query
