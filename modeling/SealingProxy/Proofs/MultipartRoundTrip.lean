import SealingProxy.Multipart.Body
import SealingProxy.Proofs.BoundaryRoundTrip
import SealingProxy.Proofs.JsonRoundTrip
import SealingProxy.Proofs.PartHeaders
/-! # Multipart bodies read back

A written body reads back if its header lines can be written, none of them is a delimiter line,
and its payload holds no delimiter line. What reads back is the payload as it is, the resource with
its numbers as they reread, and the headers as their block reads. Clean headers and whole numbers
read back as they are. Then the payload decides: a body reads back exactly when its payload holds no
delimiter line. -/

namespace SealingProxy

namespace Part
open Bytes

/-- A part is its header lines, a blank line and its content. -/
theorem exists_block_of_content? {part content : Bytes} (h : content? part = some content) :
    ∃ block e, EndsLine block ∧ IsLineEnd e ∧ part = block ++ (e ++ content) := by
  fun_induction content? part with
  | case1 rest =>
    cases h
    exact ⟨[], [13, 10], .inl rfl, .inr rfl, rfl⟩
  | case2 rest =>
    cases h
    exact ⟨[], [10], .inl rfl, .inl rfl, rfl⟩
  | case3 => cases h
  | case4 s _ _ rest hr ih =>
    obtain ⟨block, e, hblock, he, rfl⟩ := ih h
    obtain ⟨v, -, rfl⟩ := eq_append_of_afterLine hr
    exact ⟨v ++ [lineFeed] ++ block, e, EndsLine.append (.inr ⟨v, rfl⟩) hblock, he, by simp⟩

/-- The content of a part starts with a line of it. -/
theorem eq_append_of_content? {s content : Bytes} (h : content? s = some content) :
    ∃ u, s = u ++ content ∧ EndsLine u := by
  obtain ⟨block, e, hblock, he, rfl⟩ := exists_block_of_content? h
  refine ⟨block ++ e, (List.append_assoc ..).symm, hblock.append ?_⟩
  rcases he with rfl | rfl
  · exact .inr ⟨[], rfl⟩
  · exact .inr ⟨[carriageReturn], rfl⟩

/-- A part without a delimiter line has none in its content. -/
theorem not_hasLine_read {d part : Bytes} (h : ¬Delimiter.HasLine d part) :
    ¬Delimiter.HasLine d (read part).2 := by
  unfold read
  split
  · exact h
  · next hc =>
    obtain ⟨u, rfl, hu⟩ := eq_append_of_content? hc
    exact fun hl => h (hl.append_left hu)

end Part

namespace PartHeaders
open Text

/-- A header line as it is written before a content of the given length. -/
def stateLength (length : Nat) (e : String × String) : String × String :=
  (e.1, if sameLetters e.1 "content-length" then Decimal.text length else e.2)

theorem IsWritable.stateLength {e : String × String} (h : IsWritable e) (length : Nat) :
    IsWritable (stateLength length e) := by
  refine ⟨h.trimmedName, h.singleName, ?_⟩
  unfold PartHeaders.stateLength
  dsimp only
  split
  · rw [Decimal.toList_text]
    exact fun hm => absurd (Decimal.isDigit_of_mem_write hm) (by decide)
  · exact h.singleValue

/-- A line is no delimiter line unless its name starts with a dash. -/
theorem not_isLine_of_ne_dash {b : String} {e : String × String} {c : Char} {s : List Char}
    (hn : e.1.toList = c :: s) (hc : c ≠ '-') :
    ¬Delimiter.IsLine (Delimiter.ofBoundary b) (line e) := by
  rintro ⟨after, hl, -⟩
  have hh := congrArg List.head? hl
  rw [line, lineChars, hn, List.cons_append, Delimiter.ofBoundary_eq] at hh
  exact hc (Utf8.head?_encode_cons_eq (d := '-') (by decide) hh).symm

theorem not_isLine_of_sameLetters {b : String} {e : String × String}
    (h : sameLetters e.1 "content-length") : ¬Delimiter.IsLine (Delimiter.ofBoundary b) (line e) := by
  have he : (lower e.1).toList = (lower "content-length").toList :=
    congrArg String.toList (beq_iff_eq.1 h)
  rw [lower, lower, String.toList_ofList, String.toList_ofList] at he
  cases hn : e.1.toList with
  | nil =>
    rw [hn] at he
    exact absurd he (by decide)
  | cons c s =>
    rw [hn] at he
    have hc : c.toLower = 'c' := (List.cons.inj he).1
    refine not_isLine_of_ne_dash hn ?_
    rintro rfl
    exact absurd hc (by decide)

theorem not_isLine_stateLength {b : String} {e : String × String}
    (h : ¬Delimiter.IsLine (Delimiter.ofBoundary b) (line e)) (length : Nat) :
    ¬Delimiter.IsLine (Delimiter.ofBoundary b) (line (stateLength length e)) := by
  by_cases hs : sameLetters e.1 "content-length"
  · exact not_isLine_of_sameLetters (e := stateLength length e) hs
  · simpa [stateLength, hs] using h

/-- The headers are written as lines of their own, none of them a delimiter line. -/
structure IsWritableAt (d : Bytes) (h : PartHeaders) : Prop where
  writable : ∀ e ∈ h.entries, IsWritable e
  noDelimiter : ∀ e ∈ h.entries, ¬Delimiter.IsLine d (line e)

/-- The headers of a content of the given length are written as lines that read back. -/
structure IsCleanAt (d : Bytes) (length : Nat) (h : PartHeaders) : Prop where
  plain : ∀ e ∈ h.entries, IsPlain e
  noDelimiter : ∀ e ∈ h.entries, ¬Delimiter.IsLine d (line e)
  lengths : ∀ e ∈ h.entries, sameLetters e.1 "content-length" → e.2 = Decimal.text length

theorem IsCleanAt.isWritableAt {d : Bytes} {length : Nat} {h : PartHeaders}
    (hc : h.IsCleanAt d length) : h.IsWritableAt d :=
  ⟨fun e he => (hc.plain e he).isWritable, hc.noDelimiter⟩

theorem IsCleanAt.stateLength_eq {d : Bytes} {length : Nat} {h : PartHeaders}
    (hc : h.IsCleanAt d length) : h.entries.map (stateLength length) = h.entries := by
  have hid : ∀ e ∈ h.entries, stateLength length e = id e := by
    intro e he
    unfold stateLength
    split
    · next hs => rw [← hc.lengths e he hs, id]
    · rfl
  exact (List.map_congr_left hid).trans (List.map_id _)

def block (length : Nat) (h : PartHeaders) : Bytes :=
  ((h.entries.map (stateLength length)).map line).flatMap (· ++ [13, 10])

def reread (length : Nat) (h : PartHeaders) : PartHeaders :=
  read (h.block length ++ [13, 10])

theorem IsCleanAt.reread_eq {d : Bytes} {length : Nat} {h : PartHeaders}
    (hc : h.IsCleanAt d length) : h.reread length = h := by
  rw [reread, block, hc.stateLength_eq, read_lines hc.plain]

end PartHeaders

namespace MultipartBody
open Delimiter Bytes

def part (h : PartHeaders) (content : Bytes) : Bytes :=
  h.block content.length ++ ([13, 10] ++ content)

theorem writeField_eq (length : Nat) (e : String × String) :
    writeField length e = PartHeaders.line (PartHeaders.stateLength length e) ++ [13, 10] := by
  have hsep : utf8 ": " = Text.Utf8.encode [':', ' '] := by decide
  have hline (name value : String) : PartHeaders.line (name, value) =
      utf8 name ++ (utf8 ": " ++ utf8 value) := by
    rw [hsep, utf8, utf8, ← Text.Utf8.encode_append, ← Text.Utf8.encode_append]
    rfl
  rw [PartHeaders.stateLength, hline, writeField, lineEnd]
  simp only [List.append_assoc]

theorem writePart_eq (d : Bytes) (h : PartHeaders) (content : Bytes) :
    writePart d h content = d ++ ([13, 10] ++ (part h content ++ [13, 10])) := by
  have hb : h.entries.flatMap (writeField content.length) = h.block content.length := by
    rw [PartHeaders.block, List.flatMap_map, List.flatMap_map]
    exact congrArg (fun f => h.entries.flatMap f) (funext fun e => writeField_eq _ e)
  rw [writePart, hb, part, lineEnd]
  simp only [List.append_assoc]

/-- A written body, line by line outside its parts. -/
theorem write_eq (r : MultipartBody) :
    write r = ofBoundary r.boundary ++ ([13, 10] ++
      (part r.metadataHeaders (Json.object r.metadata).write ++ ([13, 10] ++
        (ofBoundary r.boundary ++ ([13, 10] ++ (part r.payloadHeaders r.payload ++ ([13, 10] ++
          (ofBoundary r.boundary ++ 45 :: 45 :: [13, 10])))))))) := by
  have hclose : utf8 "--" = [45, 45] := by decide
  rw [write, writePart_eq, writePart_eq, hclose, lineEnd]
  simp only [List.append_assoc, List.cons_append, List.nil_append]

theorem read_part {d : Bytes} {h : PartHeaders} (hh : h.IsWritableAt d) (content : Bytes) :
    Part.read (part h content) = (h.reread content.length, content) := by
  apply Part.read_lines
  intro l hl
  obtain ⟨e, he, rfl⟩ := List.mem_map.1 hl
  obtain ⟨f, hf, rfl⟩ := List.mem_map.1 he
  exact PartHeaders.isFieldLine_line ((hh.writable f hf).stateLength _)

variable {b : String}

/-- A written object is one line that starts with a brace, and so no delimiter line. -/
theorem not_hasLine_write_object (m : Resource) :
    ¬HasLine (ofBoundary b) (Json.object m).write := by
  rw [hasLine_iff_of_not_mem (Json.lineFeed_not_mem_write _)]
  rintro ⟨after, hw, -⟩
  obtain ⟨t, ht⟩ := Json.write_object_eq_cons m
  rw [ht, ofBoundary_eq] at hw
  exact absurd (List.cons.inj hw).1 (by decide)

section Lines

variable (h13 : 13 ∉ ofBoundary b) (h10 : 10 ∉ ofBoundary b)
include h13 h10

/-- A written part has a delimiter line only if its content has one. -/
theorem not_hasLine_part {h : PartHeaders} (hh : h.IsWritableAt (ofBoundary b)) {content : Bytes}
    (hc : ¬HasLine (ofBoundary b) content) : ¬HasLine (ofBoundary b) (part h content) := by
  have hline : ∀ l ∈ (h.entries.map (PartHeaders.stateLength content.length)).map PartHeaders.line,
      ¬HasLine (ofBoundary b) l := by
    intro l hl
    obtain ⟨e, he, rfl⟩ := List.mem_map.1 hl
    obtain ⟨f, hf, rfl⟩ := List.mem_map.1 he
    have hw := (hh.writable f hf).stateLength content.length
    rw [hasLine_iff_of_not_mem (PartHeaders.isFieldLine_line hw).1]
    exact PartHeaders.not_isLine_stateLength (hh.noDelimiter f hf) _
  unfold part PartHeaders.block
  generalize (h.entries.map (PartHeaders.stateLength content.length)).map PartHeaders.line = ls
    at hline
  induction ls with
  | nil =>
    have hnil := not_hasLine_nil (ofBoundary_ne_nil b)
    have hiff := hasLine_append_lineEnd_iff h13 h10 isLineEnd_crlf [] content
    exact fun hl => (hiff.1 hl).elim hnil hc
  | cons l ls ih =>
    rw [List.flatMap_cons, List.append_assoc, List.append_assoc,
      hasLine_append_lineEnd_iff h13 h10 isLineEnd_crlf, not_or]
    exact ⟨hline l (List.mem_cons_self ..), ih fun k hk => hline k (List.mem_cons_of_mem _ hk)⟩

theorem parts_write {m : Resource} {mh ph : PartHeaders} {p : Bytes}
    (hmh : mh.IsWritableAt (ofBoundary b)) (hph : ph.IsWritableAt (ofBoundary b))
    (hp : ¬HasLine (ofBoundary b) p) :
    parts (ofBoundary b) (write ⟨b, m, mh, p, ph⟩) =
      .ok [part mh (Json.object m).write, part ph p] := by
  have hw := write_eq ⟨b, m, mh, p, ph⟩
  have hm := not_hasLine_part h13 h10 hmh (not_hasLine_write_object m)
  have hq := not_hasLine_part h13 h10 hph hp
  have hfollow (t : Bytes) : Follows ([13, 10] ++ t) := .inr (.inr ⟨13, by simp, by simp⟩)
  have hclosing : Follows (45 :: 45 :: [13, 10]) := .inr (.inl (by simp))
  have hfind : find? (ofBoundary b) (write ⟨b, m, mh, p, ph⟩) = some (write ⟨b, m, mh, p, ph⟩) :=
    find?_of_isLine ⟨_, hw, hfollow _⟩
  rw [parts, hfind, hw]
  simp only [partsFrom_part h13 h10 hm (hfollow _), partsFrom_part h13 h10 hq hclosing,
    partsFrom_closing]
  rfl

end Lines

theorem not_mem_ofBoundary_of_isPlain (hb : Boundary.IsPlain b) :
    13 ∉ ofBoundary b ∧ 10 ∉ ofBoundary b :=
  ⟨not_mem_ofBoundary (c := '\r') (by decide) (by decide) hb.noCarriageReturn,
    not_mem_ofBoundary (c := '\n') (by decide) (by decide) hb.noLineFeed⟩

theorem readMetadata_write {m : Resource} (hn : ∀ n ∈ (Json.object m).numbers, n.IsReadable)
    (hm : Json.Fits 0 (.object m)) :
    readMetadata (Json.object m).write = .ok (Json.rereadMembers m) := by
  rw [readMetadata, Json.read?_write hn hm.1 hm.2]
  rfl

/-- A written body reads back, its payload unchanged. -/
theorem parse_write {contentType : String} (hct : Boundary.ofContentType contentType = .ok b)
    (h13 : 13 ∉ ofBoundary b) (h10 : 10 ∉ ofBoundary b) {m : Resource}
    (hn : ∀ n ∈ (Json.object m).numbers, n.IsReadable) (hm : Json.Fits 0 (.object m))
    {mh ph : PartHeaders} (hmh : mh.IsWritableAt (ofBoundary b))
    (hph : ph.IsWritableAt (ofBoundary b)) {p : Bytes} (hp : ¬HasLine (ofBoundary b) p) :
    parse (write ⟨b, m, mh, p, ph⟩) contentType =
      .ok ⟨b, Json.rereadMembers m, mh.reread (Json.object m).write.length, p,
        ph.reread p.length⟩ := by
  rw [parse, hct]
  simp only [parts_write h13 h10 hmh hph hp, read_part hmh, read_part hph, readMetadata_write hn hm]

/-- The payload that is read from any body holds no delimiter line. -/
theorem not_hasLine_of_parse {body : Bytes} {contentType : String} {r : MultipartBody}
    (h13 : 13 ∉ ofBoundary r.boundary) (h10 : 10 ∉ ofBoundary r.boundary)
    (h : parse body contentType = .ok r) : ¬HasLine (ofBoundary r.boundary) r.payload := by
  unfold parse at h
  split at h
  · cases h
  · split at h
    · cases h
    · next first second hparts =>
      split at h
      · cases h
      · cases h
        have hnone := not_hasLine_of_parts (ofBoundary_ne_nil _) h13 h10 hparts
        exact Part.not_hasLine_read (hnone second (by simp))
    · cases h

/-- Clean bodies read back as they are exactly when no delimiter line is in the payload. -/
theorem parse_write_eq_ok_iff {m : Resource} {mh ph : PartHeaders} {p : Bytes}
    (hb : Boundary.IsPlain b) (hnames : (Json.object m).HasDistinctNames)
    (hdepth : (Json.object m).depth ≤ 127) (hwhole : (Json.object m).HasWholeNumbers)
    (hmh : mh.IsCleanAt (ofBoundary b) (Json.object m).write.length)
    (hph : ph.IsCleanAt (ofBoundary b) p.length) :
    parse (write ⟨b, m, mh, p, ph⟩) (Boundary.contentType b) = .ok ⟨b, m, mh, p, ph⟩ ↔
      ¬HasLine (ofBoundary b) p := by
  obtain ⟨h13, h10⟩ := not_mem_ofBoundary_of_isPlain hb
  constructor
  · exact not_hasLine_of_parse h13 h10
  · intro hp
    have hn : ∀ n ∈ (Json.object m).numbers, n.IsReadable := by
      intro n hn
      obtain ⟨k, hk, rfl⟩ := hwhole n hn
      exact JsonNumber.isReadable_whole k hk
    have hm : Json.rereadMembers m = m := Json.rereadMembers_of_whole m hwhole
    rw [parse_write (Boundary.ofContentType_contentType hb) h13 h10 hn ⟨hnames, hdepth⟩
      hmh.isWritableAt hph.isWritableAt hp, hmh.reread_eq, hph.reread_eq, hm]

/-- A payload of line breaks and a line that only starts like a delimiter line. -/
theorem parse_write_near_miss :
    parse (write ⟨"x", [("a", .number (.whole 1 (by decide)))], ⟨[("Content-Type", "text/plain")]⟩,
        [13, 10, 45, 45, 120, 121, 13, 10], ⟨[("content-length", "8")]⟩⟩)
      (Boundary.contentType "x") =
    .ok ⟨"x", [("a", .number (.whole 1 (by decide)))], ⟨[("Content-Type", "text/plain")]⟩,
        [13, 10, 45, 45, 120, 121, 13, 10], ⟨[("content-length", "8")]⟩⟩ := by
  have hline (s : Bytes) (h : isAt (ofBoundary "x") s = false) : ¬IsLine (ofBoundary "x") s :=
    fun hl => by simp [isAt_iff.2 hl] at h
  have hpayload : ¬HasLine (ofBoundary "x") [13, 10, 45, 45, 120, 121, 13, 10] := by
    have h₁ := hasLine_append_lineEnd_iff (d := ofBoundary "x") (by decide) (by decide)
      isLineEnd_crlf [] [45, 45, 120, 121, 13, 10]
    have h₂ := hasLine_append_lineEnd_iff (d := ofBoundary "x") (by decide) (by decide)
      isLineEnd_crlf [45, 45, 120, 121] []
    have h₃ : ¬HasLine (ofBoundary "x") [45, 45, 120, 121] := by
      rw [hasLine_iff_of_not_mem (by decide)]
      exact hline _ (by decide)
    have h₄ := not_hasLine_nil (ofBoundary_ne_nil "x")
    exact fun h => (h₁.1 h).elim h₄ fun h => (h₂.1 h).elim h₃ h₄
  have hclean (n v : String) (length : Nat)
      (h : Text.trim n.toList = n.toList ∧ Text.trim v.toList = v.toList ∧ '\n' ∉ n.toList ∧
        '\n' ∉ v.toList ∧ ':' ∉ n.toList ∧ isAt (ofBoundary "x") (PartHeaders.line (n, v)) = false ∧
        (Text.sameLetters n "content-length" = true → v = Decimal.text length)) :
      PartHeaders.IsCleanAt (ofBoundary "x") length ⟨[(n, v)]⟩ := by
    obtain ⟨h₁, h₂, h₃, h₄, h₅, h₆, h₇⟩ := h
    constructor <;> intro e he <;> obtain rfl := List.mem_singleton.1 he
    · exact ⟨h₁, h₂, h₃, h₄, h₅⟩
    · exact hline _ h₆
    · exact h₇
  refine (parse_write_eq_ok_iff ?_ ?_ ?_ ?_ ?_ ?_).2 hpayload
  · exact ⟨by constructor <;> decide, by decide, by decide⟩
  · simp [Json.HasDistinctNames, Json.MembersHaveDistinctNames]
  · simp [Json.depth, Json.memberDepth]
  · intro n hn
    obtain rfl : n = .whole 1 (by decide) := by
      simpa [Json.numbers, Json.memberNumbers] using hn
    exact ⟨_, _, rfl⟩
  · exact hclean _ _ _ (by decide)
  · exact hclean _ _ _ (by decide)

end MultipartBody
end SealingProxy
