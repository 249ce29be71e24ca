import SealingProxy.Multipart.Part
import SealingProxy.Proofs.DelimiterLines
import SealingProxy.Proofs.TextPieces
import SealingProxy.Proofs.Utf8
/-! # Header blocks of parts

A header block that was written reads back: the blank line that ends it is found, and each line
gives its name and value, if these are trimmed and the name holds no colon. What is read from any
block has trimmed names and no line feeds, so that it can be written as a block again. -/

namespace SealingProxy

namespace Part
open Bytes

/-- The octets make a line of a header block: they are not blank and hold no line break that would
end the line. -/
def IsFieldLine (l : Bytes) : Prop :=
  lineFeed ∉ l ∧ ∃ b ∈ l.head?, b ≠ 13 ∧ b ≠ 10

/-- Behind a line that is not blank, the content is that of what follows the line. -/
theorem content?_of_head? {s : Bytes} {b : UInt8} (hb : s.head? = some b) (h13 : b ≠ 13)
    (h10 : b ≠ 10) : content? s = s.afterLine.bind content? := by
  obtain ⟨t, rfl⟩ := List.head?_eq_some_iff.1 hb
  rw [content?]
  · split
    · next hnone => rw [hnone]; rfl
    · next hrest => rw [hrest]; rfl
  · intro r hr
    exact h13 (List.cons.inj hr).1
  · intro r hr
    exact h10 (List.cons.inj hr).1

theorem content?_line {l : Bytes} (h : IsFieldLine l) (s : Bytes) :
    content? (l ++ [13, 10] ++ s) = content? s := by
  obtain ⟨hl, b, hb, h13, h10⟩ := h
  have hhead : (l ++ [13, 10] ++ s).head? = some b := by
    rw [List.append_assoc, List.head?_append, Option.mem_def.1 hb]
    rfl
  rw [content?_of_head? hhead h13 h10, List.append_assoc, isLineEnd_crlf.afterLine_append hl s]
  rfl

/-- A single line has no content behind it. -/
theorem content?_of_isFieldLine {l : Bytes} (h : IsFieldLine l) : content? l = none := by
  obtain ⟨hl, b, hb, h13, h10⟩ := h
  rw [content?_of_head? hb h13 h10, afterLine_eq_none_iff.2 hl]
  rfl

theorem content?_flatMap {ls : List Bytes} (h : ∀ l ∈ ls, IsFieldLine l) (s : Bytes) :
    content? (ls.flatMap (· ++ [13, 10]) ++ s) = content? s := by
  induction ls with
  | nil => rfl
  | cons l ls ih =>
    rw [List.flatMap_cons, List.append_assoc, content?_line (h l (List.mem_cons_self ..))]
    exact ih fun m hm => h m (List.mem_cons_of_mem _ hm)

/-- The blank line behind header lines ends them. -/
theorem content?_lines {ls : List Bytes} (h : ∀ l ∈ ls, IsFieldLine l) (content : Bytes) :
    content? (ls.flatMap (· ++ [13, 10]) ++ ([13, 10] ++ content)) = some content := by
  rw [content?_flatMap h]
  simp [content?]

theorem read_lines {ls : List Bytes} (h : ∀ l ∈ ls, IsFieldLine l) (content : Bytes) :
    read (ls.flatMap (· ++ [13, 10]) ++ ([13, 10] ++ content)) =
      (PartHeaders.read (ls.flatMap (· ++ [13, 10]) ++ [13, 10]), content) := by
  have hb := Delimiter.before_append (ls.flatMap (· ++ [13, 10]) ++ [13, 10]) content
  rw [List.append_assoc, Delimiter.before] at hb
  rw [read, content?_lines h]
  exact congrArg (fun block => (PartHeaders.read block, content)) hb

end Part

namespace PartHeaders
open Text

def lineChars (e : String × String) : List Char :=
  e.1.toList ++ ':' :: ' ' :: e.2.toList

def line (e : String × String) : Bytes :=
  Utf8.encode (lineChars e)

/-- A header line is one line and keeps its name and value when it is read. -/
structure IsPlain (e : String × String) : Prop where
  trimmedName : trim e.1.toList = e.1.toList
  trimmedValue : trim e.2.toList = e.2.toList
  singleName : '\n' ∉ e.1.toList
  singleValue : '\n' ∉ e.2.toList
  noColon : ':' ∉ e.1.toList

/-- A header line can be written as one line. -/
structure IsWritable (e : String × String) : Prop where
  trimmedName : trim e.1.toList = e.1.toList
  singleName : '\n' ∉ e.1.toList
  singleValue : '\n' ∉ e.2.toList

theorem IsPlain.isWritable {e : String × String} (h : IsPlain e) : IsWritable e :=
  ⟨h.trimmedName, h.singleName, h.singleValue⟩

theorem lineFeed_not_mem_lineChars {e : String × String} (h : IsWritable e) :
    '\n' ∉ lineChars e := by
  simp [lineChars, h.singleName, h.singleValue]

theorem isBlank_head_lineChars {e : String × String} (h : IsWritable e) :
    ∃ c s, lineChars e = c :: s ∧ isBlank c = false := by
  cases hn : e.1.toList with
  | nil => exact ⟨':', _, by rw [lineChars, hn]; rfl, rfl⟩
  | cons c s =>
    refine ⟨c, s ++ ':' :: ' ' :: e.2.toList, by rw [lineChars, hn]; rfl, ?_⟩
    exact (trim_eq_self_iff.1 h.trimmedName).1 c (by rw [hn]; rfl)

theorem isFieldLine_line {e : String × String} (h : IsWritable e) :
    Part.IsFieldLine (line e) := by
  obtain ⟨c, s, hs, hc⟩ := isBlank_head_lineChars h
  refine ⟨mt (Utf8.mem_encode_iff (d := '\n') (by decide) _).1 (lineFeed_not_mem_lineChars h), ?_⟩
  have hl : (line e).head? = (String.utf8EncodeChar c).head? := by
    rw [line, hs, Utf8.encode_cons, List.head?_append, Option.or_of_isSome (by simp)]
  obtain ⟨b, hb⟩ := Option.isSome_iff_exists.1
    (show (String.utf8EncodeChar c).head?.isSome by simp)
  refine ⟨b, by rw [hl, hb]; rfl, ?_, ?_⟩
  · rintro rfl
    have := (Utf8.mem_utf8EncodeChar_iff (d := '\r') (by decide)).1 (List.mem_of_head? hb)
    subst this
    exact absurd hc (by decide)
  · rintro rfl
    have := (Utf8.mem_utf8EncodeChar_iff (d := '\n') (by decide)).1 (List.mem_of_head? hb)
    subst this
    exact absurd hc (by decide)

/-! ## Written blocks -/

theorem readLine_lineChars {e : String × String} (h : IsPlain e) :
    readLine (lineChars e ++ ['\r']) = .field e.1 e.2 := by
  obtain ⟨c, s, hs, hc⟩ := isBlank_head_lineChars h.isWritable
  have hlast : ∀ a ∈ (lineChars e).getLast?, (a == '\r') = false := by
    intro a ha
    rw [beq_eq_false_iff_ne]
    rintro rfl
    rw [lineChars, List.getLast?_append, List.getLast?_cons, List.getLast?_cons] at ha
    cases hv : e.2.toList.getLast? with
    | none => simp [hv] at ha
    | some b =>
      have hb := (trim_eq_self_iff.1 h.trimmedValue).2 b hv
      simp only [hv, Option.getD_some, Option.mem_def] at ha
      obtain rfl : b = '\r' := Option.some.inj ha
      exact absurd hb (by decide)
  have hdrop : dropEndWhile (· == '\r') (lineChars e ++ ['\r']) = c :: s := by
    rw [dropEndWhile_append (by simp), dropEndWhile_eq_self hlast, hs]
  have hcut : cut ':' (c :: s) = some (e.1.toList, ' ' :: e.2.toList) := by
    rw [← hs]
    exact cut_append_cons h.noColon _
  have hblank : ¬(c = ' ' ∨ c = '\t') := by
    rintro (rfl | rfl) <;> exact absurd hc (by decide)
  rw [readLine, hdrop]
  simp only [if_neg hblank, hcut]
  rw [trim_cons_of_isBlank (by decide), h.trimmedName, h.trimmedValue, String.ofList_toList,
    String.ofList_toList]

/-- The lines of a block, read one by one. -/
private theorem pieces_lines {es : List (String × String)} (h : ∀ e ∈ es, IsWritable e) :
    pieces '\n' (es.flatMap (fun e => lineChars e ++ ['\r', '\n']) ++ ['\r', '\n']) =
      es.map (fun e => lineChars e ++ ['\r']) ++ [['\r'], []] := by
  induction es with
  | nil => rfl
  | cons e es ih =>
    have he : '\n' ∉ lineChars e ++ ['\r'] := by
      simpa using lineFeed_not_mem_lineChars (h e (List.mem_cons_self ..))
    have hs := pieces_append_cons he
      (es.flatMap (fun e => lineChars e ++ ['\r', '\n']) ++ ['\r', '\n'])
    rw [ih fun f hf => h f (List.mem_cons_of_mem _ hf)] at hs
    simpa using hs

private theorem foldl_addLine_fields (es : List (String × String)) (h : PartHeaders) :
    (es.map fun e => Line.field e.1 e.2).foldl addLine h = ⟨h.entries ++ es⟩ := by
  induction es generalizing h with
  | nil => simp
  | cons e es ih => simp [addLine, ih]

private theorem encode_lines (es : List (String × String)) :
    (es.map line).flatMap (· ++ [13, 10]) ++ [13, 10] =
      Utf8.encode (es.flatMap (fun e => lineChars e ++ ['\r', '\n']) ++ ['\r', '\n']) := by
  have hend : Utf8.encode ['\r', '\n'] = [13, 10] := by decide
  have hline (e : String × String) :
      Utf8.encode (lineChars e ++ ['\r', '\n']) = line e ++ [13, 10] := by
    rw [Utf8.encode_append, hend, line]
  rw [Utf8.encode_append, hend]
  congr 1
  induction es with
  | nil => rfl
  | cons e es ih =>
    rw [List.map_cons, List.flatMap_cons, List.flatMap_cons, Utf8.encode_append, hline, ih]

/-- A written block of plain lines reads as these lines. -/
theorem read_lines {es : List (String × String)} (h : ∀ e ∈ es, IsPlain e) :
    read ((es.map line).flatMap (· ++ [13, 10]) ++ [13, 10]) = ⟨es⟩ := by
  rw [encode_lines, read, Utf8.decodeLossy_encode,
    pieces_lines fun e he => (h e he).isWritable, List.map_append, List.map_map]
  have hmap : es.map (readLine ∘ fun e => lineChars e ++ ['\r']) =
      es.map fun e => Line.field e.1 e.2 :=
    List.map_congr_left fun e he => readLine_lineChars (h e he)
  have hvoid : [['\r'], []].map readLine = [.void, .void] := rfl
  rw [hmap, hvoid, List.foldl_append, foldl_addLine_fields]
  rfl

/-! ## Blocks of any origin -/

private theorem isWritable_addLine {s : List Char} (hs : '\n' ∉ s) {h : PartHeaders}
    (hh : ∀ e ∈ h.entries, IsWritable e) : ∀ e ∈ (addLine h (readLine s)).entries, IsWritable e := by
  have hsub {c : Char} {t : List Char} (ht : dropEndWhile (· == '\r') s = c :: t) :
      '\n' ∉ c :: t := fun hm => hs ((dropEndWhile_isPrefix _ s).subset (ht ▸ hm))
  unfold readLine
  split
  · exact hh
  · next c t ht =>
    split
    · -- a continuation goes behind the value of the line before it
      unfold addLine
      cases hlast : h.entries.getLast? with
      | none => exact hh
      | some last =>
        intro e he
        rcases List.mem_append.1 he with he | he
        · exact hh e (List.dropLast_subset _ he)
        · obtain rfl := List.mem_singleton.1 he
          have hl := hh last (List.mem_of_getLast? hlast)
          have htrim : '\n' ∉ trim (c :: t) := fun hm => hsub ht (mem_of_mem_trim hm)
          exact ⟨hl.trimmedName, hl.singleName, by simp [hl.singleValue, htrim]⟩
    · split
      · next name value hcut =>
        obtain ⟨hct, -⟩ := cut_eq_some hcut
        have hn : '\n' ∉ name := fun hm => hsub ht (by rw [hct]; exact List.mem_append_left _ hm)
        have hv : '\n' ∉ value := fun hm => hsub ht (by rw [hct]; simp [hm])
        intro e he
        rcases List.mem_append.1 he with he | he
        · exact hh e he
        · obtain rfl := List.mem_singleton.1 he
          refine ⟨?_, ?_, ?_⟩
          · simp [trim_trim]
          · simpa using fun hm => hn (mem_of_mem_trim hm)
          · simpa using fun hm => hv (mem_of_mem_trim hm)
      · exact hh

/-- What is read from any block can be written as a block. -/
theorem isWritable_of_mem_read (block : Bytes) : ∀ e ∈ (read block).entries, IsWritable e := by
  have key (ps : List (List Char)) (hp : ∀ p ∈ ps, '\n' ∉ p) (h : PartHeaders)
      (hh : ∀ e ∈ h.entries, IsWritable e) :
      ∀ e ∈ ((ps.map readLine).foldl addLine h).entries, IsWritable e := by
    induction ps generalizing h with
    | nil => exact hh
    | cons p ps ih =>
      have hadd := isWritable_addLine (hp p (List.mem_cons_self ..)) hh
      exact ih (fun q hq => hp q (List.mem_cons_of_mem _ hq)) _ hadd
  exact key _ (fun p hp => not_mem_of_mem_pieces hp) {} (by simp)

end PartHeaders

namespace Part

theorem isWritable_of_mem_read (part : Bytes) :
    ∀ e ∈ (read part).1.entries, PartHeaders.IsWritable e := by
  unfold read
  split
  · simp
  · exact PartHeaders.isWritable_of_mem_read _

end Part
end SealingProxy
