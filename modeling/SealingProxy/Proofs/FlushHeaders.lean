import SealingProxy.Proofs.MultipartRoundTrip
/-! # Headers of flush parts

The header block of a part is what stands before its blank line. Where none of its lines starts with
white space, each header is read from a line of its own, and the line starts with the name as it is
read. So such a header can be written as a line that reads back. It is a delimiter line only if the
line that it was read from is one, except where the boundary holds a colon or a character that stands
for octets that could not be read. -/

namespace SealingProxy

namespace Text.Utf8

/-- Octets that are read line by line read as the lines of their text. -/
theorem map_decodeLossy_pieces (s : Bytes) :
    (pieces Bytes.lineFeed s).map decodeLossy = pieces '\n' (decodeLossy s) := by
  induction s using pieces_induction Bytes.lineFeed with
  | last s hs =>
    have htext : '\n' ∉ decodeLossy s := mt (mem_of_mem_decodeLossy (c := '\n') (by decide)) hs
    rw [pieces_of_not_mem hs, pieces_of_not_mem htext]
    rfl
  | more u t hu ih =>
    have htext : '\n' ∉ decodeLossy u := mt (mem_of_mem_decodeLossy (c := '\n') (by decide)) hu
    have hread : decodeLossy (u ++ Bytes.lineFeed :: t) =
        decodeLossy u ++ '\n' :: decodeLossy t := decodeLossy_append (by decide) u t
    rw [pieces_append_cons hu, List.map_cons, ih, hread, pieces_append_cons htext]

end Text.Utf8

namespace PartHeaders
open Text

def textLines (block : Bytes) : List (List Char) :=
  pieces '\n' (Utf8.decodeLossy block)

theorem textLines_append (u t : Bytes) :
    textLines (u ++ Bytes.lineFeed :: t) = textLines u ++ textLines t := by
  have hread : Utf8.decodeLossy (u ++ Bytes.lineFeed :: t) =
      Utf8.decodeLossy u ++ '\n' :: Utf8.decodeLossy t := Utf8.decodeLossy_append (by decide) u t
  rw [textLines, hread, pieces_append]
  rfl

def IsFlushLine (line : List Char) : Prop :=
  ∀ c ∈ line.head?, isBlank c = false

instance (line : List Char) : Decidable (IsFlushLine line) :=
  decidable_of_iff (line.head?.all fun c => !isBlank c) (by cases line <;> simp [IsFlushLine])

/-- A line without white space at its start says nothing, or it is a header of its own. -/
theorem readLine_cases {line : List Char} (hline : '\n' ∉ line) (h : IsFlushLine line) :
    readLine line = .void ∨
      ∃ e, readLine line = .field e.1 e.2 ∧ IsPlain e ∧ e.1.toList <+: line := by
  unfold readLine
  split
  · exact .inl rfl
  next c s hs =>
  have hhead : c :: s <+: line := hs ▸ dropEndWhile_isPrefix _ line
  have hc : isBlank c = false := by
    obtain ⟨t, rfl⟩ := hhead
    exact h c rfl
  have hflush : ¬(c = ' ' ∨ c = '\t') := by
    rintro (rfl | rfl) <;> exact absurd hc (by decide)
  rw [if_neg hflush]
  cases hcut : cut ':' (c :: s) with
  | none => exact .inl rfl
  | some p =>
    obtain ⟨name, value⟩ := p
    obtain ⟨hsplit, hcolon⟩ := cut_eq_some hcut
    rw [hsplit] at hhead
    have hname : name <+: line := (List.prefix_append ..).trans hhead
    have hvalue : '\n' ∉ value := fun hm => hline (hhead.subset (by simp [hm]))
    have hstart : trimStart name = name := by
      cases name with
      | nil => rfl
      | cons d name =>
        obtain ⟨rfl, -⟩ := List.cons.inj hsplit
        simp [trimStart, hc]
    have htrim : trim name <+: name := by
      rw [trim, hstart]
      exact dropEndWhile_isPrefix isBlank name
    refine .inr ⟨(String.ofList (trim name), String.ofList (trim value)), rfl, ?_, ?_⟩
    · constructor
      case trimmedName => simp [trim_trim]
      case trimmedValue => simp [trim_trim]
      case singleName => simpa using fun hm => hline (hname.subset (mem_of_mem_trim hm))
      case singleValue => simpa using fun hm => hvalue (mem_of_mem_trim hm)
      case noColon => simpa using fun hm => hcolon (mem_of_mem_trim hm)
    · simpa using htrim.trans hname

theorem of_mem_foldl_addLine {ls : List (List Char)}
    (h : ∀ l ∈ ls, '\n' ∉ l ∧ IsFlushLine l) {start : PartHeaders} {e : String × String}
    (he : e ∈ ((ls.map readLine).foldl addLine start).entries) :
    e ∈ start.entries ∨ ∃ l ∈ ls, IsPlain e ∧ e.1.toList <+: l := by
  induction ls generalizing start with
  | nil => exact .inl he
  | cons l ls ih =>
    obtain ⟨hl, hls⟩ := List.forall_mem_cons.1 h
    rcases ih hls he with he | ⟨k, hk, hplain⟩
    · rcases readLine_cases hl.1 hl.2 with hvoid | ⟨f, hfield, hplain, hname⟩
      · rw [hvoid] at he
        exact .inl he
      · rw [hfield] at he
        rcases List.mem_append.1 he with he | he
        · exact .inl he
        · obtain rfl := List.mem_singleton.1 he
          exact .inr ⟨l, List.mem_cons_self .., hplain, hname⟩
    · exact .inr ⟨k, List.mem_cons_of_mem _ hk, hplain⟩

/-- A header that is read from lines without white space at their start can be written as a line that
reads back, and is named at the start of one of those lines. -/
theorem of_mem_read {block : Bytes} (h : ∀ l ∈ textLines block, IsFlushLine l)
    {e : String × String} (he : e ∈ (read block).entries) :
    ∃ l ∈ textLines block, IsPlain e ∧ e.1.toList <+: l := by
  have hlines : ∀ l ∈ textLines block, '\n' ∉ l ∧ IsFlushLine l :=
    fun l hl => ⟨not_mem_of_mem_pieces hl, h l hl⟩
  exact (of_mem_foldl_addLine hlines he).resolve_left List.not_mem_nil

/-- Lines that say nothing add nothing to the headers before them. -/
theorem read_append_of_void {t : Bytes} (h : ∀ l ∈ textLines t, readLine l = .void) (u : Bytes) :
    read (u ++ Bytes.lineFeed :: t) = read u := by
  have hfold {ls : List (List Char)} (hls : ∀ l ∈ ls, readLine l = .void) (start : PartHeaders) :
      (ls.map readLine).foldl addLine start = start := by
    induction ls with
    | nil => rfl
    | cons l ls ih =>
      obtain ⟨hl, hls⟩ := List.forall_mem_cons.1 hls
      rw [List.map_cons, hl, List.foldl_cons]
      exact ih hls
  change ((textLines (u ++ Bytes.lineFeed :: t)).map readLine).foldl addLine {} = _
  rw [textLines_append, List.map_append, List.foldl_append, hfold h]
  rfl

theorem read_append_lineEnd {block e : Bytes} (hblock : Bytes.EndsLine block)
    (he : Bytes.IsLineEnd e) : read (block ++ e) = read block := by
  have hnil : textLines [] = [[]] := by decide +kernel
  have hblank : textLines [13, 10] = [['\r'], []] := by decide +kernel
  have hend : ∀ l ∈ textLines [], readLine l = .void := by
    rw [hnil]
    exact fun l hl => by rw [List.mem_singleton.1 hl]; rfl
  have hreturn : ∀ l ∈ textLines [13, 10], readLine l = .void := by
    rw [hblank]
    simp only [List.forall_mem_cons]
    exact ⟨rfl, rfl, fun _ hl => absurd hl List.not_mem_nil⟩
  rcases he with rfl | rfl
  · exact read_append_of_void hend block
  · rcases hblock with rfl | ⟨t, rfl⟩
    · decide +kernel
    · have hfirst : read (t ++ Bytes.lineFeed :: [13, 10]) = read t :=
        read_append_of_void hreturn t
      rw [List.append_assoc, read_append_of_void hend t]
      exact hfirst

end PartHeaders

namespace Part
open Bytes Delimiter

def headerBlock (part : Bytes) : Bytes :=
  match content? part with
  | none => []
  | some content => dropLineEnd (before part content)

theorem dropLineEnd_append {block e : Bytes} (hblock : EndsLine block) (he : IsLineEnd e) :
    dropLineEnd (block ++ e) = block := by
  rcases he with rfl | rfl
  · rcases hblock with rfl | ⟨t, rfl⟩
    · rfl
    · exact dropLineEnd_concat_lineFeed_of_ne (by decide) t
  · exact dropLineEnd_append_crlf block

theorem of_content? {part content : Bytes} (h : content? part = some content) :
    ∃ e, EndsLine (headerBlock part) ∧ IsLineEnd e ∧
      part = headerBlock part ++ (e ++ content) := by
  obtain ⟨block, e, hblock, he, hpart⟩ := exists_block_of_content? h
  have hheader : headerBlock part = block := by
    have hbefore : before part content = block ++ e := by
      rw [hpart, ← List.append_assoc, before_append]
    rw [headerBlock, h]
    dsimp only
    rw [hbefore, dropLineEnd_append hblock he]
  exact ⟨e, hheader ▸ hblock, he, hheader ▸ hpart⟩

/-- The headers of a part are those of its header lines. -/
theorem read_eq_headerBlock (part : Bytes) :
    (read part).1 = PartHeaders.read (headerBlock part) := by
  cases hcontent : content? part with
  | none =>
    have hempty : PartHeaders.read [] = {} := by decide +kernel
    rw [read, headerBlock, hcontent]
    exact hempty.symm
  | some content =>
    obtain ⟨e, hblock, he, hpart⟩ := of_content? hcontent
    have hbefore : before part content = headerBlock part ++ e := by
      conv_lhs => rw [hpart, ← List.append_assoc, before_append]
    rw [read, hcontent]
    dsimp only
    rw [← before, hbefore, PartHeaders.read_append_lineEnd hblock he]

/-- No header line of the part starts with white space. -/
def IsFlush (part : Bytes) : Prop :=
  ∀ l ∈ PartHeaders.textLines (headerBlock part), PartHeaders.IsFlushLine l

theorem isFlush_of_headerBlock {part : Bytes} {s : String} (h : headerBlock part = utf8 s)
    (hs : ∀ l ∈ Text.pieces '\n' s.toList, PartHeaders.IsFlushLine l) : IsFlush part := by
  rwa [IsFlush, PartHeaders.textLines, h, utf8, Text.Utf8.decodeLossy_encode]

theorem IsFlush.isPlain {part : Bytes} (h : IsFlush part) :
    ∀ e ∈ (read part).1.entries, PartHeaders.IsPlain e := by
  intro e he
  rw [read_eq_headerBlock] at he
  obtain ⟨_, -, hplain, -⟩ := PartHeaders.of_mem_read h he
  exact hplain

theorem hasLine_of_headerBlock {d part : Bytes} (hd : d ≠ []) (h13 : 13 ∉ d) (h10 : 10 ∉ d)
    (h : HasLine d (headerBlock part)) : HasLine d part := by
  cases hcontent : content? part with
  | none =>
    rw [headerBlock, hcontent] at h
    exact absurd h (not_hasLine_nil hd)
  | some content =>
    obtain ⟨e, -, he, hpart⟩ := of_content? hcontent
    rw [hpart]
    exact (hasLine_append_lineEnd_iff h13 h10 he _ _).2 (.inl h)

end Part

namespace Delimiter
open Bytes Text

/-- A line of the octets that is a delimiter line makes one in them. -/
theorem hasLine_of_mem_pieces {d : Bytes} (h10 : 10 ∉ d) {s l : Bytes}
    (hl : l ∈ pieces lineFeed s) (hline : IsLine d l) : HasLine d s := by
  induction s using pieces_induction lineFeed with
  | last s hs =>
    rw [pieces_of_not_mem hs] at hl
    exact List.mem_singleton.1 hl ▸ hline.hasLine
  | more u t hu ih =>
    rw [pieces_append_cons hu] at hl
    rw [hasLine_append_iff hu]
    rcases List.mem_cons.1 hl with rfl | hl
    · exact .inl ((isLine_append_cons_iff (.inr rfl) h10 l t).2 hline)
    · exact .inr (ih hl)

theorem exists_eq_cons_of_octet {c : Char} (hc : c.toNat < 0x80) (hne : c ≠ ':')
    {q s : List Char} {t : Bytes} (h : UInt8.ofNat c.toNat :: t <+: Utf8.encode (q ++ ':' :: s)) :
    ∃ r, q = c :: r ∧ t <+: Utf8.encode (r ++ ':' :: s) := by
  obtain ⟨after, hafter⟩ := h
  have hhead := congrArg List.head? hafter.symm
  cases q with
  | nil => exact absurd (Utf8.head?_encode_cons_eq hc hhead) hne
  | cons a r =>
    obtain rfl := Utf8.head?_encode_cons_eq hc hhead
    rw [List.cons_append, List.cons_append, Utf8.encode_cons, Utf8.utf8EncodeChar_of_lt hc]
      at hafter
    exact ⟨r, rfl, after, (List.cons.inj hafter).2⟩

/-- What makes a delimiter line behind a delimiter stands before the colon of a header line. -/
theorem exists_prefix_of_follows {q s : List Char} (h : Follows (Utf8.encode (q ++ ':' :: s))) :
    ∃ p, p <+: q ∧ '\uFFFD' ∉ p ∧ ∀ t, Follows (Utf8.encode p ++ t) := by
  rcases h with h | h | ⟨b, hb, h⟩
  · rw [Utf8.encode_append, Utf8.encode_cons, Utf8.utf8EncodeChar_of_lt (by decide)] at h
    simp at h
  · obtain ⟨r, rfl, hr⟩ := exists_eq_cons_of_octet (c := '-') (by decide) (by decide) h
    obtain ⟨r, rfl, -⟩ := exists_eq_cons_of_octet (c := '-') (by decide) (by decide) hr
    exact ⟨['-', '-'], ⟨r, rfl⟩, by decide, fun t => .inr (.inl ⟨t, rfl⟩)⟩
  · have hchar : ∃ c : Char, c.toNat < 0x80 ∧ c ≠ ':' ∧ UInt8.ofNat c.toNat = b := by
      simp only [List.mem_cons, List.not_mem_nil, or_false] at hb
      rcases hb with rfl | rfl | rfl | rfl
      · exact ⟨'\r', by decide⟩
      · exact ⟨'\n', by decide⟩
      · exact ⟨' ', by decide⟩
      · exact ⟨'\t', by decide⟩
    obtain ⟨c, hc, hne, rfl⟩ := hchar
    obtain ⟨r, rfl, -⟩ := exists_eq_cons_of_octet hc hne h
    refine ⟨[c], ⟨r, rfl⟩, ?_, fun t => .inr (.inr ⟨_, hb, ?_⟩)⟩
    · rw [List.mem_singleton]
      rintro rfl
      exact absurd hc (by decide)
    · rw [Utf8.encode_cons, Utf8.utf8EncodeChar_of_lt hc]
      exact ⟨t, rfl⟩

end Delimiter

namespace Part
open Delimiter Text

/-- A header of a flush part that holds no delimiter line makes none, if the boundary has no colon and
was read without a replacement. -/
theorem IsFlush.not_isLine {b : String} {part : Bytes} (h : IsFlush part)
    (h13 : 13 ∉ ofBoundary b) (h10 : 10 ∉ ofBoundary b) (hpart : ¬HasLine (ofBoundary b) part)
    (hcolon : ':' ∉ b.toList) (hread : '\uFFFD' ∉ b.toList) :
    ∀ e ∈ (read part).1.entries, ¬IsLine (ofBoundary b) (PartHeaders.line e) := by
  intro e he ⟨after, hafter, hfollows⟩
  rw [read_eq_headerBlock] at he
  obtain ⟨l, hl, hplain, hname⟩ := PartHeaders.of_mem_read h he
  obtain ⟨v, hchars, rfl⟩ := Utf8.eq_append_of_encode (u := ("--" ++ b).toList) hafter
  have hdelimiter (c : Char) : c ∈ ("--" ++ b).toList ↔ c = '-' ∨ c ∈ b.toList := by
    simp [String.toList_append]
  -- The delimiter holds no colon, so that all of it is in the name.
  obtain ⟨q, hq, rfl⟩ : ∃ q, e.1.toList = ("--" ++ b).toList ++ q ∧
      v = q ++ ':' :: ' ' :: e.2.toList := by
    rcases List.append_eq_append_iff.1 hchars with ⟨a, ha, hv⟩ | ⟨q, hq, hv⟩
    · cases a with
      | nil => exact ⟨[], by simpa using ha.symm, hv.symm⟩
      | cons c a =>
        obtain ⟨rfl, -⟩ := List.cons.inj hv
        have hmem : ':' ∈ ("--" ++ b).toList := by
          rw [ha]
          simp
        rw [hdelimiter] at hmem
        exact absurd hmem (by simp [hcolon])
    · exact ⟨q, hq, hv⟩
  obtain ⟨p, hp, hpread, hfollows⟩ := exists_prefix_of_follows hfollows
  -- So the line that was read starts with the delimiter and what follows it, as do its octets.
  rw [PartHeaders.textLines, ← Utf8.map_decodeLossy_pieces] at hl
  obtain ⟨octets, hoctets, rfl⟩ := List.mem_map.1 hl
  have hstart : ("--" ++ b).toList ++ p <+: Utf8.decodeLossy octets := by
    rw [hq] at hname
    exact (List.prefix_append_right_inj _).2 hp |>.trans hname
  obtain ⟨rest, hrest⟩ := hstart
  have hmem : '\uFFFD' ∉ ("--" ++ b).toList ++ p := by
    rw [List.mem_append, hdelimiter]
    simp [hread, hpread]
  obtain ⟨t, rfl, -⟩ := Utf8.eq_append_of_decodeLossy hmem hrest.symm
  have hline : IsLine (ofBoundary b) (Utf8.encode (("--" ++ b).toList ++ p) ++ t) :=
    ⟨Utf8.encode p ++ t, by rw [Utf8.encode_append, List.append_assoc]; rfl, hfollows t⟩
  exact hpart (hasLine_of_headerBlock (ofBoundary_ne_nil b) h13 h10
    (hasLine_of_mem_pieces h10 hoctets hline))

end Part
end SealingProxy
