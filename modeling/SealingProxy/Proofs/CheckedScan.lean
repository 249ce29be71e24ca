import SealingProxy.Proofs.BoundaryRoundTrip
import SealingProxy.Proofs.LineGrammar
/-! # The search with checked bounds

The search for delimiter lines once more, by indices into the body. Each octet is read and each slice
is taken with a check of its bounds, and a bound that does not hold leaves the search without an
answer. It always has an answer, and that is how the grammar of delimiter lines takes the body
apart. -/

namespace SealingProxy

namespace Bytes

/-- The octets between two indices, if these are bounds of the body. -/
def slice? (body : Bytes) (start stop : Nat) : Option Bytes :=
  if start ≤ stop ∧ stop ≤ body.length then some ((body.take stop).drop start) else none

def sliceFrom? (body : Bytes) (start : Nat) : Option Bytes :=
  slice? body start body.length

variable {body : Bytes} {i start stop : Nat}

theorem slice?_of_le (hs : start ≤ stop) (hl : stop ≤ body.length) :
    slice? body start stop = some ((body.take stop).drop start) :=
  if_pos ⟨hs, hl⟩

theorem sliceFrom?_of_le (h : i ≤ body.length) : sliceFrom? body i = some (body.drop i) := by
  rw [sliceFrom?, slice?_of_le h (Nat.le_refl _), List.take_length]

theorem exists_getElem?_of_lt (h : i < body.length) : ∃ b, body[i]? = some b :=
  ⟨body[i], List.getElem?_eq_getElem h⟩

end Bytes

namespace Delimiter
open Bytes

def startsLine? (body : Bytes) (i : Nat) : Option Bool :=
  if i = 0 then some true else (body[i - 1]?).map (· == lineFeed)

def mayFollow? (after : Bytes) : Option Bool :=
  if after.isEmpty || isClosing after then some true
  else (after[0]?).map fun b => b == 13 || b == 10 || b == 32 || b == 9

def isLineAt? (d body : Bytes) (i : Nat) : Option Bool := do
  if !(← startsLine? body i) then return false
  if !d.isPrefixOf (← sliceFrom? body i) then return false
  mayFollow? (← sliceFrom? body (i + d.length))

/-- The first delimiter line from an index on, looked for line by line. -/
def findFrom? (d body : Bytes) (i : Nat) : Option (Option Nat) :=
  if i + d.length ≤ body.length then
    match isLineAt? d body i with
    | none => none
    | some true => some (some i)
    | some false =>
      match sliceFrom? body i with
      | none => none
      | some rest =>
        match rest.idxOf? lineFeed with
        | none => some none
        | some k => findFrom? d body (i + (k + 1))
  else some none
termination_by body.length + 1 - i

/-- Where a part ends that runs from one index up to another: before the line break there. -/
def partEnd? (body : Bytes) (start next : Nat) : Option Nat := do
  if next ≤ start then return next
  if (← body[next - 1]?) != lineFeed then return next
  if next - 1 ≤ start then return next - 1
  if (← body[next - 2]?) != carriageReturn then return next - 1
  return next - 2

theorem le_of_sliceFrom? {body s : Bytes} {i : Nat} (h : sliceFrom? body i = some s) :
    i ≤ body.length := by
  unfold sliceFrom? slice? at h
  split at h
  · next hle => exact hle.1
  · cases h

theorem le_of_findFrom? {d body : Bytes} {i next : Nat}
    (h : findFrom? d body i = some (some next)) : i ≤ next := by
  fun_induction findFrom? d body i with
  | case1 => cases h
  | case2 i => cases h; exact Nat.le_refl _
  | case3 => cases h
  | case4 => cases h
  | case5 i _ _ _ _ k _ ih =>
    have hle := ih h
    omega
  | case6 => cases h

def partsAt? (d body : Bytes) (i : Nat) : Option (Except MultipartError (List Bytes)) :=
  match _h : sliceFrom? body (i + d.length) with
  | none => none
  | some after =>
    if isClosing after then some (.ok [])
    else match after.idxOf? lineFeed with
      | none => some (.error .unexpectedEnd)
      | some k =>
        let start := i + d.length + k + 1
        match _h' : findFrom? d body start with
        | none => none
        | some none => some (.error .unexpectedEnd)
        | some (some next) => do
          let stop ← partEnd? body start next
          let part ← slice? body start stop
          return (← partsAt? d body next).map (part :: ·)
termination_by body.length + 1 - i
decreasing_by
  have hle := le_of_sliceFrom? _h
  have hlt := le_of_findFrom? _h'
  omega

def parts? (d body : Bytes) : Option (Except MultipartError (List Bytes)) :=
  match findFrom? d body 0 with
  | none => none
  | some none => some (.error .missingDelimiter)
  | some (some i) => partsAt? d body i

/-! ## No bound is missed -/

variable {d body : Bytes} {i : Nat}

theorem startsLine?_eq (hi : i ≤ body.length) :
    startsLine? body i = some (decide (StartsLine body i)) := by
  unfold startsLine? StartsLine
  by_cases h : i = 0
  · simp [h]
  · obtain ⟨b, hb⟩ := exists_getElem?_of_lt (show i - 1 < body.length by omega)
    simp [h, hb, beq_eq_decide]

theorem mayFollow?_eq (after : Bytes) : mayFollow? after = some (mayFollow after) := by
  unfold mayFollow
  split
  · rfl
  · simp [mayFollow?, isClosing]
  · next b s hopen =>
    have hnot : isClosing (b :: s) = false := by
      rw [isClosing, Bool.eq_false_iff, ne_eq, List.isPrefixOf_iff_prefix]
      rintro ⟨t, ht⟩
      obtain ⟨rfl, rfl⟩ : b = 45 ∧ s = 45 :: t := by simpa using ht.symm
      exact hopen t rfl rfl
    simp [mayFollow?, hnot]

theorem isLineAt_iff : IsLineAt d body i ↔
    StartsLine body i ∧ d <+: body.drop i ∧ mayFollow (body.drop (i + d.length)) := by
  refine and_congr_right fun _ => ?_
  rw [← List.drop_drop]
  constructor
  · rintro ⟨after, hafter, hfollows⟩
    rw [hafter, List.drop_left]
    exact ⟨List.prefix_append .., mayFollow_iff.2 hfollows⟩
  · rintro ⟨⟨after, hafter⟩, hfollows⟩
    rw [← hafter, List.drop_left] at hfollows
    exact ⟨after, hafter.symm, mayFollow_iff.1 hfollows⟩

theorem isLineAt?_eq (h : i + d.length ≤ body.length) :
    isLineAt? d body i = some (decide (IsLineAt d body i)) := by
  unfold isLineAt?
  rw [startsLine?_eq (by omega), sliceFrom?_of_le (by omega), sliceFrom?_of_le h]
  by_cases hs : StartsLine body i
  · by_cases hd : d <+: body.drop i
    · have hhead := List.isPrefixOf_iff_prefix.2 hd
      simp [isLineAt_iff, hs, hd, hhead, mayFollow?_eq]
    · simp [isLineAt_iff, hs, hd]
  · simp [isLineAt_iff, hs]

theorem nextLine_of_idxOf? {k : Nat} (h : (body.drop i).idxOf? lineFeed = some k) :
    nextLine body i = i + k + 1 := by
  rw [nextLine, List.idxOf_eq_getD_idxOf?, h]
  rfl

theorem length_lt_nextLine (hi : i ≤ body.length) (h : (body.drop i).idxOf? lineFeed = none) :
    body.length < nextLine body i := by
  rw [← Nat.not_le, nextLine_le_iff hi]
  exact List.idxOf?_eq_none_iff.1 h

/-- The search by indices finds the first delimiter line that the grammar has. -/
theorem findFrom?_eq (d body : Bytes) (i : Nat) :
    findFrom? d body i = some (linesFrom d body i).head? := by
  fun_induction findFrom? d body i with
  | case1 i hi hnone =>
    rw [isLineAt?_eq hi] at hnone
    cases hnone
  | case2 i hi hline =>
    rw [isLineAt?_eq hi, Option.some_inj, decide_eq_true_iff] at hline
    rw [linesFrom_of_isLineAt (by omega) hline]
    rfl
  | case3 i hi _ hnone =>
    rw [sliceFrom?_of_le (by omega)] at hnone
    cases hnone
  | case4 i hi hline rest hrest hk =>
    rw [isLineAt?_eq hi, Option.some_inj, decide_eq_false_iff_not] at hline
    rw [sliceFrom?_of_le (by omega)] at hrest
    obtain rfl := Option.some.inj hrest
    have hlen := length_lt_nextLine (show i ≤ body.length by omega) hk
    rw [linesFrom_of_not_isLineAt hline, linesFrom_succ, linesFrom_of_length_lt hlen]
    rfl
  | case5 i hi hline rest hrest k hk ih =>
    rw [isLineAt?_eq hi, Option.some_inj, decide_eq_false_iff_not] at hline
    rw [sliceFrom?_of_le (by omega)] at hrest
    obtain rfl := Option.some.inj hrest
    rw [ih, linesFrom_of_not_isLineAt hline, linesFrom_succ, nextLine_of_idxOf? hk, Nat.add_assoc]
  | case6 i hi =>
    -- no line starts where the delimiter does not fit any more
    cases hlines : linesFrom d body i with
    | nil => rfl
    | cons next rest =>
      obtain ⟨-, hline, hle, hlen⟩ := of_linesFrom_eq_cons hlines
      have hfit := hline.add_length_le hlen
      omega

theorem drop_take_eq_concat {start next : Nat} (hs : start < next) {b : UInt8}
    (hb : body[next - 1]? = some b) :
    (body.take next).drop start = (body.take (next - 1)).drop start ++ [b] := by
  obtain ⟨hlt, rfl⟩ := List.getElem?_eq_some_iff.1 hb
  have htake : body.take next = body.take (next - 1) ++ [body[next - 1]] := by
    rw [List.take_append_getElem, Nat.sub_add_cancel (by omega)]
  rw [htake, List.drop_append_of_le_length (by rw [List.length_take]; omega)]

/-- The part ends where the line break before the next delimiter line starts. -/
theorem slice?_partEnd? {start next : Nat} (hs : start ≤ next) (hl : next ≤ body.length) :
    (partEnd? body start next).bind (slice? body start) =
      some (dropLineEnd ((body.take next).drop start)) := by
  by_cases hempty : next ≤ start
  · obtain rfl := Nat.le_antisymm hs hempty
    have hend : partEnd? body start start = some start := by simp [partEnd?]
    rw [hend, Option.bind_some, slice?_of_le hs hl, List.drop_take_self]
    rfl
  obtain ⟨b, hb⟩ := exists_getElem?_of_lt (show next - 1 < body.length by omega)
  rw [drop_take_eq_concat (by omega) hb]
  by_cases hfeed : b = lineFeed
  case neg =>
    have hend : partEnd? body start next = some next := by simp [partEnd?, hempty, hb, hfeed]
    rw [hend, Option.bind_some, slice?_of_le hs hl, dropLineEnd_concat_of_ne hfeed,
      drop_take_eq_concat (by omega) hb]
  subst hfeed
  by_cases hone : next - 1 ≤ start
  · have hend : partEnd? body start next = some (next - 1) := by
      simp [partEnd?, hempty, hb, hone]
    have hnil : (body.take (next - 1)).drop start = [] := by
      rw [List.drop_eq_nil_iff, List.length_take]
      omega
    rw [hend, Option.bind_some, slice?_of_le (by omega) (by omega), hnil]
    rfl
  obtain ⟨c, hc⟩ := exists_getElem?_of_lt (show next - 1 - 1 < body.length by omega)
  rw [drop_take_eq_concat (by omega) hc]
  by_cases hreturn : c = carriageReturn
  · subst hreturn
    have hend : partEnd? body start next = some (next - 2) := by
      have hc : body[next - 2]? = some carriageReturn := hc
      simp [partEnd?, hempty, hb, hone, hc]
    rw [hend, Option.bind_some, slice?_of_le (by omega) (by omega), List.append_assoc]
    exact congrArg some (dropLineEnd_append_crlf _).symm
  · have hend : partEnd? body start next = some (next - 1) := by
      have hc : body[next - 2]? = some c := hc
      simp [partEnd?, hempty, hb, hone, hc, hreturn]
    rw [hend, Option.bind_some, slice?_of_le (by omega) (by omega),
      dropLineEnd_concat_lineFeed_of_ne hreturn, drop_take_eq_concat (by omega) hc]

theorem partsAt?_of_closing (hstop : i + d.length ≤ body.length) (h : IsClosingAt d body i) :
    partsAt? d body i = some (.ok []) := by
  have hclosing : isClosing (body.drop (i + d.length)) := List.isPrefixOf_iff_prefix.2 h
  rw [partsAt?]
  split
  · next hafter => rw [sliceFrom?_of_le hstop] at hafter; cases hafter
  · next hafter =>
    rw [sliceFrom?_of_le hstop] at hafter
    obtain rfl := Option.some.inj hafter
    rw [if_pos hclosing]

/-- Behind an open delimiter line, the next one ends a part or is missing. -/
theorem partsAt?_of_not_closing (hstop : i + d.length ≤ body.length) (h : ¬IsClosingAt d body i) :
    partsAt? d body i =
      match (linesFrom d body (nextLine body (i + d.length))).head? with
      | none => some (.error .unexpectedEnd)
      | some next => (partsAt? d body next).map (·.map (region d body i next :: ·)) := by
  have hopen : ¬isClosing (body.drop (i + d.length)) := mt List.isPrefixOf_iff_prefix.1 h
  rw [partsAt?]
  split
  · next hafter => rw [sliceFrom?_of_le hstop] at hafter; cases hafter
  · next after hafter =>
    rw [sliceFrom?_of_le hstop] at hafter
    obtain rfl := Option.some.inj hafter
    rw [if_neg hopen]
    cases hk : (body.drop (i + d.length)).idxOf? lineFeed with
    | none =>
      rw [linesFrom_of_length_lt (length_lt_nextLine hstop hk)]
      rfl
    | some k =>
      dsimp only
      rw [nextLine_of_idxOf? hk]
      split
      · next hfind => rw [findFrom?_eq] at hfind; cases hfind
      · next hfind =>
        rw [findFrom?_eq, Option.some_inj] at hfind
        rw [hfind]
      · next next hfind =>
        rw [findFrom?_eq, Option.some_inj] at hfind
        obtain ⟨rest, hlines⟩ := List.head?_eq_some_iff.1 hfind
        obtain ⟨-, -, hle, hlen⟩ := of_linesFrom_eq_cons hlines
        obtain ⟨stop, hstop', hpart⟩ := Option.bind_eq_some_iff.1 (slice?_partEnd? hle hlen)
        rw [hfind, hstop']
        simp only [Option.bind_eq_bind, Option.bind_some, hpart, region, nextLine_of_idxOf? hk]
        cases partsAt? d body next <;> rfl

theorem partsAt?_eq (hd : lineFeed ∉ d) {l : List Nat} (h : linesFrom d body i = i :: l) :
    partsAt? d body i = some (cutAlong d body (i :: l)) := by
  induction l generalizing i with
  | nil =>
    obtain ⟨-, hline, -, hi⟩ := of_linesFrom_eq_cons h
    have hstop := hline.add_length_le hi
    by_cases hclosing : IsClosingAt d body i
    · rw [partsAt?_of_closing hstop hclosing, cutAlong, if_pos hclosing]
    · rw [linesFrom_of_isLineAt_nextLine hd hi hline] at h
      rw [partsAt?_of_not_closing hstop hclosing, (List.cons.inj h).2, cutAlong, if_neg hclosing]
      rfl
  | cons next rest ih =>
    obtain ⟨-, hline, -, hi⟩ := of_linesFrom_eq_cons h
    have hstop := hline.add_length_le hi
    by_cases hclosing : IsClosingAt d body i
    · rw [partsAt?_of_closing hstop hclosing, cutAlong, if_pos hclosing]
    · rw [linesFrom_of_isLineAt_nextLine hd hi hline] at h
      have hrest := (List.cons.inj h).2
      rw [partsAt?_of_not_closing hstop hclosing, hrest, cutAlong, if_neg hclosing]
      have hnext := ih (of_linesFrom_eq_cons hrest).1
      simp [hnext]

theorem parts?_eq (hd : lineFeed ∉ d) (body : Bytes) : parts? d body = some (parts d body) := by
  rw [parts_eq_cutAlong hd, lines_eq_linesFrom]
  unfold parts?
  rw [findFrom?_eq]
  cases hlines : linesFrom d body 0 with
  | nil => rfl
  | cons i l => exact partsAt?_eq hd (of_linesFrom_eq_cons hlines).1

/-- A body is taken apart as the grammar says. Without a delimiter line there is nothing to take apart,
and without a closing one the body ends too early. Else the parts are what lies between one delimiter
line and the next, up to the first closing one. The search with checked bounds finds the same. -/
theorem parts_of_lines {boundary : String} (hb : '\n' ∉ boundary.toList) (body : Bytes) :
    parts? (ofBoundary boundary) body = some (parts (ofBoundary boundary) body) ∧
    (lines (ofBoundary boundary) body = [] →
      parts (ofBoundary boundary) body = .error .missingDelimiter) ∧
    ((∃ i ∈ lines (ofBoundary boundary) body, IsClosingAt (ofBoundary boundary) body i) →
      parts (ofBoundary boundary) body = .ok (List.zipWith (region (ofBoundary boundary) body)
        ((lines (ofBoundary boundary) body).takeWhile fun i =>
          ¬IsClosingAt (ofBoundary boundary) body i)
        (lines (ofBoundary boundary) body).tail)) ∧
    (lines (ofBoundary boundary) body ≠ [] →
      (∀ i ∈ lines (ofBoundary boundary) body, ¬IsClosingAt (ofBoundary boundary) body i) →
      parts (ofBoundary boundary) body = .error .unexpectedEnd) := by
  have hd : lineFeed ∉ ofBoundary boundary := not_mem_ofBoundary (by decide) (by decide) hb
  refine ⟨parts?_eq hd body, ?_⟩
  rw [parts_eq_cutAlong hd]
  refine ⟨fun hnone => ?_, cutAlong_of_closing, cutAlong_of_open⟩
  rw [hnone]
  rfl

/-- Two parts, the first one empty, with text around them and a line that only starts like a delimiter
line. -/
def framedMeow : Bytes := utf8 "hello\n--b\n--b\r\nmeow\r\n--bc\r\n--b-- bye"

theorem parts_of_lines_meow :
    lines (ofBoundary "b") framedMeow = [6, 10, 27] ∧
    parts (ofBoundary "b") framedMeow = .ok [[], utf8 "meow\r\n--bc"] ∧
    parts? (ofBoundary "b") framedMeow = some (.ok [[], utf8 "meow\r\n--bc"]) ∧
    parts (ofBoundary "b") (framedMeow.take 27) = .error .unexpectedEnd ∧
    parts (ofBoundary "b") (framedMeow.take 8) = .error .missingDelimiter := by
  have hb : '\n' ∉ "b".toList := by decide
  have hlines : lines (ofBoundary "b") framedMeow = [6, 10, 27] := by decide +kernel
  obtain ⟨hscan, -, hclosing, -⟩ := parts_of_lines hb framedMeow
  obtain ⟨-, -, -, hopen⟩ := parts_of_lines hb (framedMeow.take 27)
  obtain ⟨-, hnone, -⟩ := parts_of_lines hb (framedMeow.take 8)
  have hparts : parts (ofBoundary "b") framedMeow = .ok [[], utf8 "meow\r\n--bc"] := by
    rw [hclosing ⟨27, by rw [hlines]; decide, by decide +kernel⟩, hlines]
    exact congrArg Except.ok (by decide +kernel)
  exact ⟨hlines, hparts, hparts ▸ hscan, hopen (by decide +kernel) (by decide +kernel),
    hnone (by decide +kernel)⟩

end Delimiter
end SealingProxy
