import SealingProxy.Proofs.CheckedScan
import SealingProxy.Proofs.DeliveredContent
/-! # Ranges that are asked for

A header asks for the last bytes of an object, for those from a position on, or for those between
two positions. What it asks for is a range within the object, or the header is refused. Positions
and lengths are words of 64 bits; the resolution is done here once more in such words, where the
position after the last one need not exist. -/

namespace SealingProxy

namespace ByteRange
open Text Decimal

/-! ## What a header asks for -/

/-- The header is one range of bytes, and these two texts stand before and after its dash. Blanks
around the parts do not count, nor does the case of the unit. -/
def HasBounds (header first last : List Char) : Prop :=
  ∃ unit range before after,
    trim header = unit ++ '=' :: range ∧ '=' ∉ unit ∧
    sameLetters (String.ofList (trim unit)) "bytes" = true ∧ ',' ∉ range ∧
    trim range = before ++ '-' :: after ∧ '-' ∉ before ∧
    trim before = first ∧ trim after = last

/-- The range that two bounds ask for in an object of the given length. -/
inductive Asks (length : Nat) : List Char → List Char → ByteRange → Prop
  /-- The last `n` bytes, or all of them if there are fewer. -/
  | suffix {last : List Char} {n : Nat} (hlast : IsWord last n) (hn : 1 ≤ n) :
      Asks length [] last ⟨length - n, length⟩
  /-- The bytes from `a` on. -/
  | rest {first : List Char} {a : Nat} (hfirst : IsWord first a) (ha : a ≤ length) :
      Asks length first [] ⟨a, length⟩
  /-- The bytes from `a` to `b`, as far as there are any. -/
  | span {first last : List Char} {a b : Nat} (hfirst : IsWord first a) (ha : a ≤ length)
      (hlast : IsWord last b) (hb : a ≤ b) : Asks length first last ⟨a, min (b + 1) length⟩

variable {header first last : List Char} {length : Nat} {r : ByteRange}

theorem bounds?_eq_some_iff : bounds? header = some (first, last) ↔ HasBounds header first last := by
  have hunit (unit : List Char) : (trim unit).map Char.toLower = "bytes".toList ↔
      sameLetters (String.ofList (trim unit)) "bytes" = true := by
    have hbytes : lower "bytes" = String.ofList "bytes".toList := by decide
    have hlower : lower (String.ofList (trim unit)) =
        String.ofList ((trim unit).map Char.toLower) := by rw [lower, String.toList_ofList]
    rw [sameLetters, beq_iff_eq, hbytes, hlower, String.ofList_inj]
  constructor
  · intro h
    unfold bounds? at h
    split at h
    · cases h
    · next unit range hequals =>
      obtain ⟨hvalid, hdash⟩ := Option.ite_none_left_eq_some.1 h
      obtain ⟨⟨before, after⟩, hcut, hsides⟩ := Option.map_eq_some_iff.1 hdash
      obtain ⟨rfl, rfl⟩ := Prod.mk.inj hsides
      simp only [Bool.or_eq_true, bne_iff_ne, not_or, not_not, List.contains_iff_mem] at hvalid
      obtain ⟨hequals, hfree⟩ := cut_eq_some hequals
      obtain ⟨hdash, hbefore⟩ := cut_eq_some hcut
      exact ⟨unit, range, before, after, hequals, hfree, (hunit unit).1 hvalid.1, hvalid.2, hdash,
        hbefore, rfl, rfl⟩
  · rintro ⟨unit, range, before, after, hequals, hfree, hbytes, hcomma, hdash, hbefore, rfl, rfl⟩
    have hvalid : ¬((trim unit).map Char.toLower != "bytes".toList || range.contains ',') = true := by
      simpa [(hunit unit).2 hbytes] using hcomma
    rw [bounds?, cut_eq_some_iff.2 ⟨hequals, hfree⟩]
    dsimp only
    rw [if_neg hvalid, cut_eq_some_iff.2 ⟨hdash, hbefore⟩]
    rfl

theorem ofSuffix?_eq_some_iff :
    ofSuffix? last length = some r ↔ ∃ n, IsWord last n ∧ 1 ≤ n ∧ r = ⟨length - n, length⟩ := by
  constructor
  · intro h
    unfold ofSuffix? at h
    split at h
    · cases h
    · next n hread =>
      obtain ⟨hn, hr⟩ := Option.ite_none_left_eq_some.1 h
      exact ⟨n, read?_eq_some_iff.1 hread, Nat.one_le_iff_ne_zero.2 hn, (Option.some.inj hr).symm⟩
  · rintro ⟨n, hlast, hn, rfl⟩
    rw [ofSuffix?, read?_eq_some_iff.2 hlast]
    exact if_neg (Nat.one_le_iff_ne_zero.1 hn)

theorem ofFirst?_eq_some_iff :
    ofFirst? first last length = some r ↔ ∃ a, IsWord first a ∧ a ≤ length ∧
      (last = [] ∧ r = ⟨a, length⟩ ∨
        ∃ b, IsWord last b ∧ a ≤ b ∧ r = ⟨a, min (b + 1) length⟩) := by
  constructor
  · intro h
    unfold ofFirst? at h
    split at h
    · cases h
    next a hfirst =>
    obtain ⟨ha, h⟩ := Option.ite_none_left_eq_some.1 h
    refine ⟨a, read?_eq_some_iff.1 hfirst, Nat.le_of_not_lt ha, ?_⟩
    split at h
    · next hempty =>
      exact .inl ⟨List.isEmpty_iff.1 hempty, (Option.some.inj h).symm⟩
    split at h
    · cases h
    next b hlast =>
    obtain ⟨hb, h⟩ := Option.ite_none_left_eq_some.1 h
    exact .inr ⟨b, read?_eq_some_iff.1 hlast, Nat.le_of_not_lt hb, (Option.some.inj h).symm⟩
  · rintro ⟨a, hfirst, ha, hrest⟩
    rw [ofFirst?, read?_eq_some_iff.2 hfirst]
    dsimp only
    rw [if_neg (Nat.not_lt.2 ha)]
    rcases hrest with ⟨rfl, rfl⟩ | ⟨b, hlast, hb, rfl⟩
    · rfl
    · rw [if_neg (mt List.isEmpty_iff.1 hlast.ne_nil), read?_eq_some_iff.2 hlast]
      exact if_neg (Nat.not_lt.2 hb)

theorem parse?_eq_some_iff {header : String} : parse? header length = some r ↔
    ∃ first last, HasBounds header.toList first last ∧ Asks length first last r := by
  constructor
  · intro h
    unfold parse? at h
    split at h
    · cases h
    next first last hbounds =>
    refine ⟨first, last, bounds?_eq_some_iff.1 hbounds, ?_⟩
    split at h
    · next hempty =>
      obtain ⟨n, hlast, hn, rfl⟩ := ofSuffix?_eq_some_iff.1 h
      obtain rfl := List.isEmpty_iff.1 hempty
      exact .suffix hlast hn
    · obtain ⟨a, hfirst, ha, ⟨rfl, rfl⟩ | ⟨b, hlast, hb, rfl⟩⟩ := ofFirst?_eq_some_iff.1 h
      · exact .rest hfirst ha
      · exact .span hfirst ha hlast hb
  · rintro ⟨first, last, hbounds, hasks⟩
    rw [parse?, bounds?_eq_some_iff.2 hbounds]
    dsimp only
    cases hasks with
    | suffix hlast hn =>
      rw [List.isEmpty_nil, if_pos rfl]
      exact ofSuffix?_eq_some_iff.2 ⟨_, hlast, hn, rfl⟩
    | rest hfirst ha =>
      rw [if_neg (mt List.isEmpty_iff.1 hfirst.ne_nil)]
      exact ofFirst?_eq_some_iff.2 ⟨_, hfirst, ha, .inl ⟨rfl, rfl⟩⟩
    | span hfirst ha hlast hb =>
      rw [if_neg (mt List.isEmpty_iff.1 hfirst.ne_nil)]
      exact ofFirst?_eq_some_iff.2 ⟨_, hfirst, ha, .inr ⟨_, hlast, hb, rfl⟩⟩

/-! ## Words of 64 bits -/

def readWord? (s : List Char) : Option UInt64 :=
  (read? s).map Nat.toUInt64

/-- The next word. The last one stays. -/
def nextWord (n : UInt64) : UInt64 :=
  if n.toNat + 1 < UInt64.size then n + 1 else n

def wordsApart (m n : UInt64) : UInt64 :=
  if n ≤ m then m - n else 0

def suffixWords? (last : List Char) (length : UInt64) : Option (UInt64 × UInt64) :=
  match readWord? last with
  | none => none
  | some n => if n = 0 then none else some (wordsApart length n, length)

def firstWords? (first last : List Char) (length : UInt64) : Option (UInt64 × UInt64) :=
  match readWord? first with
  | none => none
  | some a =>
    if length < a then none
    else if last.isEmpty then some (a, length)
    else match readWord? last with
      | none => none
      | some b =>
        if b < a then none
        else some (a, if nextWord b ≤ length then nextWord b else length)

def parseWords? (header : String) (length : UInt64) : Option (UInt64 × UInt64) :=
  match bounds? header.toList with
  | none => none
  | some (first, last) =>
    if first.isEmpty then suffixWords? last length else firstWords? first last length

def ofWords (ends : UInt64 × UInt64) : ByteRange :=
  ⟨ends.1.toNat, ends.2.toNat⟩

theorem toNat_wordsApart (m n : UInt64) : (wordsApart m n).toNat = m.toNat - n.toNat := by
  unfold wordsApart
  split
  · next h => exact UInt64.toNat_sub_of_le m n h
  · next h =>
    rw [UInt64.le_iff_toNat_le] at h
    rw [UInt64.toNat_zero]
    omega

/-- That the next word need not exist does not show, as the length is a word. -/
theorem toNat_ite_nextWord (b length : UInt64) :
    (if nextWord b ≤ length then nextWord b else length).toNat =
      min (b.toNat + 1) length.toNat := by
  have hlength := length.toNat_lt_size
  have hnext : (nextWord b).toNat = min (b.toNat + 1) (UInt64.size - 1) := by
    unfold nextWord
    split
    · next h =>
      have hone : (1 : UInt64).toNat = 1 := rfl
      rw [UInt64.toNat_add, hone, Nat.mod_eq_of_lt h]
      omega
    · have hb := b.toNat_lt_size
      omega
  simp only [UInt64.le_iff_toNat_le, hnext]
  split
  · rw [hnext]
    omega
  · omega

theorem toNat_of_readWord? {s : List Char} {n : UInt64} (h : readWord? s = some n) :
    read? s = some n.toNat := by
  obtain ⟨m, hread, rfl⟩ := Option.map_eq_some_iff.1 h
  obtain ⟨-, -, -, -, -, hlt⟩ := read?_eq_some_iff.1 hread
  rw [hread, Nat.toUInt64_eq, UInt64.toNat_ofNat', Nat.mod_eq_of_lt hlt]

theorem read?_of_readWord?_eq_none {s : List Char} (h : readWord? s = none) : read? s = none :=
  Option.map_eq_none_iff.1 h

theorem map_suffixWords? (last : List Char) (length : UInt64) :
    (suffixWords? last length).map ofWords = ofSuffix? last length.toNat := by
  unfold suffixWords? ofSuffix?
  cases hlast : readWord? last with
  | none => rw [read?_of_readWord?_eq_none hlast]; rfl
  | some n =>
    have hzero : n = 0 ↔ n.toNat = 0 := UInt64.toNat_inj.symm
    rw [toNat_of_readWord? hlast]
    dsimp only
    split
    · next h => rw [if_pos (hzero.1 h)]; rfl
    · next h =>
      rw [if_neg (mt hzero.2 h), ← toNat_wordsApart]
      rfl

theorem map_firstWords? (first last : List Char) (length : UInt64) :
    (firstWords? first last length).map ofWords = ofFirst? first last length.toNat := by
  unfold firstWords? ofFirst?
  cases hfirst : readWord? first with
  | none => rw [read?_of_readWord?_eq_none hfirst]; rfl
  | some a =>
    rw [toNat_of_readWord? hfirst]
    dsimp only
    rw [apply_ite (Option.map ofWords), apply_ite (Option.map ofWords)]
    refine if_congr UInt64.lt_iff_toNat_lt rfl (if_congr Iff.rfl rfl ?_)
    cases hlast : readWord? last with
    | none => rw [read?_of_readWord?_eq_none hlast]; rfl
    | some b =>
      rw [toNat_of_readWord? hlast]
      dsimp only
      rw [apply_ite (Option.map ofWords), ← toNat_ite_nextWord]
      exact if_congr UInt64.lt_iff_toNat_lt rfl rfl

/-- The resolution in words is the one in numbers of any size. -/
theorem map_parseWords? (header : String) (length : UInt64) :
    (parseWords? header length).map ofWords = parse? header length.toNat := by
  unfold parseWords? parse?
  cases bounds? header.toList with
  | none => rfl
  | some bounds =>
    dsimp only
    rw [apply_ite (Option.map ofWords), map_suffixWords?, map_firstWords?]

/-! ## Every header -/

/-- A header is resolved exactly if it asks for a range, to the range that it asks for. In words of 64
bits the range is the same. It lies within the object, so that the slice can be taken. Any other
header is refused, and the failure carries it. -/
theorem resolves_as_asked (header : String) (length : UInt64) :
    (∀ r, parse? header length.toNat = some r ↔
      ∃ first last, HasBounds header.toList first last ∧ Asks length.toNat first last r) ∧
    (parseWords? header length).map ofWords = parse? header length.toNat ∧
    (∀ r, parse? header length.toNat = some r → r.start ≤ r.stop ∧ r.stop ≤ length.toNat) ∧
    ∀ (content : Bytes) (response : Response), content.length = length.toNat →
      (∀ r, parse? header length.toNat = some r →
        Bytes.slice? content r.start r.stop = some (r.slice content)) ∧
      ∀ e, Hooks.deliver (some header) content response = .error e ↔
        parse? header length.toNat = none ∧ e = .invalidRange header := by
  refine ⟨fun r => parse?_eq_some_iff, map_parseWords? header length, fun r => le_of_parse?,
    fun content response hlength => ⟨fun r hr => ?_, fun e => ?_⟩⟩
  · obtain ⟨hstart, hstop⟩ := le_of_parse? hr
    exact Bytes.slice?_of_le hstart (hlength ▸ hstop)
  · rw [← hlength]
    cases hparse : parse? header content.length with
    | none => simp [Hooks.deliver_of_parse?_eq_none hparse, eq_comm]
    | some r =>
      obtain ⟨delivered, hdelivered, -⟩ := Hooks.exists_returnsRange hparse response
      simp [hdelivered]

/-- A last position for which there is no next word, with blanks, a sign and capitals, and a first
position behind the end. -/
theorem resolves_as_asked_far :
    let far := " Bytes = 2 - +18446744073709551615"
    parse? far 7 = some ⟨2, 7⟩ ∧ (parseWords? far 7).map ofWords = some ⟨2, 7⟩ ∧
    Bytes.slice? (utf8 "meowing") 2 7 = some (utf8 "owing") ∧
    Hooks.deliver (some "bytes=8-") (utf8 "meowing") { status := 200 } =
      .error (.invalidRange "bytes=8-") := by
  intro far
  obtain ⟨-, hwords, -, hslices⟩ := resolves_as_asked far 7
  have hfar : parse? far 7 = some ⟨2, 7⟩ := by decide
  have hlength : (utf8 "meowing").length = 7 := by decide
  obtain ⟨-, -, -, hrefused⟩ := resolves_as_asked "bytes=8-" 7
  exact ⟨hfar, hwords.trans hfar, (hslices (utf8 "meowing") { status := 200 } hlength).1 _ hfar,
    ((hrefused (utf8 "meowing") { status := 200 } hlength).2 _).2 ⟨by decide, rfl⟩⟩

end ByteRange
end SealingProxy
