import SealingProxy.Hooks.Resumable
import SealingProxy.Proofs.Decimals
/-! # Statements about the bytes of a body

A statement says which bytes of how many a body holds. The check of a completion reads it and
compares it with the body in one go. Here the reading stands alone: every statement says one thing,
and it is accepted if what it says is the whole body. -/

namespace SealingProxy

namespace ContentRange
open Text Decimal

/-! ## What a statement says -/

/-- Which bytes a body holds. -/
inductive Statement where
  /-- None of a total. -/
  | nothing (total : Nat)
  /-- Those from a first to a last position, of a total. -/
  | span (first last total : Nat)
  deriving DecidableEq, Repr

namespace Statement

def count : Statement → Nat
  | nothing _ => 0
  | span first last _ => last + 1 - first

def total : Statement → Nat
  | nothing total => total
  | span _ _ total => total

/-- The body holds all bytes there are, and has the given length. The position after the last one is
a word of 64 bits. -/
def IsWhole (length : Nat) : Statement → Prop
  | nothing total => total = 0 ∧ length = 0
  | span first last total =>
    first = 0 ∧ last + 1 < UInt64.size ∧ total = last + 1 ∧ total = length

theorem IsWhole.count_eq {length : Nat} {s : Statement} (h : s.IsWhole length) :
    s.count = length ∧ s.total = length := by
  cases s with
  | nothing total =>
    obtain ⟨rfl, rfl⟩ := h
    exact ⟨rfl, rfl⟩
  | span first last total =>
    obtain ⟨rfl, -, rfl, rfl⟩ := h
    exact ⟨rfl, rfl⟩

end Statement

/-- The text is this statement. What stands before the first slash is a star or has a dash, at the
first of which it is divided. Blanks around a star or a decimal do not count. -/
inductive Says : List Char → Statement → Prop
  | nothing {range total : List Char} {t : Nat} (hslash : '/' ∉ range) (hstar : trim range = ['*'])
      (ht : IsWord (trim total) t) :
      Says ("bytes ".toList ++ (range ++ '/' :: total)) (.nothing t)
  | span {first last total : List Char} {a b t : Nat} (hslash : '/' ∉ first ++ '-' :: last)
      (hdash : '-' ∉ first) (ha : IsWord (trim first) a) (hb : IsWord (trim last) b)
      (ht : IsWord (trim total) t) :
      Says ("bytes ".toList ++ (first ++ '-' :: last ++ '/' :: total)) (.span a b t)

/-! ## Reading a statement -/

def span? (range : List Char) (total : Nat) : Option Statement :=
  (cut '-' range).bind fun (first, last) =>
    (read? (trim first)).bind fun a => (read? (trim last)).map fun b => .span a b total

def statement? (text : List Char) : Option Statement :=
  (dropStart? "bytes ".toList text).bind fun value =>
    (cut '/' value).bind fun (range, total) =>
      (read? (trim total)).bind fun t =>
        if trim range = ['*'] then some (.nothing t) else span? range t

variable {text : List Char} {s : Statement} {length : Nat}

theorem span?_eq_some_iff {range : List Char} {t : Nat} :
    span? range t = some s ↔ ∃ first last a b, range = first ++ '-' :: last ∧ '-' ∉ first ∧
      IsWord (trim first) a ∧ IsWord (trim last) b ∧ s = .span a b t := by
  simp only [span?, Option.bind_eq_some_iff, Option.map_eq_some_iff, Prod.exists, cut_eq_some_iff,
    read?_eq_some_iff]
  constructor
  · rintro ⟨first, last, ⟨hrange, hdash⟩, a, ha, b, hb, rfl⟩
    exact ⟨first, last, a, b, hrange, hdash, ha, hb, rfl⟩
  · rintro ⟨first, last, a, b, hrange, hdash, ha, hb, rfl⟩
    exact ⟨first, last, ⟨hrange, hdash⟩, a, ha, b, hb, rfl⟩

/-- A range with a dash is no star. -/
theorem trim_ne_star {range : List Char} (h : '-' ∈ range) : trim range ≠ ['*'] := by
  intro hstar
  have hdash : '-' ∈ trim range := (mem_trim_iff (by decide)).2 h
  rw [hstar] at hdash
  exact absurd hdash (by decide)

theorem statement?_eq_some_iff : statement? text = some s ↔ Says text s := by
  constructor
  · intro h
    obtain ⟨value, hstart, hvalue⟩ := Option.bind_eq_some_iff.1 h
    obtain ⟨⟨range, total⟩, hcut, hparts⟩ := Option.bind_eq_some_iff.1 hvalue
    obtain ⟨t, ht, hsays⟩ := Option.bind_eq_some_iff.1 hparts
    obtain rfl := dropStart?_eq_some_iff.1 hstart
    obtain ⟨rfl, hslash⟩ := cut_eq_some hcut
    split at hsays
    · next hstar =>
      obtain rfl := Option.some.inj hsays
      exact .nothing hslash hstar (read?_eq_some_iff.1 ht)
    · obtain ⟨first, last, a, b, rfl, hdash, ha, hb, rfl⟩ := span?_eq_some_iff.1 hsays
      exact .span hslash hdash ha hb (read?_eq_some_iff.1 ht)
  · intro h
    have hread {range total : List Char} {t : Nat} (hslash : '/' ∉ range)
        (ht : IsWord (trim total) t) :
        statement? ("bytes ".toList ++ (range ++ '/' :: total)) =
          if trim range = ['*'] then some (.nothing t) else span? range t := by
      rw [statement?, dropStart?_eq_some_iff.2 rfl, Option.bind_some, cut_append_cons hslash,
        Option.bind_some]
      dsimp only
      rw [read?_eq_some_iff.2 ht, Option.bind_some]
    cases h with
    | nothing hslash hstar ht => rw [hread hslash ht, if_pos hstar]
    | span hslash hdash ha hb ht =>
      rw [hread hslash ht, if_neg (trim_ne_star List.mem_append_cons_self)]
      exact span?_eq_some_iff.2 ⟨_, _, _, _, rfl, hdash, ha, hb, rfl⟩

/-- A text says one thing at most. -/
theorem Says.unique {s' : Statement} (h : Says text s) (h' : Says text s') : s = s' :=
  Option.some.inj ((statement?_eq_some_iff.2 h).symm.trans (statement?_eq_some_iff.2 h'))

/-! ## The check -/

instance (length : Nat) : DecidablePred (Statement.IsWhole length)
  | .nothing _ => inferInstanceAs (Decidable (_ ∧ _))
  | .span _ _ _ => inferInstanceAs (Decidable (_ ∧ _ ∧ _ ∧ _))

/-- The check of a range that is no star, whose start may be trimmed already. -/
theorem any_span? (range : List Char) {t : Nat} (ht : t < UInt64.size) (length : Nat) :
    ((span? range t).any fun s => decide (s.IsWhole length)) =
      match cut '-' (trimStart range) with
      | none => false
      | some (first, last) =>
        match read? (trim first), read? (trim last) with
        | some a, some b => a = 0 && b + 1 = t && t = length
        | _, _ => false := by
  rw [span?, cut_trimStart (by decide)]
  cases cut '-' range with
  | none => rfl
  | some sides =>
    obtain ⟨first, last⟩ := sides
    rw [Option.bind_some, Option.map_some]
    dsimp only
    rw [trim_trimStart]
    cases read? (trim first) with
    | none => rfl
    | some a =>
      cases read? (trim last) with
      | none => rfl
      | some b =>
        have hwhole : (a = 0 ∧ b + 1 < UInt64.size ∧ t = b + 1 ∧ t = length) ↔
            (a = 0 ∧ b + 1 = t) ∧ t = length := by omega
        simp [Statement.IsWhole, hwhole]

/-- The check accepts what says that the body is whole. -/
theorem isWhole_eq (text : List Char) (length : Nat) :
    isWhole text length = (statement? text).any fun s => decide (s.IsWhole length) := by
  rw [isWhole, statement?]
  cases dropStart? "bytes ".toList text with
  | none => rfl
  | some value =>
    dsimp only
    rw [Option.bind_some, cut_trim (by decide)]
    cases cut '/' value with
    | none => rfl
    | some parts =>
      obtain ⟨range, total⟩ := parts
      rw [Option.bind_some, Option.map_some]
      dsimp only
      rw [trim_trimStart, trim_dropEndWhile]
      cases hread : read? (trim total) with
      | none => rfl
      | some t =>
        obtain ⟨-, -, -, -, -, ht⟩ := read?_eq_some_iff.1 hread
        dsimp only
        rw [Option.bind_some]
        by_cases hstar : trim range = ['*']
        · rw [if_pos hstar, if_pos hstar]
          exact (Bool.decide_and ..).symm
        · rw [if_neg hstar, if_neg hstar]
          exact (any_span? range ht length).symm

theorem isWhole_iff : isWhole text length = true ↔ ∃ s, Says text s ∧ s.IsWhole length := by
  rw [isWhole_eq, Option.any_eq_true]
  simp [statement?_eq_some_iff]

/-- What clients send with a body in one go. -/
theorem says_span_text {length : Nat} (h : length < UInt64.size) :
    Says (trim ("bytes 0-" ++ Decimal.text (length - 1) ++ "/" ++ Decimal.text length).toList)
      (.span 0 (length - 1) length) := by
  have hword {n : Nat} (hn : n < UInt64.size) : IsWord (trim (write n)) n := by
    rw [trim_write]
    exact read?_eq_some_iff.1 (read?_write hn)
  have hzero : IsWord (trim ['0']) 0 := hword (n := 0) (by decide)
  have hslash : '/' ∉ ['0'] ++ '-' :: write (length - 1) := by
    have hdigits : '/' ∉ write (length - 1) := fun hc =>
      absurd (isDigit_of_mem_write hc) (by decide)
    simpa using hdigits
  have hlist : ("bytes 0-" ++ Decimal.text (length - 1) ++ "/" ++ Decimal.text length).toList =
      "bytes ".toList ++ (['0'] ++ '-' :: write (length - 1) ++ '/' :: write length) := by
    simp
  -- It starts with a letter and ends with a digit.
  have htrim : trim ("bytes ".toList ++ (['0'] ++ '-' :: write (length - 1) ++
      '/' :: write length)) = "bytes ".toList ++ (['0'] ++ '-' :: write (length - 1) ++
      '/' :: write length) := by
    refine trim_eq_self_iff.2 ⟨?_, fun c hc => ?_⟩
    · intro c hc
      obtain rfl : 'b' = c := Option.some.inj hc
      decide
    · have hend : "bytes ".toList ++ (['0'] ++ '-' :: write (length - 1) ++ '/' :: write length) =
          "bytes ".toList ++ (['0'] ++ '-' :: write (length - 1) ++ ['/']) ++ write length := by
        simp
      rw [hend, List.getLast?_append, Option.or_of_isSome (by simp [write_ne_nil])] at hc
      exact isBlank_of_isDigit (isDigit_of_mem_write (List.mem_of_mem_getLast? hc))
  rw [hlist, htrim]
  exact .span hslash (by decide) hzero (hword (by omega)) (hword h)

end ContentRange

namespace Hooks
open Text ContentRange

def SaysWhole (length : Nat) (header : String) : Prop :=
  ∃ s, Says (trim header.toList) s ∧ s.IsWhole length

instance (length : Nat) : DecidablePred (SaysWhole length) := fun header =>
  decidable_of_iff (isWhole (trim header.toList) length = true) isWhole_iff

theorem checkContentRange_eq_ok_iff {header : String} {length : Nat} :
    checkContentRange (some header) length = .ok () ↔ SaysWhole length header := by
  rw [SaysWhole, ← isWhole_iff, checkContentRange]
  cases isWhole (trim header.toList) length <;> simp

theorem checkContentRange_eq_error_iff {header : String} {length : Nat} {e : ProxyError} :
    checkContentRange (some header) length = .error e ↔
      ¬SaysWhole length header ∧ e = .unsupportedByteRange (String.ofList (trim header.toList)) := by
  rw [SaysWhole, ← isWhole_iff, checkContentRange]
  cases isWhole (trim header.toList) length <;> simp [eq_comm]

/-- A body goes without a statement, or with one that says that it is whole; its count of bytes is
then that of the body. Any other statement fails as unsupported, with its text. What clients send
with a body in one go is accepted. -/
theorem accepts_whole_statements (header : Option String) (length : UInt64) :
    (checkContentRange header length.toNat = .ok () ↔
      ∀ text ∈ header, SaysWhole length.toNat text) ∧
    (∀ e, checkContentRange header length.toNat = .error e ↔
      ∃ text ∈ header, ¬SaysWhole length.toNat text ∧
        e = .unsupportedByteRange (String.ofList (trim text.toList))) ∧
    (checkContentRange header length.toNat = .ok () →
      ∀ text ∈ header, ∀ s, Says (trim text.toList) s →
        s.count = length.toNat ∧ s.total = length.toNat) ∧
    (0 < length → checkContentRange (some ("bytes 0-" ++ Decimal.text (length.toNat - 1) ++ "/" ++
      Decimal.text length.toNat)) length.toNat = .ok ()) := by
  refine ⟨?_, fun e => ?_, ?_, fun hlength => ?_⟩
  · cases header with
    | none => simp [checkContentRange]
    | some text => simpa using checkContentRange_eq_ok_iff
  · cases header with
    | none => simp [checkContentRange]
    | some text => simpa using checkContentRange_eq_error_iff
  · rintro hok text htext s hs
    obtain rfl : header = some text := htext
    obtain ⟨whole, hsays, hwhole⟩ := checkContentRange_eq_ok_iff.1 hok
    obtain rfl := hsays.unique hs
    exact hwhole.count_eq
  · have hpos : 0 < length.toNat := UInt64.lt_iff_toNat_lt.1 hlength
    have hsize := length.toNat_lt_size
    exact checkContentRange_eq_ok_iff.2 ⟨_, says_span_text hsize, rfl, by omega, by omega, rfl⟩

/-- Statements with blanks and a sign, of no bytes, and as clients send it; one without the first byte,
and one behind which there is no next position. -/
theorem accepts_whole_statements_spaced :
    let far := "bytes 0-18446744073709551615/0"
    checkContentRange (some " bytes 0 - +3 / 4 ") 4 = .ok () ∧
    checkContentRange (some "bytes */0") 0 = .ok () ∧
    checkContentRange (some "bytes 0-3/4") 4 = .ok () ∧
    checkContentRange (some "bytes 1-4/4") 4 = .error (.unsupportedByteRange "bytes 1-4/4") ∧
    checkContentRange (some far) 0 = .error (.unsupportedByteRange far) := by
  intro far
  have hspan : SaysWhole 4 " bytes 0 - +3 / 4 " := by decide
  have hnothing : SaysWhole 0 "bytes */0" := by decide
  have hpart : ¬SaysWhole 4 "bytes 1-4/4" := by decide
  have hfar : ¬SaysWhole 0 far := by decide
  refine ⟨(accepts_whole_statements _ 4).1.2 ?_, (accepts_whole_statements _ 0).1.2 ?_,
    (accepts_whole_statements none 4).2.2.2 (by decide),
    ((accepts_whole_statements _ 4).2.1 _).2 ⟨_, rfl, hpart, by decide⟩,
    ((accepts_whole_statements _ 0).2.1 _).2 ⟨_, rfl, hfar, by decide⟩⟩
  · exact fun text htext => Option.mem_some.1 htext ▸ hspan
  · exact fun text htext => Option.mem_some.1 htext ▸ hnothing

end Hooks
end SealingProxy
