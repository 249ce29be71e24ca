import SealingProxy.Proofs.Calendar
import SealingProxy.Proofs.SealedTexts
import SealingProxy.Proofs.TextPieces
import SealingProxy.Session.Directory
/-! # Laws of the directory

A step changes what stands under the names that it gives or takes away and nothing else. Records,
claims and temporary files never share a name, and the name of a record or of a claim tells the
digest that it was made of. -/

namespace SealingProxy

namespace Text

theorem ne_dot_of_smallHexDigit {v : UInt8} (h : v < 16) : charOfByte (smallHexDigit v) ≠ '.' := by
  have hall : ∀ n : Fin 16, charOfByte (smallHexDigit (UInt8.ofNat n)) ≠ '.' := by decide
  have hv : UInt8.ofNat v.toNat = v := UInt8.ofNat_toNat
  rw [← hv]
  exact hall ⟨v.toNat, h⟩

theorem Hex.toList_encode (s : Bytes) : (Hex.encode s).toList =
    s.flatMap fun b => [charOfByte (smallHexDigit (b / 16)), charOfByte (smallHexDigit (b % 16))] := by
  rw [Hex.encode, ofAscii, String.toList_ofList, List.map_flatMap]
  rfl

theorem Hex.length_encode (s : Bytes) : (Hex.encode s).toList.length = 2 * s.length := by
  rw [Hex.toList_encode]
  induction s with
  | nil => rfl
  | cons b s ih =>
    rw [List.flatMap_cons, List.length_append, ih]
    simp only [List.length_cons, List.length_nil]
    omega

theorem Hex.dot_not_mem_encode (s : Bytes) : '.' ∉ (Hex.encode s).toList := by
  rw [Hex.toList_encode, List.mem_flatMap]
  rintro ⟨b, -, h⟩
  have hquotient : b / 16 < 16 := by
    have := b.toNat_lt
    rw [UInt8.lt_iff_toNat_lt, UInt8.toNat_div]
    change b.toNat / 16 < 16
    omega
  have hremainder : b % 16 < 16 := by
    rw [UInt8.lt_iff_toNat_lt, UInt8.toNat_mod]
    exact Nat.mod_lt _ (by decide)
  rcases List.mem_cons.1 h with h | h
  · exact ne_dot_of_smallHexDigit hquotient h.symm
  · exact ne_dot_of_smallHexDigit hremainder (List.mem_singleton.1 h).symm

end Text

namespace Session

variable {session found : Session} {ttl : Nat} {now later : Instant}

/-- What is expired stays so. A session that was opened in a second number sixty is an exception:
its age drops by a second at midnight. -/
theorem isExpired_eq_false_of_le (hopened : session.createdAt.isLeapSecond = false)
    (hnow : now.isLeapSecond = false) (hlater : later.isLeapSecond = false)
    (hle : now.ticks ≤ later.ticks) (h : session.isExpired ttl later = false) :
    session.isExpired ttl now = false := by
  rw [isExpired, Instant.since_eq_of_regular hlater hopened, decide_eq_false_iff_not] at h
  rw [isExpired, Instant.since_eq_of_regular hnow hopened, decide_eq_false_iff_not]
  omega

theorem ite_isExpired_eq_ok_iff {e : SessionError} :
    (if found.isExpired ttl now then .error e else .ok found) = Except.ok session ↔
      found = session ∧ session.isExpired ttl now = false := by
  cases hexpired : found.isExpired ttl now
  · simp only [Bool.false_eq_true, if_false, Except.ok.injEq]
    exact ⟨fun h => ⟨h, h ▸ hexpired⟩, And.left⟩
  · simp only [if_true, reduceCtorEq, false_iff, not_and, Bool.not_eq_false]
    rintro rfl
    exact hexpired

end Session

namespace Directory

variable {d d' : Directory} {name : String} {node : Node}

theorem find?_filter_ne (nodes : List (String × Node)) (name other : String) :
    (nodes.filter (·.1 != name)).find? (·.1 == other) =
      if other = name then none else nodes.find? (·.1 == other) := by
  rw [List.find?_filter]
  split
  · next h =>
    subst h
    rw [List.find?_eq_none]
    intro p _
    simp
  · next h =>
    congr 1
    funext p
    by_cases hp : p.1 = other
    · subst hp
      simp [h]
    · simp [hp]

theorem find?_vacate (d : Directory) (name other : String) :
    (d.vacate name).find? other = if other = name then none else d.find? other := by
  obtain ⟨_ | nodes⟩ := d
  · simp [find?, vacate]
  · simp only [find?, vacate, Option.map_some, Option.bind_some, find?_filter_ne]
    split <;> rfl

theorem find?_place (d : Directory) (name other : String) (node : Node) :
    (d.place name node).find? other =
      if other = name then d.nodes.map fun _ => node else d.find? other := by
  obtain ⟨_ | nodes⟩ := d
  · simp [find?, place]
  · simp only [find?, place, Option.map_some, Option.bind_some, List.find?_append,
      find?_filter_ne]
    split
    · next h => simp [h]
    · next h => simp [Ne.symm h]

/-- A name that stands for something stands in a directory that is there. -/
theorem exists_nodes_of_find? (h : d.find? name = some node) : ∃ nodes, d.nodes = some nodes := by
  obtain ⟨nodes, hnodes, -⟩ := Option.bind_eq_some_iff.1 h
  exact ⟨nodes, hnodes⟩

/-- What a renaming leaves under each name. -/
theorem of_rename_ok {source target : String} (h : d.rename source target = .ok d') :
    ∃ node, d.find? source = some node ∧
      (∀ modified, d.find? target ≠ some (.folder modified)) ∧
      ∀ other, d'.find? other = if other = target then some node
        else if other = source then none else d.find? other := by
  have hrenamed {node : Node} (hnode : d.find? source = some node) (other : String) :
      ((d.vacate source).place target node).find? other = if other = target then some node
        else if other = source then none else d.find? other := by
    obtain ⟨nodes, hnodes⟩ := exists_nodes_of_find? hnode
    rw [find?_place, find?_vacate, vacate, hnodes]
    rfl
  unfold rename at h
  split at h
  · cases h
  · next node hnode hnone =>
    cases h
    exact ⟨node, hnode, fun _ hfolder => (by rw [hnone] at hfolder; cases hfolder), hrenamed hnode⟩
  · next c t _ _ hnode hfile =>
    cases h
    exact ⟨_, hnode, fun _ hfolder => (by rw [hfile] at hfolder; cases hfolder), hrenamed hnode⟩
  · cases h

/-- A file is renamed unless a folder stands in its way. -/
theorem rename_eq_ok {source target : String} {content : Bytes} {modified : Instant}
    (hfile : d.find? source = some (.file content modified))
    (htarget : ∀ modified, d.find? target ≠ some (.folder modified)) :
    d.rename source target = .ok ((d.vacate source).place target (.file content modified)) := by
  unfold rename
  rw [hfile]
  cases hnode : d.find? target with
  | none => rfl
  | some node =>
    cases node with
    | file => rfl
    | folder modified => exact absurd hnode (htarget modified)

theorem read_eq_ok_iff {content : Bytes} :
    d.read name = .ok content ↔ ∃ modified, d.find? name = some (.file content modified) := by
  unfold read
  split
  · next c t h => simp [h]
  · next h => simp [h]
  · next h => simp [h]

/-- Removing takes away one file or nothing. -/
theorem find?_of_remove_ok (h : d.remove name = .ok d') (other : String) :
    d'.find? other = if other = name then none else d.find? other := by
  unfold remove at h
  split at h
  · cases h
    exact find?_vacate d name other
  · cases h
  · cases h

end Directory

namespace DirectoryStore
open Text Directory

theorem length_digest (id : String) : (digest id).toList.length = 64 := by
  rw [digest, Hex.length_encode, Sha256.length_digest]

theorem dot_not_mem_digest (id : String) : '.' ∉ (digest id).toList :=
  Hex.dot_not_mem_encode _

theorem exists_digest_eq_cons (id : String) :
    ∃ c s, (digest id).toList = c :: s ∧ c ≠ '.' := by
  have hlength := length_digest id
  have hdot := dot_not_mem_digest id
  cases hdigest : (digest id).toList with
  | nil =>
    rw [hdigest] at hlength
    cases hlength
  | cons c s =>
    rw [hdigest, List.mem_cons, not_or] at hdot
    exact ⟨c, s, rfl, Ne.symm hdot.1⟩

theorem toList_recordName (id : String) :
    (recordName id).toList = (digest id).toList ++ ".json".toList :=
  String.toList_append ..

theorem toList_claimName (id token : String) : (claimName id token).toList =
    (digest id).toList ++ (".claimed-".toList ++ token.toList) := by
  rw [claimName, String.toList_append, String.toList_append, List.append_assoc]

theorem digest_eq_of_recordName {id id' : String} (h : recordName id = recordName id') :
    digest id = digest id' := by
  have h := congrArg String.toList h
  rw [toList_recordName, toList_recordName] at h
  exact String.toList_inj.1 (List.append_inj_left h (by rw [length_digest, length_digest]))

theorem digest_eq_of_claimName {id id' token token' : String}
    (h : claimName id token = claimName id' token') : digest id = digest id' := by
  have h := congrArg String.toList h
  rw [toList_claimName, toList_claimName] at h
  exact String.toList_inj.1 (List.append_inj_left h (by rw [length_digest, length_digest]))

theorem recordName_ne_claimName (id id' token : String) : recordName id ≠ claimName id' token := by
  intro h
  have h := congrArg String.toList h
  rw [toList_recordName, toList_claimName] at h
  have hrest := List.append_inj_right h (by rw [length_digest, length_digest])
  simp at hrest

theorem head?_temporaryName (token : String) : (temporaryName token).toList.head? = some '.' := by
  rw [temporaryName, String.toList_append]
  rfl

theorem temporaryName_ne_recordName (token id : String) : temporaryName token ≠ recordName id := by
  intro h
  have hhead := head?_temporaryName token
  obtain ⟨c, s, hdigest, hc⟩ := exists_digest_eq_cons id
  rw [h, toList_recordName, hdigest] at hhead
  exact hc (Option.some.inj hhead)

theorem occursIn_append (s part t : List Char) : occursIn part (s ++ (part ++ t)) = true := by
  induction s with
  | nil =>
    cases hpart : part ++ t with
    | nil => simp [occursIn, (List.append_eq_nil_iff.1 hpart).1]
    | cons c u =>
      rw [List.nil_append, occursIn, ← hpart, List.isPrefixOf_iff_prefix.2 (List.prefix_append part t)]
      rfl
  | cons c s ih => rw [List.cons_append, occursIn, ih, Bool.or_true]

theorem not_occursIn_append {c : Char} {part s : List Char} (hs : c ∉ s) (t : List Char) :
    occursIn (c :: part) (s ++ t) = occursIn (c :: part) t := by
  induction s with
  | nil => rfl
  | cons a s ih =>
    rw [List.mem_cons, not_or] at hs
    rw [List.cons_append, occursIn, ih hs.2, List.isPrefixOf_cons_cons, beq_eq_false_iff_ne.2 hs.1]
    rfl

/-- Claims are among the files that a cleanup removes by their age, and records are not. -/
theorem isPassing_claimName (id token : String) : isPassing (claimName id token) = true := by
  rw [isPassing, toList_claimName, occursIn_append, Bool.or_true]

theorem isPassing_recordName (id : String) : isPassing (recordName id) = false := by
  have hstart : temporaryStart.toList.isPrefixOf (recordName id).toList = false := by
    rw [toList_recordName, Bool.eq_false_iff]
    intro h
    obtain ⟨rest, hrest⟩ := List.isPrefixOf_iff_prefix.1 h
    obtain ⟨c, s, hdigest, hc⟩ := exists_digest_eq_cons id
    rw [hdigest] at hrest
    exact hc (List.cons.inj hrest).1.symm
  have hclaim : occursIn ".claimed-".toList (recordName id).toList = false := by
    rw [toList_recordName]
    exact (not_occursIn_append (dot_not_mem_digest id) _).trans rfl
  rw [isPassing, hstart, hclaim]
  rfl

theorem isRecordName_recordName (id : String) : isRecordName (recordName id) = true := by
  have hsplit : (recordName id).toList = (digest id).toList ++ '.' :: "json".toList :=
    toList_recordName id
  have hcut := cutLast_eq_some_iff.2 ⟨hsplit, by decide⟩
  obtain ⟨c, s, hdigest, -⟩ := exists_digest_eq_cons id
  rw [isRecordName, hcut, hdigest]
  rfl

/-! ## Steps of a store -/

variable {ttl : Nat} {t : Moment} {now : Instant} {id token : String} {d : Directory}
variable {session : Session}

theorem mapError_eq_ok_iff {f : FileFault → SessionError} {r : Except FileFault Directory} :
    r.mapError f = .ok d ↔ r = .ok d := by
  cases r with
  | error e => exact ⟨(nomatch ·), (nomatch ·)⟩
  | ok d' => exact ⟨fun h => congrArg _ (Except.ok.inj h), fun h => congrArg _ (Except.ok.inj h)⟩

theorem of_stage_eq_ok {staged : Directory} (h : stage d now token session = .ok staged) :
    (∃ nodes, d.nodes = some nodes) ∧
      staged = d.place (temporaryName token) (.file session.write now) := by
  unfold stage Directory.create at h
  split at h
  · next nodes hnodes => exact ⟨⟨nodes, hnodes⟩, (Except.ok.inj h).symm⟩
  · cases h

theorem publish_eq_ok_iff {published : Directory} : publish d token id = .ok published ↔
    d.rename (temporaryName token) (recordName id) = .ok published :=
  mapError_eq_ok_iff

theorem claim_eq_ok_iff {claimed : Directory} : claim d token id = .ok claimed ↔
    d.rename (recordName id) (claimName id token) = .ok claimed :=
  mapError_eq_ok_iff

/-- A file that no folder stands in the way of is claimed as it is, with the time of its change. -/
theorem exists_claim_ok {content : Bytes} {modified : Instant}
    (hfile : d.find? (recordName id) = some (.file content modified))
    (hfolder : ∀ modified, d.find? (claimName id token) ≠ some (.folder modified)) :
    ∃ claimed, claim d token id = .ok claimed ∧
      claimed.find? (claimName id token) = some (.file content modified) := by
  have hrename := rename_eq_ok hfile hfolder
  obtain ⟨node, hnode, -, hfind⟩ := of_rename_ok hrename
  exact ⟨_, claim_eq_ok_iff.2 hrename, by rw [hfind, if_pos rfl, ← hnode, hfile]⟩

theorem fst_removeDead (name : String) (d : Directory) (count : Nat) :
    (removeDead name d count).1 = discard d name := by
  unfold removeDead discard
  cases d.remove name <;> rfl

theorem find?_discard_of_ne {name other : String} (h : other ≠ name) (d : Directory) :
    (discard d name).find? other = d.find? other := by
  unfold discard
  split
  · next hremove => rw [find?_of_remove_ok hremove, if_neg h]
  · rfl

/-- Where no folder stands, nothing is left. -/
theorem find?_discard_self {name : String} (h : ∀ modified, d.find? name ≠ some (.folder modified)) :
    (discard d name).find? name = none := by
  unfold discard remove
  cases hnode : d.find? name with
  | none => exact hnode
  | some node =>
    cases node with
    | file => exact (find?_vacate d name name).trans (if_pos rfl)
    | folder modified => exact absurd hnode (h modified)

theorem find?_discard_eq_or (d : Directory) (name other : String) :
    (discard d name).find? other = d.find? other ∨ (discard d name).find? other = none := by
  by_cases h : other = name
  · unfold discard
    split
    · next hremove => exact .inr (by rw [find?_of_remove_ok hremove, if_pos h])
    · exact .inl rfl
  · exact .inl (find?_discard_of_ne h d)

theorem judge_eq_ok_iff {now : Instant} {content : Bytes} :
    judge ttl now id (.ok content) = .ok session ↔
      Session.read? content = some session ∧ session.isExpired ttl now = false := by
  rw [judge]
  cases Session.read? content with
  | none => simp
  | some found =>
    rw [Option.some.injEq]
    exact Session.ite_isExpired_eq_ok_iff

/-- When a session is taken. -/
theorem take_eq_ok_iff : (take ttl t id d).1 = .ok session ↔
    ∃ content modified, d.find? (recordName id) = some (.file content modified) ∧
      (∀ modified, d.find? (claimName id t.token) ≠ some (.folder modified)) ∧
      Session.read? content = some session ∧ session.isExpired ttl t.now = false := by
  constructor
  · intro h
    unfold take at h
    split at h
    · cases h
    · next claimed hclaim =>
      obtain ⟨node, hnode, hfolder, hfind⟩ := of_rename_ok (claim_eq_ok_iff.1 hclaim)
      cases hread : claimed.read (claimName id t.token) with
      | error f =>
        rw [hread] at h
        cases h
      | ok content =>
        obtain ⟨modified, hfile⟩ := read_eq_ok_iff.1 hread
        rw [hfind, if_pos rfl] at hfile
        rw [hread] at h
        exact ⟨content, modified, hnode.trans hfile, hfolder, judge_eq_ok_iff.1 h⟩
  · rintro ⟨content, modified, hfile, hfolder, hsession⟩
    obtain ⟨claimed, hclaim, hfound⟩ := exists_claim_ok hfile hfolder
    have hread : claimed.read (claimName id t.token) = .ok content :=
      read_eq_ok_iff.2 ⟨modified, hfound⟩
    unfold take
    rw [hclaim]
    dsimp only
    rw [hread]
    exact judge_eq_ok_iff.2 hsession

/-- Nothing is taken of a record that is not there, and nothing changes. -/
theorem take_of_absent (h : d.find? (recordName id) = none) :
    take ttl t id d = (.error (.notFound id), d) := by
  have hclaim : claim d t.token id = .error (.notFound id) := by
    rw [claim, rename, h]
    rfl
  rw [take, hclaim]

/-! ## What a cleanup judges dead -/

theorem isDead_claimName (id token : String) : isDead ttl now (claimName id token) d =
    .ok (isLeftBehind d now (claimName id token)) := by
  rw [isDead, isPassing_claimName, if_pos rfl]

theorem isDead_recordName {content : Bytes} {modified : Instant}
    (hfile : d.find? (recordName id) = some (.file content modified))
    (hread : Session.read? content = some session) :
    isDead ttl now (recordName id) d = .ok (session.isExpired ttl now) := by
  have hcontent : d.read (recordName id) = .ok content := Directory.read_eq_ok_iff.2 ⟨modified, hfile⟩
  rw [isDead, isPassing_recordName, isRecordName_recordName, hcontent, isDeadRecord, hread]
  rfl

end DirectoryStore
end SealingProxy
