import SealingProxy.Proofs.InterleavedCalls
/-! # What one access changes

An access fills one name at most and empties one at most. The names that a call fills are the record
that it puts and a name of its own, under which no other call writes. So what a call has left under
its own name is what it finds there later, unless a cleanup has removed it. -/

namespace SealingProxy

namespace Directory

/-- If anything stands under the name, it is a file with this content. -/
def HoldsAtMost (d : Directory) (name : String) (content : Bytes) : Prop :=
  ∀ node, d.find? name = some node → ∃ modified, node = .file content modified

variable {d d' : Directory} {name : String} {content : Bytes}

theorem HoldsAtMost.of_find? (h : d.HoldsAtMost name content)
    (hfind : d'.find? name = d.find? name ∨ d'.find? name = none) : d'.HoldsAtMost name content := by
  intro node hnode
  rcases hfind with hsame | hnone
  · exact h node (hsame ▸ hnode)
  · rw [hnone] at hnode
    cases hnode

theorem HoldsAtMost.ne_folder (h : d.HoldsAtMost name content) (modified : Instant) :
    d.find? name ≠ some (.folder modified) := by
  intro hfolder
  obtain ⟨_, hfile⟩ := h _ hfolder
  cases hfile

theorem HoldsAtMost.of_read (h : d.HoldsAtMost name content) {bytes : Bytes}
    (hread : d.read name = .ok bytes) : bytes = content := by
  obtain ⟨modified, hfile⟩ := read_eq_ok_iff.1 hread
  obtain ⟨modified', hnode⟩ := h _ hfile
  exact (Node.file.inj hnode).1

end Directory

namespace StoreCall
open Directory DirectoryStore

/-- The name under which the next access puts a node, if it succeeds. -/
def fills? : StoreCall → Option String
  | staging token _ _ => some (temporaryName token)
  | publishing _ id => some (recordName id)
  | claiming token id => some (claimName id token)
  | _ => none

/-- The name from which the next access takes a node away, if it succeeds. -/
def empties? : StoreCall → Option String
  | publishing token _ | withdrawing token _ => some (temporaryName token)
  | claiming _ id => some (recordName id)
  | discarding token id _ => some (claimName id token)
  | removing name _ _ => some name
  | _ => none

def ownName? : StoreCall → Option String
  | staging token _ _ | publishing token _ | withdrawing token _ => some (temporaryName token)
  | claiming token id | reading token id | discarding token id _ => some (claimName id token)
  | _ => none

variable {ttl : Nat} {now : Instant} {d d' : Directory} {c first : StoreCall} {name : String}

theorem ownName?_or_of_fills? (h : c.fills? = some name) :
    c.ownName? = some name ∨ ∃ token id, c = publishing token id ∧ name = recordName id := by
  cases c with
  | staging token id session => exact .inl h
  | publishing token id => exact .inr ⟨token, id, rfl, (Option.some.inj h).symm⟩
  | claiming token id => exact .inl h
  | _ => cases h

theorem ownName?_or_of_empties? (h : c.empties? = some name) :
    c.ownName? = some name ∨ c.condemned? = some name ∨
      ∃ token id, c = claiming token id ∧ name = recordName id := by
  cases c with
  | publishing | withdrawing | discarding => exact .inl h
  | claiming token id => exact .inr (.inr ⟨token, id, rfl, (Option.some.inj h).symm⟩)
  | removing => exact .inr (.inl h)
  | _ => cases h

theorem ne_recordName_of_ownName? (h : c.ownName? = some name) (id : String) :
    name ≠ recordName id := by
  cases c with
  | staging token | publishing token | withdrawing token =>
    obtain rfl := Option.some.inj h
    exact temporaryName_ne_recordName token id
  | claiming token id' | reading token id' | discarding token id' =>
    obtain rfl := Option.some.inj h
    exact (recordName_ne_claimName id id' token).symm
  | _ => cases h

theorem find?_of_rename {source target : String} (hrename : d.rename source target = .ok d')
    (htarget : name ≠ target) :
    d'.find? name = d.find? name ∨ source = name ∧ d'.find? name = none := by
  obtain ⟨_, -, -, hfind⟩ := of_rename_ok hrename
  rw [hfind, if_neg htarget]
  split
  · next h => exact .inr ⟨h.symm, rfl⟩
  · exact .inl rfl

/-- What stands under a name that is not filled stays there, or it is taken away. -/
theorem find?_step (hfill : c.fills? ≠ some name) :
    (c.step ttl now d).2.find? name = d.find? name ∨
      c.empties? = some name ∧ (c.step ttl now d).2.find? name = none := by
  cases c with
  | staging token id session =>
    rw [step]
    cases hstage : stage d now token session with
    | error e => exact .inl rfl
    | ok staged =>
      obtain ⟨-, rfl⟩ := of_stage_eq_ok hstage
      have hne : name ≠ temporaryName token := fun h => hfill (congrArg some h.symm)
      exact .inl (by rw [find?_place, if_neg hne])
  | publishing token id =>
    rw [step]
    cases hpublish : publish d token id with
    | error e => exact .inl rfl
    | ok published =>
      have hne : name ≠ recordName id := fun h => hfill (congrArg some h.symm)
      exact (find?_of_rename (publish_eq_ok_iff.1 hpublish) hne).imp_right
        (And.imp_left (congrArg some))
  | withdrawing token e =>
    rw [step, find?_vacate]
    split
    · next h => exact .inr ⟨congrArg some h.symm, rfl⟩
    · exact .inl rfl
  | claiming token id =>
    rw [step]
    cases hclaim : claim d token id with
    | error e => exact .inl rfl
    | ok claimed =>
      have hne : name ≠ claimName id token := fun h => hfill (congrArg some h.symm)
      exact (find?_of_rename (claim_eq_ok_iff.1 hclaim) hne).imp_right
        (And.imp_left (congrArg some))
  | reading => exact .inl rfl
  | discarding token id content =>
    rw [step]
    by_cases h : name = claimName id token
    · subst h
      exact (find?_discard_eq_or d _ _).imp_right fun hnone => ⟨rfl, hnone⟩
    · exact .inl (find?_discard_of_ne h d)
  | listing =>
    rw [step]
    cases d.list <;> exact .inl rfl
  | visiting names count =>
    cases names with
    | nil => exact .inl rfl
    | cons other names =>
      rw [step]
      cases isDead ttl now other d with
      | error e => exact .inl rfl
      | ok dead => cases dead <;> exact .inl rfl
  | removing other names count =>
    rw [step]
    dsimp only
    rw [fst_removeDead]
    by_cases h : name = other
    · subst h
      exact (find?_discard_eq_or d _ _).imp_right fun hnone => ⟨rfl, hnone⟩
    · exact .inl (find?_discard_of_ne h d)
  | put | taken | cleaned => exact .inl rfl

def isStart : StoreCall → Bool
  | staging _ _ _ | claiming _ _ | listing => true
  | _ => false

/-- How far a call can have come from its start. A call that is about to publish finds nothing but the
record it wrote. -/
def Follows (d : Directory) (first : StoreCall) : StoreCall → Prop
  | staging token id session => first = staging token id session
  | publishing token id =>
    ∃ session, first = staging token id session ∧
      d.HoldsAtMost (temporaryName token) session.write
  | withdrawing token _ => ∃ id session, first = staging token id session
  | put _ => ∃ token id session, first = staging token id session
  | claiming token id | reading token id | discarding token id _ => first = claiming token id
  | taken _ => ∃ token id, first = claiming token id
  | listing | visiting _ _ | removing _ _ _ | cleaned _ => first = listing

theorem follows_self (h : c.isStart) (d : Directory) : Follows d c c := by
  cases c with
  | staging | claiming | listing => rfl
  | _ => cases h

theorem ownName?_of_follows (h : Follows d first c) (hname : c.ownName? = some name) :
    first.ownName? = some name := by
  cases c with
  | staging | claiming | reading | discarding =>
    obtain rfl := h
    exact hname
  | publishing token id =>
    obtain ⟨session, rfl, -⟩ := h
    exact hname
  | withdrawing token e =>
    obtain ⟨id, session, rfl⟩ := h
    exact hname
  | _ => cases hname

theorem Follows.of_find? (h : Follows d first c)
    (hfind : ∀ name, c.ownName? = some name → d'.find? name = d.find? name ∨ d'.find? name = none) :
    Follows d' first c := by
  cases c with
  | publishing token id =>
    obtain ⟨session, hfirst, hheld⟩ := h
    exact ⟨session, hfirst, hheld.of_find? (hfind _ rfl)⟩
  | _ => exact h

theorem Follows.step (h : Follows d first c) :
    Follows (c.step ttl now d).2 first (c.step ttl now d).1 := by
  cases c with
  | staging token id session =>
    rw [StoreCall.step]
    cases hstage : stage d now token session with
    | error e => exact ⟨token, id, session, h⟩
    | ok staged =>
      obtain ⟨⟨nodes, hnodes⟩, rfl⟩ := of_stage_eq_ok hstage
      refine ⟨session, h, fun node hnode => ⟨now, ?_⟩⟩
      rw [find?_place, if_pos rfl, hnodes] at hnode
      exact (Option.some.inj hnode).symm
  | publishing token id =>
    obtain ⟨session, hfirst, -⟩ := h
    rw [StoreCall.step]
    cases publish d token id with
    | error e => exact ⟨id, session, hfirst⟩
    | ok published => exact ⟨token, id, session, hfirst⟩
  | withdrawing token e =>
    obtain ⟨id, session, hfirst⟩ := h
    exact ⟨token, id, session, hfirst⟩
  | claiming token id =>
    rw [StoreCall.step]
    cases claim d token id with
    | error e => exact ⟨token, id, h⟩
    | ok claimed => exact h
  | reading => exact h
  | discarding token id content => exact ⟨token, id, h⟩
  | listing =>
    rw [StoreCall.step]
    cases d.list <;> exact h
  | visiting names count =>
    cases names with
    | nil => exact h
    | cons name names =>
      rw [StoreCall.step]
      cases isDead ttl now name d with
      | error e => exact h
      | ok dead => cases dead <;> exact h
  | removing => exact h
  | put | taken | cleaned => exact h

end StoreCall

namespace Traffic
open Directory DirectoryStore

variable {ι : Type} [DecidableEq ι]

/-- No call has begun, and no two calls make a file of the same name. -/
structure Begins (s : Traffic ι) : Prop where
  isStart : ∀ i, (s.calls i).isStart
  ownName_injective : ∀ i j name, (s.calls i).ownName? = some name →
    (s.calls j).ownName? = some name → i = j

omit [DecidableEq ι] in
/-- The names of finitely many calls can be compared. -/
theorem begins_of_distinct {s : Traffic ι} (hstart : ∀ i, (s.calls i).isStart)
    (hdistinct : ∀ i j, (s.calls i).ownName?.isSome →
      (s.calls i).ownName? = (s.calls j).ownName? → i = j) : s.Begins where
  isStart := hstart
  ownName_injective i j name hi hj := hdistinct i j (by rw [hi]; rfl) (hi.trans hj.symm)

def Follows (first s : Traffic ι) : Prop :=
  ∀ i, StoreCall.Follows s.directory (first.calls i) (s.calls i)

variable {ttl : Nat} {first s : Traffic ι} {turn : Turn ι} {i : ι} {name : String}

omit [DecidableEq ι] in
/-- No other call writes under the own name of a call. -/
theorem Follows.fills?_ne (h : first.Follows s) (hfirst : first.Begins) {j : ι} (hne : i ≠ j)
    (hname : (s.calls i).ownName? = some name) : (s.calls j).fills? ≠ some name := by
  intro hfill
  rcases StoreCall.ownName?_or_of_fills? hfill with hown | ⟨_, id, -, hrecord⟩
  · exact hne (hfirst.ownName_injective i j name (StoreCall.ownName?_of_follows (h i) hname)
      (StoreCall.ownName?_of_follows (h j) hown))
  · exact StoreCall.ne_recordName_of_ownName? hname id hrecord

omit [DecidableEq ι] in
/-- A call that renames its file leaves the record of the session that it puts. -/
theorem Follows.exists_of_publish (h : first.Follows s) {token id : String}
    (hcall : s.calls i = .publishing token id) {published : Directory}
    (hpublish : publish s.directory token id = .ok published) :
    ∃ session modified, first.calls i = .staging token id session ∧
      ∀ name, published.find? name =
        if name = recordName id then some (.file session.write modified)
        else if name = temporaryName token then none else s.directory.find? name := by
  obtain ⟨session, hstarts, hheld⟩ := hcall ▸ h i
  obtain ⟨node, hnode, -, hfind⟩ := of_rename_ok (publish_eq_ok_iff.1 hpublish)
  obtain ⟨modified, rfl⟩ := hheld node hnode
  exact ⟨session, modified, hstarts, hfind⟩

theorem Follows.find?_ownName (h : first.Follows s) (hfirst : first.Begins)
    (hne : i ≠ turn.caller) (hname : (s.calls i).ownName? = some name) :
    (s.step ttl turn).directory.find? name = s.directory.find? name ∨
      (s.step ttl turn).directory.find? name = none :=
  (StoreCall.find?_step (h.fills?_ne hfirst hne hname)).imp_right And.right

theorem Follows.step (h : first.Follows s) (hfirst : first.Begins) :
    first.Follows (s.step ttl turn) := by
  intro i
  by_cases hi : i = turn.caller
  · subst hi
    rw [calls_step_caller]
    exact (h turn.caller).step
  · rw [calls_step_of_ne hi]
    exact (h i).of_find? fun name hname => h.find?_ownName hfirst hi hname

theorem Begins.follows_run (h : first.Begins) (ttl : Nat) (turns : List (Turn ι)) :
    first.Follows (first.run ttl turns) := by
  induction turns using List.reverseRecOn with
  | nil => exact fun i => StoreCall.follows_self (h.isStart i) _
  | append_singleton turns turn ih =>
    rw [run_concat]
    exact ih.step h

/-- Nothing comes to stand under a name that is neither that of a record nor that of a call. -/
theorem Begins.find?_run_eq_none (h : first.Begins) (hrecord : ∀ id, name ≠ recordName id)
    (hown : ∀ i, (first.calls i).ownName? ≠ some name) (hnone : first.directory.find? name = none)
    (turns : List (Turn ι)) : (first.run ttl turns).directory.find? name = none := by
  induction turns using List.reverseRecOn with
  | nil => exact hnone
  | append_singleton turns turn ih =>
    have hfollows := h.follows_run ttl turns
    rw [run_concat]
    generalize first.run ttl turns = s at ih hfollows ⊢
    have hfill : (s.calls turn.caller).fills? ≠ some name := by
      intro hfill
      rcases StoreCall.ownName?_or_of_fills? hfill with hname | ⟨_, id, -, hid⟩
      · exact hown _ (StoreCall.ownName?_of_follows (hfollows _) hname)
      · exact hrecord id hid
    rcases StoreCall.find?_step hfill with hsame | ⟨-, hgone⟩
    · exact hsame.trans ih
    · exact hgone

end Traffic
end SealingProxy
