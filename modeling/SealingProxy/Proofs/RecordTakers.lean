import Mathlib.Data.Fin.VecNotation
import Mathlib.Data.Fintype.Basic
import Mathlib.Tactic.FinCases
import SealingProxy.Proofs.CallEffects
import SealingProxy.Proofs.SessionRecords
/-! # Each record is taken once

A record that was put is in one place at a time: under its name, or with the one call that renamed
it to a claim. Whatever the turns of puts, takes and cleanups, every take that returns a session has
it from a put of its own, which wrote this session under the same id. -/

namespace SealingProxy

namespace StoreCall

def id? : StoreCall → Option String
  | staging _ id _ | publishing _ id | claiming _ id | reading _ id | discarding _ id _ => some id
  | _ => none

end StoreCall

namespace Traffic
open Directory DirectoryStore

variable {ι : Type} [DecidableEq ι]

/-- The digests of the ids of all calls tell these ids apart. -/
def HasDistinctDigests (s : Traffic ι) : Prop :=
  ∀ i j id id', (s.calls i).id? = some id → (s.calls j).id? = some id' →
    digest id = digest id' → id = id'

/-- Every session that is put was created at an instant that can be written. -/
def PutsValid (s : Traffic ι) : Prop :=
  ∀ i token id session, s.calls i = .staging token id session → session.createdAt.IsValid

inductive Whereabouts (ι : Type) where
  | record (name : String)
  | taker (i : ι)

/-- The put has ended well, and this has become of its record. -/
structure IsFrom (first s : Traffic ι) (place : ι → Option (Whereabouts ι)) (w : Whereabouts ι)
    (id : String) (session : Session) (j : ι) : Prop where
  starts : ∃ token, first.calls j = .staging token id session
  ends : s.calls j = .put (.ok ())
  place_eq : place j = some w

/-- What a take has seen of a record is from one put of its id. -/
def Sees (first s : Traffic ι) (place : ι → Option (Whereabouts ι)) (i : ι) : StoreCall → Prop
  | .reading token id => ∃ session j, IsFrom first s place (.taker i) id session j ∧
      s.directory.HoldsAtMost (claimName id token) session.write
  | .discarding _ id content => ∀ bytes, content = .ok bytes →
      ∃ session j, IsFrom first s place (.taker i) id session j ∧ bytes = session.write
  | .taken result => ∀ session, result = .ok session →
      ∃ token id j, first.calls i = .claiming token id ∧
        IsFrom first s place (.taker i) id session j
  | _ => True

/-- All records and all that takes have seen of them are from puts, each from one of its own. -/
structure Accounts (first s : Traffic ι) (place : ι → Option (Whereabouts ι)) : Prop where
  follows : first.Follows s
  records : ∀ id node, s.directory.find? (recordName id) = some node →
    ∃ id' session j modified, recordName id' = recordName id ∧
      IsFrom first s place (.record (recordName id)) id' session j ∧
      node = .file session.write modified
  sees : ∀ i, Sees first s place i (s.calls i)

variable {ttl : Nat} {first s : Traffic ι} {turn : Turn ι} {i j : ι} {id : String}
variable {place place' : ι → Option (Whereabouts ι)} {w : Whereabouts ι} {session : Session}

/-- A put that has ended makes no more turns. -/
theorem IsFrom.step (h : IsFrom first s place w id session j) (hplace : place' j = place j) :
    IsFrom first (s.step ttl turn) place' w id session j where
  starts := h.starts
  ends := by
    by_cases hj : j = turn.caller
    · rw [hj, calls_step_caller, ← hj, h.ends]
      rfl
    · rw [calls_step_of_ne hj, h.ends]
  place_eq := hplace.trans h.place_eq

/-- Calls other than the caller have seen what they saw, unless the place of it is changed. -/
theorem Sees.step (h : Sees first s place i (s.calls i)) (hfollows : first.Follows s)
    (hfirst : first.Begins) (hi : i ≠ turn.caller)
    (hplace : ∀ id session j, IsFrom first s place (.taker i) id session j → place' j = place j) :
    Sees first (s.step ttl turn) place' i ((s.step ttl turn).calls i) := by
  have hown (name : String) (hname : (s.calls i).ownName? = some name) :
      (s.step ttl turn).directory.find? name = s.directory.find? name ∨
        (s.step ttl turn).directory.find? name = none :=
    hfollows.find?_ownName hfirst hi hname
  rw [calls_step_of_ne hi]
  generalize s.calls i = c at h hown ⊢
  cases c with
  | reading token id =>
    obtain ⟨session, j, hfrom, hheld⟩ := h
    exact ⟨session, j, hfrom.step (hplace _ _ _ hfrom), hheld.of_find? (hown _ rfl)⟩
  | discarding token id content =>
    intro bytes hbytes
    obtain ⟨session, j, hfrom, heq⟩ := h bytes hbytes
    exact ⟨session, j, hfrom.step (hplace _ _ _ hfrom), heq⟩
  | taken result =>
    intro session hsession
    obtain ⟨token, id, j, hasked, hfrom⟩ := h session hsession
    exact ⟨token, id, j, hasked, hfrom.step (hplace _ _ _ hfrom)⟩
  | _ => trivial

omit [DecidableEq ι] in
theorem sees_of_isCleanUp {c : StoreCall} (h : c.IsCleanUp) : Sees first s place i c := by
  cases c with
  | listing | visiting | removing | cleaned => trivial
  | _ => exact h.elim

/-- Only a put fills the name of a record. -/
theorem find?_recordName_step (h : ∀ token id, s.calls turn.caller ≠ .publishing token id)
    (id : String) :
    (s.step ttl turn).directory.find? (recordName id) = s.directory.find? (recordName id) ∨
      (s.step ttl turn).directory.find? (recordName id) = none := by
  refine (StoreCall.find?_step ?_).imp_right And.right
  intro hfill
  rcases StoreCall.ownName?_or_of_fills? hfill with hown | ⟨token, id', hcall, -⟩
  · exact StoreCall.ne_recordName_of_ownName? hown id rfl
  · exact h token id' hcall

/-- A turn that neither puts a record in its place nor claims one. -/
theorem Accounts.step_of_rest (h : Accounts first s place) (hfirst : first.Begins)
    (hrecords : ∀ id,
      (s.step ttl turn).directory.find? (recordName id) = s.directory.find? (recordName id) ∨
        (s.step ttl turn).directory.find? (recordName id) = none)
    (hsees : Sees first (s.step ttl turn) place turn.caller
      ((s.step ttl turn).calls turn.caller)) :
    Accounts first (s.step ttl turn) place where
  follows := h.follows.step hfirst
  records id node hnode := by
    rcases hrecords id with hsame | hnone
    · obtain ⟨written, session, j, modified, hid, hfrom, heq⟩ := h.records id node (hsame ▸ hnode)
      exact ⟨written, session, j, modified, hid, hfrom.step rfl, heq⟩
    · rw [hnone] at hnode
      cases hnode
  sees i := by
    by_cases hi : i = turn.caller
    · exact hi ▸ hsees
    · exact (h.sees i).step h.follows hfirst hi fun _ _ _ _ => rfl

theorem Accounts.step_of_publish (h : Accounts first s place) (hfirst : first.Begins)
    {token : String} (hcall : s.calls turn.caller = .publishing token id) {published : Directory}
    (hpublish : publish s.directory token id = .ok published) :
    Accounts first (s.step ttl turn)
      (Function.update place turn.caller (some (.record (recordName id)))) := by
  have hstep : (s.calls turn.caller).step ttl turn.now s.directory = (.put (.ok ()), published) := by
    rw [hcall, StoreCall.step, hpublish]
  have hcaller : (s.step ttl turn).calls turn.caller = .put (.ok ()) := by
    rw [calls_step_caller, hstep]
  have hdirectory : (s.step ttl turn).directory = published := congrArg Prod.snd hstep
  obtain ⟨session, modified, hstarts, hfind⟩ := h.follows.exists_of_publish hcall hpublish
  -- What was seen before is from puts that had ended, and the caller had not.
  have hplace (w : Whereabouts ι) (other : String) (session : Session) (j : ι)
      (hfrom : IsFrom first s place w other session j) :
      Function.update place turn.caller (some (.record (recordName id))) j = place j := by
    refine Function.update_of_ne (fun hj => ?_) ..
    have hends := hfrom.ends
    rw [hj, hcall] at hends
    cases hends
  refine ⟨h.follows.step hfirst, fun other node hnode => ?_, fun i => ?_⟩
  · rw [hdirectory, hfind] at hnode
    split at hnode
    · next hname =>
      obtain rfl := Option.some.inj hnode
      refine ⟨id, session, turn.caller, modified, hname.symm, ⟨⟨token, hstarts⟩, hcaller, ?_⟩, rfl⟩
      rw [Function.update_self, hname]
    split at hnode
    · cases hnode
    · obtain ⟨written, session, j, modified, hid, hfrom, heq⟩ := h.records other node hnode
      exact ⟨written, session, j, modified, hid, hfrom.step (hplace _ _ _ _ hfrom), heq⟩
  · by_cases hi : i = turn.caller
    · rw [hi, hcaller]
      trivial
    · exact (h.sees i).step h.follows hfirst hi fun other session j => hplace _ other session j

theorem Accounts.step_of_claim (h : Accounts first s place) (hfirst : first.Begins)
    (hdigest : first.HasDistinctDigests)
    {token : String} (hcall : s.calls turn.caller = .claiming token id) {claimed : Directory}
    (hclaim : claim s.directory token id = .ok claimed) :
    ∃ place', Accounts first (s.step ttl turn) place' := by
  have hstep : (s.calls turn.caller).step ttl turn.now s.directory =
      (.reading token id, claimed) := by
    rw [hcall, StoreCall.step, hclaim]
  have hcaller : (s.step ttl turn).calls turn.caller = .reading token id := by
    rw [calls_step_caller, hstep]
  have hdirectory : (s.step ttl turn).directory = claimed := congrArg Prod.snd hstep
  have hasked := h.follows turn.caller
  rw [hcall] at hasked
  obtain ⟨record, hrecord, -, hfind⟩ := of_rename_ok (claim_eq_ok_iff.1 hclaim)
  obtain ⟨written, session, author, modified, hid, hfrom, rfl⟩ := h.records id record hrecord
  obtain ⟨token', hstarts⟩ := hfrom.starts
  have hsame : written = id := hdigest author turn.caller written id (by rw [hstarts]; rfl)
    (by rw [hasked]; rfl) (digest_eq_of_recordName hid)
  subst hsame
  -- The record is no longer under its name, so that its put accounts for the claim instead.
  have hplace (w : Whereabouts ι) (hw : w ≠ .record (recordName written)) (other : String)
      (session : Session) (j : ι) (hother : IsFrom first s place w other session j) :
      Function.update place author (some (.taker turn.caller)) j = place j := by
    refine Function.update_of_ne (fun hj => hw ?_) ..
    have hboth := hother.place_eq
    rw [hj, hfrom.place_eq] at hboth
    exact (Option.some.inj hboth).symm
  refine ⟨Function.update place author (some (.taker turn.caller)), h.follows.step hfirst,
    fun other node hnode => ?_, fun i => ?_⟩
  · rw [hdirectory, hfind, if_neg (recordName_ne_claimName _ _ _)] at hnode
    split at hnode
    · cases hnode
    · next hname =>
      obtain ⟨written', session', j, modified', hid', hother, heq⟩ := h.records other node hnode
      have hw : Whereabouts.record (recordName other) ≠ .record (recordName written) (ι := ι) :=
        fun hw => hname (Whereabouts.record.inj hw)
      exact ⟨written', session', j, modified', hid', hother.step (hplace _ hw _ _ _ hother), heq⟩
  · by_cases hi : i = turn.caller
    · rw [hi, hcaller]
      have hends : (s.step ttl turn).calls author = .put (.ok ()) := (hfrom.step rfl).ends
      refine ⟨session, author, ⟨hfrom.starts, hends, Function.update_self ..⟩,
        fun node hnode => ⟨modified, ?_⟩⟩
      rw [hdirectory, hfind, if_pos rfl] at hnode
      exact (Option.some.inj hnode).symm
    · refine (h.sees i).step h.follows hfirst hi fun other session j =>
        hplace (.taker i) (fun hw => ?_) other session j
      cases hw

omit [DecidableEq ι] in
/-- A session comes only of a content that the take has seen. -/
theorem Sees.exists_of_judge {token : String} {content : Except FileFault Bytes} {now : Instant}
    (h : Sees first s place i (.discarding token id content))
    (hjudge : judge ttl now id content = .ok session) :
    ∃ session' j, IsFrom first s place (.taker i) id session' j ∧
      Session.read? session'.write = some session := by
  cases content with
  | error f => cases hjudge
  | ok bytes =>
    obtain ⟨session', j, hfrom, rfl⟩ := h bytes rfl
    exact ⟨session', j, hfrom, (judge_eq_ok_iff.1 hjudge).1⟩

/-- What the caller sees itself, unless it claims a record. -/
theorem Sees.step_caller (h : Sees first s place turn.caller (s.calls turn.caller))
    (hfollows : first.Follows s) (hvalid : first.PutsValid)
    (hclaim : ∀ token id, s.calls turn.caller = .claiming token id →
      ∃ e, claim s.directory token id = .error e) :
    Sees first (s.step ttl turn) place turn.caller ((s.step ttl turn).calls turn.caller) := by
  have hfirst := hfollows turn.caller
  rw [calls_step_caller]
  generalize s.calls turn.caller = c at h hfirst hclaim ⊢
  cases c with
  | staging token id session =>
    rw [StoreCall.step]
    cases stage s.directory turn.now token session <;> trivial
  | publishing token id =>
    rw [StoreCall.step]
    cases publish s.directory token id <;> trivial
  | claiming token id =>
    obtain ⟨e, he⟩ := hclaim token id rfl
    rw [StoreCall.step, he]
    intro session hsession
    cases hsession
  | reading token id =>
    intro bytes hbytes
    obtain ⟨session, j, hfrom, hheld⟩ := h
    exact ⟨session, j, hfrom.step rfl, hheld.of_read hbytes⟩
  | discarding token id content =>
    intro session hjudge
    obtain ⟨session', j, hfrom, hread⟩ := h.exists_of_judge hjudge
    obtain ⟨token', hstarts⟩ := hfrom.starts
    rw [Session.read?_write_of_isValid (hvalid j token' id session' hstarts)] at hread
    obtain rfl := Option.some.inj hread
    exact ⟨token, id, j, hfirst, hfrom.step rfl⟩
  | taken result =>
    intro session hsession
    obtain ⟨token, id, j, hasked, hfrom⟩ := h session hsession
    exact ⟨token, id, j, hasked, hfrom.step rfl⟩
  | listing | visiting | removing | cleaned =>
    refine sees_of_isCleanUp (StoreCall.IsCleanUp.step_cases ttl turn.now s.directory ?_).1
    trivial
  | withdrawing | put => trivial

theorem Accounts.step (h : Accounts first s place) (hfirst : first.Begins)
    (hdigest : first.HasDistinctDigests) (hvalid : first.PutsValid) (turn : Turn ι) :
    ∃ place', Accounts first (s.step ttl turn) place' := by
  have hsees := h.sees turn.caller
  cases hcall : s.calls turn.caller with
  | publishing token id =>
    cases hpublish : publish s.directory token id with
    | ok published => exact ⟨_, h.step_of_publish hfirst hcall hpublish⟩
    | error e =>
      have hdirectory : (s.step ttl turn).directory = s.directory := by
        rw [Traffic.step, hcall, StoreCall.step, hpublish]
      refine ⟨place, h.step_of_rest hfirst (fun id => .inl (by rw [hdirectory])) ?_⟩
      exact hsees.step_caller h.follows hvalid fun _ _ hclaiming => by cases hcall ▸ hclaiming
  | claiming token id =>
    cases hclaim : claim s.directory token id with
    | ok claimed => exact h.step_of_claim hfirst hdigest hcall hclaim
    | error e =>
      refine ⟨place, h.step_of_rest hfirst
        (find?_recordName_step fun _ _ hpublishing => by cases hcall ▸ hpublishing) ?_⟩
      refine hsees.step_caller h.follows hvalid fun token' id' hclaiming => ⟨e, ?_⟩
      cases hcall ▸ hclaiming
      exact hclaim
  | _ =>
    exact ⟨place, h.step_of_rest hfirst
      (find?_recordName_step fun _ _ hpublishing => by cases hcall ▸ hpublishing)
      (hsees.step_caller h.follows hvalid fun _ _ hclaiming => by cases hcall ▸ hclaiming)⟩

theorem exists_accounts_run (hfirst : first.Begins)
    (hrecords : ∀ id, first.directory.find? (recordName id) = none)
    (hdigest : first.HasDistinctDigests) (hvalid : first.PutsValid) (ttl : Nat)
    (turns : List (Turn ι)) : ∃ place, Accounts first (first.run ttl turns) place := by
  induction turns using List.reverseRecOn with
  | nil =>
    refine ⟨fun _ => none, hfirst.follows_run ttl [], fun id node hnode => ?_, fun i => ?_⟩
    · rw [run, List.foldl_nil, hrecords] at hnode
      cases hnode
    · have hstart := hfirst.isStart i
      rw [run, List.foldl_nil]
      generalize first.calls i = c at hstart ⊢
      cases c with
      | staging | claiming | listing => trivial
      | _ => cases hstart
  | append_singleton turns turn ih =>
    obtain ⟨place, h⟩ := ih
    rw [run_concat]
    exact h.step hfirst hdigest hvalid turn

/-- Whatever the turns of puts, takes and cleanups: each take that returns a session has it from a put
of its own, no other take's, which ended well and wrote this session under the same id. -/
theorem exists_origin_of_taken (hfirst : first.Begins)
    (hrecords : ∀ id, first.directory.find? (recordName id) = none)
    (hdigest : first.HasDistinctDigests) (hvalid : first.PutsValid) (turns : List (Turn ι)) :
    ∃ origin : ι → ι,
      Set.InjOn origin {i | ∃ session, (first.run ttl turns).calls i = .taken (.ok session)} ∧
      ∀ i session, (first.run ttl turns).calls i = .taken (.ok session) →
        ∃ token token' id, first.calls i = .claiming token id ∧
          first.calls (origin i) = .staging token' id session ∧
          (first.run ttl turns).calls (origin i) = .put (.ok ()) := by
  obtain ⟨place, h⟩ := exists_accounts_run hfirst hrecords hdigest hvalid ttl turns
  generalize first.run ttl turns = s at h ⊢
  have hfrom (i : ι) : ∃ j, ∀ session, s.calls i = .taken (.ok session) →
      ∃ token id, first.calls i = .claiming token id ∧
        IsFrom first s place (.taker i) id session j := by
    have hsees := h.sees i
    generalize s.calls i = c at hsees ⊢
    by_cases htaken : ∃ session, c = .taken (.ok session)
    · obtain ⟨session, rfl⟩ := htaken
      obtain ⟨token, id, j, hasked, hj⟩ := hsees session rfl
      refine ⟨j, fun session' hsession => ?_⟩
      cases hsession
      exact ⟨token, id, hasked, hj⟩
    · exact ⟨i, fun session hsession => absurd ⟨session, hsession⟩ htaken⟩
  choose origin horigin using hfrom
  refine ⟨origin, ?_, fun i session hsession => ?_⟩
  · rintro i ⟨session, hi⟩ i' ⟨session', hi'⟩ hsame
    obtain ⟨_, _, -, hfrom⟩ := horigin i session hi
    obtain ⟨_, _, -, hfrom'⟩ := horigin i' session' hi'
    have hplace := hfrom.place_eq
    rw [hsame, hfrom'.place_eq] at hplace
    exact (Whereabouts.taker.inj (Option.some.inj hplace)).symm
  · obtain ⟨token, id, hasked, hfrom⟩ := horigin i session hsession
    obtain ⟨token', hstarts⟩ := hfrom.starts
    exact ⟨token, token', id, hasked, hstarts, hfrom.ends⟩

def catSession : Session :=
  ⟨"photos", "cat.jpg", some "image/jpeg", ⟨0, 0⟩⟩

def dogSession : Session :=
  ⟨"photos", "dog.jpg", none, ⟨60, 500000000⟩⟩

/-- Two puts under different ids, two takes of the first id, and a cleanup. -/
def crowd : Traffic (Fin 5) :=
  ⟨{}, ![.staging "T1" "U1" catSession, .claiming "T2" "U1", .claiming "T3" "U1",
    .staging "T4" "U2" dogSession, .listing]⟩

def crowdTurns : List (Turn (Fin 5)) :=
  [0, 3, 4, 0, 1, 4, 2, 3, 1, 4, 1, 4].map (⟨·, ⟨120, 0⟩⟩)

theorem begins_crowd : crowd.Begins :=
  begins_of_distinct (by decide) (by decide +kernel)

theorem exists_origin_of_taken_cat :
    (crowd.run 604800000000000 crowdTurns).calls 1 = .taken (.ok catSession) ∧
      (crowd.run 604800000000000 crowdTurns).calls 2 = .taken (.error (.notFound "U1")) ∧
      ∃ origin : Fin 5 → Fin 5,
        Set.InjOn origin {i | ∃ session,
          (crowd.run 604800000000000 crowdTurns).calls i = .taken (.ok session)} ∧
        ∀ i session, (crowd.run 604800000000000 crowdTurns).calls i = .taken (.ok session) →
          ∃ token token' id, crowd.calls i = .claiming token id ∧
            crowd.calls (origin i) = .staging token' id session ∧
            (crowd.run 604800000000000 crowdTurns).calls (origin i) = .put (.ok ()) := by
  have hdigest : crowd.HasDistinctDigests := by
    have hdistinct : ∀ i j, ((crowd.calls i).id?.map digest) = ((crowd.calls j).id?.map digest) →
        (crowd.calls i).id? = (crowd.calls j).id? := by decide +kernel
    intro i j id id' hi hj hsame
    have := hdistinct i j (by rw [hi, hj, Option.map_some, Option.map_some, hsame])
    rwa [hi, hj, Option.some.injEq] at this
  have hvalid : crowd.PutsValid := by
    intro i token id session hcall
    fin_cases i <;> cases hcall <;> exact ⟨by decide, by decide⟩
  exact ⟨by decide +kernel, by decide +kernel,
    exists_origin_of_taken begins_crowd (fun _ => rfl) hdigest hvalid crowdTurns⟩

end Traffic
end SealingProxy
