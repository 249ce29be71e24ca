import Mathlib.Data.Fin.VecNotation
import Mathlib.Data.Fintype.Basic
import SealingProxy.Proofs.CallEffects
import SealingProxy.Proofs.SessionRecords
/-! # A session put beside cleanups

A cleanup reads a record and removes it in two accesses. A put that comes between the two has its
record removed in place of the one that was read. This is the only way that a cleanup can take a
session away that is alive: one that has not condemned the name by the time the record comes to its
place leaves it there for the next take. -/

namespace SealingProxy

namespace StoreCall
open Directory DirectoryStore

/-- The record that an access has put in its place or taken away, by the states of the call before
and after it. -/
def renamed? : StoreCall → StoreCall → Option String
  | publishing _ id, put (.ok _) => some (recordName id)
  | claiming _ id, reading _ _ => some (recordName id)
  | _, _ => none

variable {ttl : Nat} {now : Instant} {d : Directory} {c : StoreCall} {id name : String}

/-- A record that is neither put nor taken stays, unless it was condemned. -/
theorem find?_step_of_unrenamed (h : renamed? c (c.step ttl now d).1 ≠ some (recordName id)) :
    (c.step ttl now d).2.find? (recordName id) = d.find? (recordName id) ∨
      c.condemned? = some (recordName id) ∧
        (c.step ttl now d).2.find? (recordName id) = none := by
  by_cases hfill : c.fills? = some (recordName id)
  · rcases ownName?_or_of_fills? hfill with hown | ⟨token, id', rfl, hid⟩
    · exact absurd rfl (ne_recordName_of_ownName? hown id)
    · rw [step] at h ⊢
      cases hpublish : publish d token id' with
      | error e => exact .inl rfl
      | ok published =>
        rw [hpublish] at h
        exact absurd (congrArg some hid.symm) h
  · rcases find?_step hfill with hsame | ⟨hempty, hnone⟩
    · exact .inl hsame
    rcases ownName?_or_of_empties? hempty with hown | hcondemned | ⟨token, id', rfl, hid⟩
    · exact absurd rfl (ne_recordName_of_ownName? hown id)
    · exact .inr ⟨hcondemned, hnone⟩
    · rw [step] at h ⊢
      cases hclaim : claim d token id' with
      | error e => exact .inl rfl
      | ok claimed =>
        rw [hclaim] at h
        exact absurd (congrArg some hid.symm) h

/-- A call condemns only what it finds dead. -/
theorem isDead_of_condemned?_step (h : (c.step ttl now d).1.condemned? = some name) :
    isDead ttl now name d = .ok true := by
  have hclean : c.IsCleanUp := by
    cases c with
    | listing | visiting | removing | cleaned => trivial
    | staging token id session =>
      rw [step] at h
      cases hstage : stage d now token session <;> rw [hstage] at h <;> cases h
    | publishing token id =>
      rw [step] at h
      cases hpublish : publish d token id <;> rw [hpublish] at h <;> cases h
    | claiming token id =>
      rw [step] at h
      cases hclaim : claim d token id <;> rw [hclaim] at h <;> cases h
    | _ => cases h
  obtain ⟨-, ⟨-, hdead⟩ | ⟨_, -, hnone, -⟩⟩ := hclean.step_cases ttl now d
  · exact hdead name h
  · rw [hnone] at h
    cases h

theorem step_of_condemned? (h : c.condemned? = some name) :
    (c.step ttl now d).2 = discard d name := by
  cases c with
  | removing other names count =>
    obtain rfl := Option.some.inj h
    exact fst_removeDead other d count
  | _ => cases h

end StoreCall

namespace Traffic
open Directory DirectoryStore StoreCall

variable {ι : Type} [DecidableEq ι]

/-- In these turns no call puts the record of the name in its place or takes it away. -/
def Undisturbed (ttl : Nat) (name : String) (s : Traffic ι) : List (Turn ι) → Prop
  | [] => True
  | turn :: turns =>
    renamed? (s.calls turn.caller) ((s.step ttl turn).calls turn.caller) ≠ some name ∧
      Undisturbed ttl name (s.step ttl turn) turns

instance decidableUndisturbed (ttl : Nat) (name : String) (s : Traffic ι) :
    (turns : List (Turn ι)) → Decidable (s.Undisturbed ttl name turns)
  | [] => inferInstanceAs (Decidable True)
  | turn :: turns =>
    have := decidableUndisturbed ttl name (s.step ttl turn) turns
    inferInstanceAs (Decidable (_ ∧ _))

variable {ttl : Nat} {first s : Traffic ι} {turn : Turn ι} {turns before after : List (Turn ι)}
variable {t : Moment} {id token : String} {content : Bytes} {modified : Instant} {session : Session}

/-- A record that is gone stays away as long as no other is put. -/
theorem find?_run_of_none (h : s.directory.find? (recordName id) = none)
    (hturns : s.Undisturbed ttl (recordName id) turns) :
    (s.run ttl turns).directory.find? (recordName id) = none := by
  induction turns generalizing s with
  | nil => exact h
  | cons turn turns ih =>
    have hstep := hturns.1
    rw [calls_step_caller] at hstep
    refine ih ?_ hturns.2
    rcases find?_step_of_unrenamed hstep with hsame | ⟨-, hnone⟩
    · exact hsame.trans h
    · exact hnone

/-- A record that is alive stays if none of the callers has condemned it. -/
theorem find?_run_of_spared
    (h : s.directory.find? (recordName id) = some (.file content modified))
    (hread : Session.read? content = some session)
    (hturns : s.Undisturbed ttl (recordName id) turns)
    (halive : ∀ turn ∈ turns, session.isExpired ttl turn.now = false)
    (hspared : ∀ turn ∈ turns, (s.calls turn.caller).condemned? ≠ some (recordName id)) :
    (s.run ttl turns).directory.find? (recordName id) = some (.file content modified) := by
  induction turns generalizing s with
  | nil => exact h
  | cons turn turns ih =>
    rw [List.forall_mem_cons] at halive hspared
    have hstep := hturns.1
    rw [calls_step_caller] at hstep
    have hstays : (s.step ttl turn).directory.find? (recordName id) =
        some (.file content modified) := by
      rcases find?_step_of_unrenamed hstep with hsame | ⟨hcondemned, -⟩
      · exact hsame.trans h
      · exact absurd hcondemned hspared.1
    refine ih hstays hturns.2 halive.2 fun later hlater => ?_
    -- The caller of this turn has found the record alive, and the others have not changed.
    by_cases hcaller : later.caller = turn.caller
    · rw [hcaller, calls_step_caller]
      intro hcondemned
      have hdead := isDead_of_condemned?_step hcondemned
      rw [isDead_recordName h hread, halive.1] at hdead
      cases hdead
    · rw [calls_step_of_ne hcaller]
      exact hspared.2 later hlater

/-- A call that has condemned the record removes it, whichever record it is by then. -/
theorem find?_run_of_condemned (h : s.directory.HoldsAtMost (recordName id) content)
    (hturns : s.Undisturbed ttl (recordName id) turns)
    (hcondemned : ∃ turn ∈ turns, (s.calls turn.caller).condemned? = some (recordName id)) :
    (s.run ttl turns).directory.find? (recordName id) = none := by
  induction turns generalizing s with
  | nil =>
    obtain ⟨turn, hturn, -⟩ := hcondemned
    cases hturn
  | cons turn turns ih =>
    by_cases hcaller : (s.calls turn.caller).condemned? = some (recordName id)
    · refine find?_run_of_none (s := s.step ttl turn) ?_ hturns.2
      rw [Traffic.step, step_of_condemned? hcaller]
      exact find?_discard_self h.ne_folder
    · obtain ⟨later, hlater, hcondemned⟩ := hcondemned
      have hne : later.caller ≠ turn.caller := fun heq => hcaller (heq ▸ hcondemned)
      have hstep := hturns.1
      rw [calls_step_caller] at hstep
      have hmem : later ∈ turns := (List.mem_cons.1 hlater).resolve_left fun heq =>
        hne (congrArg Turn.caller heq)
      refine ih (h.of_find? ((find?_step_of_unrenamed hstep).imp_right And.right)) hturns.2
        ⟨later, hmem, ?_⟩
      rwa [calls_step_of_ne hne]

/-- A put that ends well leaves the record of its session. -/
theorem Begins.find?_run_of_put (hfirst : first.Begins)
    (hput : first.calls turn.caller = .staging token id session)
    (hpublishing : (first.run ttl before).calls turn.caller = .publishing token id)
    (hended : (first.run ttl (before ++ [turn])).calls turn.caller = .put (.ok ())) :
    ∃ modified, (first.run ttl (before ++ [turn])).directory.find? (recordName id) =
      some (.file session.write modified) := by
  have hfollows := hfirst.follows_run ttl before
  rw [run_concat] at hended ⊢
  generalize first.run ttl before = s at hfollows hpublishing hended ⊢
  rw [calls_step_caller] at hended
  rw [Traffic.step]
  rw [hpublishing, StoreCall.step] at hended ⊢
  cases hpublish : publish s.directory token id with
  | error e =>
    rw [hpublish] at hended
    cases hended
  | ok published =>
    obtain ⟨written, modified, hwritten, hfind⟩ := hfollows.exists_of_publish hpublishing hpublish
    obtain rfl : session = written := (StoreCall.staging.inj (hput.symm.trans hwritten)).2.2
    exact ⟨modified, (hfind _).trans (if_pos rfl)⟩

/-- The next take after a put returns its session, if no call had condemned the record before it was
there. If one had, and takes a turn before the take, then the session is lost. -/
theorem take_after_put (hfirst : first.Begins)
    (hput : first.calls turn.caller = .staging token id session)
    (hvalid : session.createdAt.IsValid)
    (hpublishing : (first.run ttl before).calls turn.caller = .publishing token id)
    (hrun : first.run ttl (before ++ [turn]) = s)
    (hended : s.calls turn.caller = .put (.ok ()))
    (hafter : s.Undisturbed ttl (recordName id) after)
    (hfresh : ∀ i, (first.calls i).ownName? ≠ some (claimName id t.token))
    (hvacant : first.directory.find? (claimName id t.token) = none)
    (halive : ∀ later ∈ after, session.isExpired ttl later.now = false)
    (hunexpired : session.isExpired ttl t.now = false) :
    ((∀ later ∈ after, (s.calls later.caller).condemned? ≠ some (recordName id)) →
      (take ttl t id (s.run ttl after).directory).1 = .ok session) ∧
    ((∃ later ∈ after, (s.calls later.caller).condemned? = some (recordName id)) →
      (take ttl t id (s.run ttl after).directory).1 = .error (.notFound id)) := by
  have hread := Session.read?_write_of_isValid hvalid
  obtain ⟨modified, hrecord⟩ := hfirst.find?_run_of_put hput hpublishing (hrun ▸ hended)
  rw [hrun] at hrecord
  constructor
  · intro hspared
    have hclaim : (s.run ttl after).directory.find? (claimName id t.token) = none := by
      rw [← hrun, ← run_append]
      exact hfirst.find?_run_eq_none (fun _ => (recordName_ne_claimName _ _ _).symm) hfresh hvacant _
    have hstays := find?_run_of_spared hrecord hread hafter halive hspared
    refine take_eq_ok_iff.2 ⟨_, modified, hstays, fun _ hfolder => ?_, hread, hunexpired⟩
    rw [hclaim] at hfolder
    cases hfolder
  · intro hcondemned
    have hheld : s.directory.HoldsAtMost (recordName id) session.write := by
      intro node hnode
      exact ⟨modified, (Option.some.inj (hrecord.symm.trans hnode)).symm⟩
    rw [take_of_absent (find?_run_of_condemned hheld hafter hcondemned)]

def oldUpload : Session :=
  ⟨"photos", "cat.jpg", none, ⟨0, 0⟩⟩

def newUpload : Session :=
  ⟨"photos", "dog.jpg", none, ⟨1000000, 0⟩⟩

/-- The two are put under one id, and a cleanup runs. -/
def renewal : Traffic (Fin 3) :=
  ⟨{}, ![.staging "T1" "U1" oldUpload, .listing, .staging "T2" "U1" newUpload]⟩

def renewalStart : List (Turn (Fin 3)) :=
  [⟨0, ⟨0, 0⟩⟩, ⟨0, ⟨0, 0⟩⟩, ⟨1, ⟨1000000, 0⟩⟩]

def renewalTurns (callers : List (Fin 3)) : List (Turn (Fin 3)) :=
  callers.map (⟨·, ⟨1000000, 0⟩⟩)

theorem begins_renewal : renewal.Begins :=
  begins_of_distinct (by decide) (by decide +kernel)

/-- The cleanup reads the record when it is the new one. -/
theorem take_after_put_renewal :
    (take 604800000000000 ⟨⟨1000001, 0⟩, "T3", rfl⟩ "U1"
      ((renewal.run 604800000000000 (renewalStart ++ renewalTurns [2] ++ renewalTurns [2])).run
        604800000000000 (renewalTurns [1, 1])).directory).1 = .ok newUpload := by
  have hended : (renewal.run 604800000000000
      (renewalStart ++ renewalTurns [2] ++ renewalTurns [2])).calls 2 = .put (.ok ()) := by
    decide +kernel
  exact (take_after_put begins_renewal rfl ⟨by decide, by decide⟩ (by decide +kernel) rfl hended
    (by decide +kernel) (by decide +kernel) rfl (by decide) (by decide)).1 (by decide +kernel)

/-- The cleanup reads the old record, and then removes the new one that has taken its place. -/
theorem lost_after_put_renewal :
    let s := renewal.run 604800000000000 (renewalStart ++ renewalTurns [1, 2, 2])
    renewal.Begins ∧ s.calls 2 = .put (.ok ()) ∧
      s.Undisturbed 604800000000000 (recordName "U1") (renewalTurns [1, 1]) ∧
      newUpload.isExpired 604800000000000 ⟨1000001, 0⟩ = false ∧
      (take 604800000000000 ⟨⟨1000001, 0⟩, "T3", rfl⟩ "U1"
        (s.run 604800000000000 (renewalTurns [1, 1])).directory).1 = .error (.notFound "U1") := by
  refine ⟨begins_renewal, ?_⟩
  decide +kernel

end Traffic
end SealingProxy
