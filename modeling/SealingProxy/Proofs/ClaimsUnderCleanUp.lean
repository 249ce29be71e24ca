import SealingProxy.Proofs.InterleavedCalls
/-! # A session taken beside cleanups

A claim has the age of the record that it was made of, not of the call that made it. For ten minutes
after the record was written no cleanup touches the claim, and the call gets its session. From then
on a cleanup that comes between the claim and its reading removes it, and the session is lost. -/

namespace SealingProxy

namespace Traffic
open Directory DirectoryStore

variable {ι : Type} [DecidableEq ι]

def takeBesideCleanUps (d : Directory) (taker : ι) (token id : String) : Traffic ι :=
  ⟨d, Function.update (fun _ => .listing) taker (.claiming token id)⟩

/-- A cleanup takes its turn when what was written at the instant is older than ten minutes. -/
def ComesLate (taker : ι) (modified : Instant) (turn : Turn ι) : Prop :=
  turn.caller ≠ taker ∧ modified.ticks + passingAge < turn.now.ticks

variable {ttl : Nat} {s : Traffic ι} {turn : Turn ι} {taker : ι} {id token : String}
variable {content : Bytes} {modified : Instant} {session : Session} {late : Prop}

/-- How far the call has come after a number of its turns. Whether a cleanup came late decides
whether the claim can be missing. -/
inductive TakeStage (s : Traffic ι) (id token : String) (content : Bytes) (modified : Instant)
    (session : Session) (late : Prop) : Nat → StoreCall → Prop where
  | claiming (hrecord : s.Keeps (recordName id) (some (.file content modified)))
      (hclaim : s.Keeps (claimName id token) none) :
      TakeStage s id token content modified session late 0 (.claiming token id)
  | reading (hfind : s.directory.find? (claimName id token) = some (.file content modified) ∨
        s.directory.find? (claimName id token) = none)
      (hclaim : s.Keeps (claimName id token) (some (.file content modified)) ∨ late) :
      TakeStage s id token content modified session late 1 (.reading token id)
  | discarding {found : Except FileFault Bytes}
      (hfound : found = .ok content ∨ found = .error .notFound ∧ late) :
      TakeStage s id token content modified session late 2 (.discarding token id found)
  | taken {n : Nat} {result : Except SessionError Session}
      (hresult : result = .ok session ∨ result = .error (ofFault .notFound) ∧ late) :
      TakeStage s id token content modified session late (n + 3) (.taken result)

omit [DecidableEq ι] in
theorem TakeStage.mono {late' : Prop} {n : Nat} {c : StoreCall} (hlate : late → late')
    (h : TakeStage s id token content modified session late n c) :
    TakeStage s id token content modified session late' n c := by
  cases h with
  | claiming hrecord hclaim => exact .claiming hrecord hclaim
  | reading hfind hclaim => exact .reading hfind (hclaim.imp_right hlate)
  | discarding hfound => exact .discarding (hfound.imp_right (And.imp_right hlate))
  | taken hresult => exact .taken (hresult.imp_right (And.imp_right hlate))

/-- A cleanup leaves the call where it is, and its claim as well unless it comes late. -/
theorem TakeStage.of_cleanUp {n : Nat} {c : StoreCall}
    (h : TakeStage s id token content modified session late n c)
    (hread : Session.read? content = some session)
    (halive : session.isExpired ttl turn.now = false)
    (hlate : modified.ticks + passingAge < turn.now.ticks → late)
    (hc : (s.calls turn.caller).IsCleanUp) :
    TakeStage (s.step ttl turn) id token content modified session late n c := by
  cases h with
  | claiming hrecord hclaim =>
    refine .claiming (hrecord.step hc ?_) (hclaim.step hc ?_)
    · rw [isDead_recordName hrecord.find?_eq hread, halive]
      nofun
    · rw [isDead_claimName, isLeftBehind, hclaim.find?_eq]
      nofun
  | reading hfind hclaim =>
    refine .reading ?_ ?_
    · rcases find?_step_of_isCleanUp hc ttl (claimName id token) with hsame | hnone
      · rwa [hsame]
      · exact .inr hnone
    · rcases hclaim with hclaim | hcame
      · -- The claim counts as old as soon as the record would, even if it was made just now.
        by_cases hold : modified.ticks + passingAge < turn.now.ticks
        · exact .inr (hlate hold)
        · refine .inl (hclaim.step hc ?_)
          rw [isDead_claimName, isLeftBehind, hclaim.find?_eq]
          exact fun hdead => hold (of_decide_eq_true (Except.ok.inj hdead))
      · exact .inr hcame
  | discarding hfound => exact .discarding hfound
  | taken hresult => exact .taken hresult

/-- A turn of the call itself brings it one stage further. -/
theorem TakeStage.of_taker {n : Nat}
    (h : TakeStage s id token content modified session late n (s.calls turn.caller))
    (hread : Session.read? content = some session)
    (halive : session.isExpired ttl turn.now = false) :
    TakeStage (s.step ttl turn) id token content modified session late (n + 1)
      ((s.step ttl turn).calls turn.caller) := by
  rw [calls_step_caller]
  generalize hcall : s.calls turn.caller = c at h ⊢
  cases h with
  | claiming hrecord hclaim =>
    have hvacant (t : Instant) : s.directory.find? (claimName id token) ≠ some (.folder t) := by
      simp [hclaim.find?_eq]
    obtain ⟨claimed, hclaimed, hfound⟩ := exists_claim_ok hrecord.find?_eq hvacant
    have hstep : StoreCall.step ttl turn.now s.directory (.claiming token id) =
        (.reading token id, claimed) := by
      rw [StoreCall.step, hclaimed]
    have hfile : (s.step ttl turn).directory.find? (claimName id token) =
        some (.file content modified) := by
      rw [Traffic.step, hcall, hstep, hfound]
    rw [hstep]
    refine .reading (.inl hfile) (.inl ⟨hfile, ?_⟩)
    refine (forall_calls_step_iff (P := fun c => c.condemned? ≠ some (claimName id token))).2 ⟨?_, ?_⟩
    · rw [hcall, hstep]
      simp [StoreCall.condemned?]
    · exact fun i _ => hclaim.not_condemned i
  | reading hfind hclaim =>
    refine .discarding ?_
    rcases hclaim with hclaim | hlate
    · exact .inl (read_eq_ok_iff.2 ⟨modified, hclaim.find?_eq⟩)
    · rcases hfind with hfile | hnone
      · exact .inl (read_eq_ok_iff.2 ⟨modified, hfile⟩)
      · exact .inr ⟨by rw [Directory.read, hnone], hlate⟩
  | discarding hfound =>
    refine .taken ?_
    rcases hfound with rfl | ⟨rfl, hlate⟩
    · exact .inl (judge_eq_ok_iff.2 ⟨hread, halive⟩)
    · exact .inr ⟨rfl, hlate⟩
  | taken hresult => exact .taken hresult

theorem keeps_takeBesideCleanUps {d : Directory} {name : String} {node : Option Node}
    (h : d.find? name = node) : (takeBesideCleanUps d taker token id).Keeps name node :=
  ⟨h, (Function.forall_update_iff (fun _ : ι => StoreCall.listing)
    fun _ (c : StoreCall) => c.condemned? ≠ some name).2 ⟨nofun, fun _ _ => nofun⟩⟩

theorem takeStage_run {d : Directory} (taker : ι)
    (hrecord : d.find? (recordName id) = some (.file content modified))
    (hclaim : d.find? (claimName id token) = none) (hread : Session.read? content = some session)
    (turns : List (Turn ι)) (halive : ∀ turn ∈ turns, session.isExpired ttl turn.now = false) :
    TakeStage ((takeBesideCleanUps d taker token id).run ttl turns) id token content modified
        session (∃ turn ∈ turns, ComesLate taker modified turn)
        (turns.countP (·.caller = taker))
        (((takeBesideCleanUps d taker token id).run ttl turns).calls taker) ∧
      ∀ i, i ≠ taker →
        (((takeBesideCleanUps d taker token id).run ttl turns).calls i).IsCleanUp := by
  -- From the end, as a turn is taken where the turns before it have left everything.
  induction turns using List.reverseRecOn with
  | nil =>
    have hcall : (takeBesideCleanUps d taker token id).calls taker = .claiming token id := by
      simp [takeBesideCleanUps]
    have hother (i : ι) (hi : i ≠ taker) :
        (takeBesideCleanUps d taker token id).calls i = .listing := by
      simp [takeBesideCleanUps, hi]
    rw [run, List.foldl_nil, hcall]
    exact ⟨.claiming (keeps_takeBesideCleanUps hrecord) (keeps_takeBesideCleanUps hclaim),
      fun i hi => hother i hi ▸ trivial⟩
  | append_singleton turns turn ih =>
    obtain ⟨hstage, hclean⟩ := ih fun t ht => halive t (List.mem_append_left _ ht)
    have halive := halive turn (by simp)
    rw [run_concat, List.countP_append, List.countP_singleton]
    generalize (takeBesideCleanUps d taker token id).run ttl turns = s at hstage hclean ⊢
    have hmore : (∃ t ∈ turns, ComesLate taker modified t) →
        ∃ t ∈ turns ++ [turn], ComesLate taker modified t := by
      rintro ⟨t, ht, hlate⟩
      exact ⟨t, List.mem_append_left _ ht, hlate⟩
    replace hstage := hstage.mono hmore
    by_cases hcaller : turn.caller = taker
    · subst hcaller
      refine ⟨by simpa using hstage.of_taker hread halive, fun i hi => ?_⟩
      rw [calls_step_of_ne hi]
      exact hclean i hi
    · have hc := hclean turn.caller hcaller
      refine ⟨?_, fun i hi => ?_⟩
      · rw [calls_step_of_ne (Ne.symm hcaller)]
        have hlate (h : modified.ticks + passingAge < turn.now.ticks) :
            ∃ t ∈ turns ++ [turn], ComesLate taker modified t := ⟨turn, by simp, hcaller, h⟩
        simpa [hcaller] using hstage.of_cleanUp hread halive hlate hc
      · by_cases hi' : i = turn.caller
        · rw [hi', calls_step_caller]
          exact (hc.step_cases ttl turn.now s.directory).1
        · rw [calls_step_of_ne hi']
          exact hclean i hi

/-- A call that had its three turns beside any cleanups has the session that was stored. It can
have lost it only if a cleanup came when the record was older than ten minutes. -/
theorem taken_beside_cleanUps {d : Directory} (taker : ι)
    (hrecord : d.find? (recordName id) = some (.file content modified))
    (hclaim : d.find? (claimName id token) = none) (hread : Session.read? content = some session)
    {turns : List (Turn ι)} (halive : ∀ turn ∈ turns, session.isExpired ttl turn.now = false)
    (hturns : 3 ≤ turns.countP (·.caller = taker)) :
    ((takeBesideCleanUps d taker token id).run ttl turns).calls taker = .taken (.ok session) ∨
      ((takeBesideCleanUps d taker token id).run ttl turns).calls taker =
          .taken (.error (.io "No such file or directory")) ∧
        ∃ turn ∈ turns, turn.caller ≠ taker ∧ modified.ticks + passingAge < turn.now.ticks := by
  obtain ⟨hstage, -⟩ := takeStage_run taker hrecord hclaim hread turns halive
  generalize ((takeBesideCleanUps d taker token id).run ttl turns).calls taker = c at hstage ⊢
  generalize turns.countP (·.caller = taker) = n at hstage hturns
  cases hstage with
  | claiming => omega
  | reading => omega
  | discarding => omega
  | taken hresult =>
    rcases hresult with rfl | ⟨rfl, hlate⟩
    · exact .inl rfl
    · exact .inr ⟨rfl, hlate⟩

def storedCat : Session :=
  ⟨"photos", "cat.jpg", none, ⟨0, 0⟩⟩

def catDirectory : Directory :=
  ⟨some [(recordName "U1", .file storedCat.write storedCat.createdAt)]⟩

/-- A whole cleanup comes between the claim and its reading. -/
def cleanUpAfterClaim (now : Instant) : List (Turn Bool) :=
  [⟨false, now⟩, ⟨true, now⟩, ⟨true, now⟩, ⟨true, now⟩, ⟨false, now⟩, ⟨false, now⟩]

theorem taken_beside_early_cleanUp :
    ((takeBesideCleanUps catDirectory false "T1" "U1").run 604800000000000
      (cleanUpAfterClaim ⟨300, 0⟩)).calls false = .taken (.ok storedCat) := by
  have hrecord : catDirectory.find? (recordName "U1") =
      some (.file storedCat.write storedCat.createdAt) := by decide +kernel
  have hclaim : catDirectory.find? (claimName "U1" "T1") = none := by decide +kernel
  have hread : Session.read? storedCat.write = some storedCat := by decide +kernel
  have halive : ∀ turn ∈ cleanUpAfterClaim ⟨300, 0⟩,
      storedCat.isExpired 604800000000000 turn.now = false := by decide
  have hearly : ∀ turn ∈ cleanUpAfterClaim ⟨300, 0⟩,
      ¬storedCat.createdAt.ticks + passingAge < turn.now.ticks := by decide
  rcases taken_beside_cleanUps false hrecord hclaim hread halive (by decide) with
    h | ⟨-, turn, hturn, -, hlate⟩
  · exact h
  · exact absurd hlate (hearly turn hturn)

/-- The session is far from its end, and so is the call: it is the record that is old. -/
theorem lost_beside_cleanUp :
    catDirectory.find? (recordName "U1") = some (.file storedCat.write storedCat.createdAt) ∧
      catDirectory.find? (claimName "U1" "T1") = none ∧
      Session.read? storedCat.write = some storedCat ∧
      (∀ turn ∈ cleanUpAfterClaim ⟨660, 0⟩,
        storedCat.isExpired 604800000000000 turn.now = false) ∧
      ((takeBesideCleanUps catDirectory false "T1" "U1").run 604800000000000
        (cleanUpAfterClaim ⟨660, 0⟩)).calls false =
          .taken (.error (.io "No such file or directory")) := by
  decide +kernel

end Traffic
end SealingProxy
