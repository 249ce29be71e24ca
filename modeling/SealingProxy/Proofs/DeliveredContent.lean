import SealingProxy.Proofs.FailedHooks
import SealingProxy.Proofs.StashLaws
import SealingProxy.Proofs.UploadDownload
/-! # What a download delivers

A download that is answered with a sealed object delivers the object or the range of it that was
held back. Status, length, digest and range of the response then all speak of the bytes that it
returns. If the object does not open, or has no such range, the response stays as it came. -/

namespace SealingProxy

variable {σ : Type}

namespace ByteRange

theorem le_of_ofSuffix? {last : List Char} {length : Nat} {r : ByteRange}
    (h : ofSuffix? last length = some r) : r.start ≤ r.stop ∧ r.stop ≤ length := by
  unfold ofSuffix? at h
  split at h
  · cases h
  · next n _ =>
    obtain ⟨-, h⟩ := Option.ite_none_left_eq_some.1 h
    obtain rfl := Option.some.inj h
    exact ⟨Nat.sub_le length n, Nat.le_refl length⟩

theorem le_of_ofFirst? {first last : List Char} {length : Nat} {r : ByteRange}
    (h : ofFirst? first last length = some r) : r.start ≤ r.stop ∧ r.stop ≤ length := by
  unfold ofFirst? at h
  split at h
  · cases h
  · next a _ =>
    obtain ⟨ha, h⟩ := Option.ite_none_left_eq_some.1 h
    have hle : a ≤ length := Nat.le_of_not_lt ha
    split at h
    · obtain rfl := Option.some.inj h
      exact ⟨hle, Nat.le_refl length⟩
    split at h
    · cases h
    · next b _ =>
      obtain ⟨hb, h⟩ := Option.ite_none_left_eq_some.1 h
      obtain rfl := Option.some.inj h
      have hab : a ≤ b + 1 := Nat.le_succ_of_le (Nat.le_of_not_lt hb)
      exact ⟨Nat.le_min.2 ⟨hab, hle⟩, Nat.min_le_right ..⟩

/-- A range that is resolved lies within the object. -/
theorem le_of_parse? {header : String} {length : Nat} {r : ByteRange}
    (h : parse? header length = some r) : r.start ≤ r.stop ∧ r.stop ≤ length := by
  unfold parse? at h
  split at h
  · cases h
  split at h
  · exact le_of_ofSuffix? h
  · exact le_of_ofFirst? h

theorem slice_eq_extract (r : ByteRange) (content : Bytes) :
    r.slice content = content.extract r.start r.stop := by
  rw [slice, List.drop_take, List.extract_eq_take_drop]

theorem isVisible_contentRange (r : ByteRange) (total : Nat) :
    Headers.IsVisible (r.contentRange total) := by
  unfold contentRange
  split
  · have hunit : Headers.IsVisible "bytes " := by decide
    have hdash : Headers.IsVisible "-" := by decide
    have hslash : Headers.IsVisible "/" := by decide
    exact ((((hunit.append (Hooks.isVisible_text _)).append hdash).append
      (Hooks.isVisible_text _)).append hslash).append (Hooks.isVisible_text _)
  · exact Headers.IsVisible.append (by decide) (Hooks.isVisible_text _)

end ByteRange

namespace Response

def contentHeaders : List HeaderName :=
  [.contentLength, .storedLength, .storedHash, .contentRange]

/-- The response returns a content and describes it. Nothing else in its headers differs from the
stored response. -/
structure Returns (r stored : Response) (content : Bytes) : Prop where
  body : r.body = content
  length : r.headers.values .contentLength = [utf8 (Decimal.text content.length)]
  storedLength : r.headers.values .storedLength = [utf8 (Decimal.text content.length)]
  storedHash : r.headers.values .storedHash = [utf8 ("md5=" ++ contentMd5 content)]
  rest : ∀ n, n ∉ contentHeaders → r.headers.values n = stored.headers.values n

structure ReturnsWhole (r stored : Response) (object : Bytes) : Prop
    extends r.Returns stored object where
  status : r.status = stored.status
  contentRange : r.headers.values .contentRange = []

structure ReturnsRange (r stored : Response) (object : Bytes) (range : ByteRange) : Prop
    extends r.Returns stored (object.extract range.start range.stop) where
  within : range.start ≤ range.stop ∧ range.stop ≤ object.length
  status : r.status = 206
  contentRange : r.headers.values .contentRange = [utf8 (
    if range.start < range.stop then
      "bytes " ++ Decimal.text range.start ++ "-" ++ Decimal.text (range.stop - 1) ++ "/" ++
        Decimal.text object.length
    else "bytes */" ++ Decimal.text object.length)]

end Response

namespace Hooks

theorem status_describe (response : Response) (content : Bytes) :
    (describe response content).status = response.status := by
  unfold describe Response.setBody
  dsimp only

theorem values_describe_contentRange (response : Response) (content : Bytes) :
    (describe response content).headers.values .contentRange =
      response.headers.values .contentRange := by
  unfold describe Response.setBody
  dsimp only
  rw [Headers.values_insert_of_ne (by decide), Headers.values_set_of_ne (by decide),
    Headers.values_set_of_ne (by decide)]

/-- The response that is described may differ from the stored one in its range. -/
theorem returns_describe {response stored : Response}
    (hrest : ∀ n, n ≠ .contentRange → response.headers.values n = stored.headers.values n)
    (content : Bytes) : (describe response content).Returns stored content := by
  have hmd5 : Headers.IsVisible ("md5=" ++ contentMd5 content) :=
    Headers.IsVisible.append (by decide) (isVisible_contentMd5 content)
  unfold describe Response.setBody
  constructor
  · rfl
  · dsimp only
    rw [Headers.values_insert_self]
  · dsimp only
    rw [Headers.values_insert_of_ne (by decide), Headers.values_set_of_ne (by decide),
      Headers.values_set_self (isVisible_text _)]
  · dsimp only
    rw [Headers.values_insert_of_ne (by decide), Headers.values_set_self hmd5]
  · intro n hn
    have hne : n ≠ .contentLength ∧ n ≠ .storedLength ∧ n ≠ .storedHash ∧ n ≠ .contentRange := by
      simpa [Response.contentHeaders] using hn
    obtain ⟨hlength, hstored, hhash, hrange⟩ := hne
    dsimp only
    rw [Headers.values_insert_of_ne hlength, Headers.values_set_of_ne hhash,
      Headers.values_set_of_ne hstored, hrest n hrange]

theorem exists_returnsWhole (object : Bytes) (response : Response) :
    ∃ delivered, deliver none object response = .ok delivered ∧
      delivered.ReturnsWhole response object := by
  have hdeliver : deliver none object response = .ok (describe { response with
      headers := response.headers.erase .contentRange } object) := rfl
  refine ⟨_, hdeliver, returns_describe (fun n hn => Headers.values_erase_of_ne hn _) object,
    status_describe .., ?_⟩
  rw [values_describe_contentRange, Headers.values_erase_self]

theorem exists_returnsRange {header : String} {object : Bytes} {range : ByteRange}
    (h : ByteRange.parse? header object.length = some range) (response : Response) :
    ∃ delivered, deliver (some header) object response = .ok delivered ∧
      delivered.ReturnsRange response object range := by
  have hdeliver : deliver (some header) object response = .ok (describe { response with
      status := 206
      headers := response.headers.set .contentRange (range.contentRange object.length) }
      (object.extract range.start range.stop)) := by
    rw [← ByteRange.slice_eq_extract]
    unfold deliver
    dsimp only
    rw [h]
  refine ⟨_, hdeliver, returns_describe (fun n hn => Headers.values_set_of_ne hn _ _) _,
    ByteRange.le_of_parse? h, status_describe .., ?_⟩
  rw [values_describe_contentRange, Headers.values_set_self (ByteRange.isVisible_contentRange ..)]
  rfl

theorem deliver_of_parse?_eq_none {header : String} {object : Bytes}
    (h : ByteRange.parse? header object.length = none) (response : Response) :
    deliver (some header) object response = .error (.invalidRange header) := by
  unfold deliver
  dsimp only
  rw [h]

theorem downloadKey?_eq_some_iff {c : Context} {r : Request} {response : Response}
    {keyId : String} :
    downloadKey? c r response = some keyId ↔
      response.header? .storedKey = some keyId ∧ keyId ≠ "" ∨
      (response.header? .storedKey = none ∨ response.header? .storedKey = some "") ∧
        ∃ bucket, ObjectPath.bucket? r.path = some bucket ∧ c.resolve bucket = some keyId := by
  unfold downloadKey?
  cases response.header? .storedKey with
  | none => simp [Option.bind_eq_some_iff]
  | some stored =>
    by_cases hs : stored = ""
    · subst hs
      simp [Option.bind_eq_some_iff]
    · simp [hs]

variable {c : Context} {o : Occasion} {s : State σ} {x : Exchange} {response : Response}
  {keyId : String}

theorem downloadResponse_of_decrypt_error (hx : x.response = some response)
    (hsuccess : response.isSuccess = true) (hkey : downloadKey? c x.request response = some keyId)
    {err : ProxyError} (h : (s.decrypt c o keyId response.body).1 = .error err) :
    (downloadResponse c o s x).result = .error err := by
  unfold downloadResponse
  rw [hx]
  dsimp only
  rw [if_pos hsuccess, hkey]
  dsimp only
  split
  · next hdecrypt =>
    rw [hdecrypt] at h
    obtain rfl := Except.error.inj h
    rfl
  · next hdecrypt =>
    rw [hdecrypt] at h
    cases h

/-- The response half of a download with a key delivers the object, or the range that was held back,
and describes what it returns. If the object does not open, or the range is none of it, the hook
fails and leaves the response as it came. -/
theorem downloadResponse_delivers (hx : x.response = some response)
    (hsuccess : response.isSuccess = true) (hne : keyId ≠ "")
    (hkey : response.header? .storedKey = some keyId ∨
      (response.header? .storedKey = none ∨ response.header? .storedKey = some "") ∧
        ∃ bucket, ObjectPath.bucket? x.request.path = some bucket ∧
          c.resolve bucket = some keyId) :
    (∀ err, (s.decrypt c o keyId response.body).1 = .error err →
      (downloadResponse c o s x).result = .error err ∧ (downloadResponse c o s x).exchange = x) ∧
    ∀ object, (s.decrypt c o keyId response.body).1 = .ok object →
      (x.request.header? .stashedRange = none →
        (downloadResponse c o s x).result = .ok () ∧
        ∃ delivered, (downloadResponse c o s x).exchange =
            { x with response := some delivered } ∧
          delivered.ReturnsWhole response object) ∧
      ∀ header, x.request.header? .stashedRange = some header →
        (ByteRange.parse? header object.length = none →
          (downloadResponse c o s x).result = .error (.invalidRange header) ∧
          (downloadResponse c o s x).exchange = x) ∧
        ∀ range, ByteRange.parse? header object.length = some range →
          (downloadResponse c o s x).result = .ok () ∧
          ∃ delivered, (downloadResponse c o s x).exchange =
              { x with response := some delivered } ∧
            delivered.ReturnsRange response object range := by
  have hkey : downloadKey? c x.request response = some keyId :=
    downloadKey?_eq_some_iff.2 (hkey.imp (fun h => ⟨h, hne⟩) id)
  have hkept {err : ProxyError} (h : (downloadResponse c o s x).result = .error err) :
      (downloadResponse c o s x).exchange = x := (keeps_downloadResponse c o s x).exchange_eq h
  constructor
  · intro err h
    have herr := downloadResponse_of_decrypt_error hx hsuccess hkey h
    exact ⟨herr, hkept herr⟩
  intro object h
  obtain ⟨hfails, hdelivers⟩ := downloadResponse_of_decrypt_ok hx hsuccess hkey h
  constructor
  · intro hnone
    obtain ⟨delivered, hdelivered, hwhole⟩ := exists_returnsWhole object response
    rw [← hnone] at hdelivered
    obtain ⟨hok, hexchange⟩ := hdelivers delivered hdelivered
    exact ⟨hok, delivered, hexchange, hwhole⟩
  intro header hheader
  constructor
  · intro hnone
    have herr := hfails (.invalidRange header) (by
      rw [hheader]
      exact deliver_of_parse?_eq_none hnone response)
    exact ⟨herr, hkept herr⟩
  · intro range hrange
    obtain ⟨delivered, hdelivered, hpart⟩ := exists_returnsRange hrange response
    rw [← hheader] at hdelivered
    obtain ⟨hok, hexchange⟩ := hdelivers delivered hdelivered
    exact ⟨hok, delivered, hexchange, hpart⟩

theorem downloadResponse_delivers_range :
    ∃ sealed delivered,
      Envelope.encrypt (.derived .zero "k") Engine.sealingOccasion.draw (utf8 "meow") =
        .ok sealed ∧
      (downloadResponse Gateway.photoGateway.engine.context Gateway.quietOccasion
        Gateway.freshState { Engine.catDownload ⟨[(.stashedRange, utf8 "bytes=1-2")]⟩ with
          response := some (Engine.storedResponse sealed) }).exchange.response = some delivered ∧
      delivered.status = 206 ∧ delivered.body = utf8 "eo" ∧
      delivered.headers.values .storedLength = [utf8 "2"] ∧
      delivered.headers.values .contentRange = [utf8 "bytes 1-2/4"] := by
  obtain ⟨sealed, hsealed⟩ := Envelope.exists_encrypt_derived .zero "k"
    Engine.isSized_sealingOccasion (utf8 "meow")
  have hopen := State.decrypt_eq_ok Engine.reaches_freshState.holds Engine.handle_photoGateway
    (Envelope.decrypt_encrypt_derived Engine.isSized_sealingOccasion hsealed)
    Gateway.quietOccasion
  have hheader : (Engine.catDownload ⟨[(.stashedRange, utf8 "bytes=1-2")]⟩).request.header?
      .stashedRange = some "bytes=1-2" := by decide +kernel
  obtain ⟨-, hobject⟩ := downloadResponse_delivers
    (x := { Engine.catDownload ⟨[(.stashedRange, utf8 "bytes=1-2")]⟩ with
      response := some (Engine.storedResponse sealed) })
    (c := Gateway.photoGateway.engine.context) (o := Gateway.quietOccasion)
    (s := Gateway.freshState) rfl rfl
    (by decide) (.inl (Engine.header?_storedResponse sealed))
  obtain ⟨-, hrange⟩ := hobject (utf8 "meow") hopen
  obtain ⟨-, delivered, hdelivered, hreturns⟩ :=
    (hrange "bytes=1-2" hheader).2 ⟨1, 3⟩ (by decide +kernel)
  refine ⟨sealed, delivered, hsealed, ?_, hreturns.status, hreturns.body, hreturns.storedLength,
    hreturns.contentRange⟩
  rw [hdelivered]

end Hooks
end SealingProxy
