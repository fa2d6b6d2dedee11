-- What a remote lookup makes of the service's reply. A lookup sends at most
-- one request, so it depends on the service only through the reply to that
-- request, and a link refused before sending gives the same failure whatever
-- the service. A translation comes only from a 2xx reply whose body was read
-- and holds a definition for the language, and a rejection only from a 4xx
-- status other than 404, shown with its reason phrase. With no reply at all
-- every lookup that is sent fails as unreachable.
import Typeahead.Remote.Dictionary

namespace Typeahead.Remote

/-! ## One reply -/

/-- A body's answer never blames the request: taking a body apart fails only
as malformed or as finding nothing. -/
theorem extract_ne_rejected (body language m : String) :
    Dictionary.extract body language ≠ .error (.rejected m) := by
  unfold Dictionary.extract
  split
  · simp
  · split <;> simp

/-- What a reply gives is a translation exactly when the status is 2xx and
the body was read and holds a definition for the language. -/
theorem answerOf_ok_iff (u : Url) (language t : String) (r : Reply) :
    answerOf u language r = .ok t ↔
      ∃ code bytes, r = .replied code (.ok bytes) ∧ 200 ≤ code ∧ code < 300 ∧
        Dictionary.extract (Text.lossyString (if code = 204 then [] else bytes)) language = .ok t := by
  constructor
  · intro h
    cases r with
    | unreachable => cases h
    | replied code body =>
      -- the status decides before the body is looked at
      simp only [answerOf] at h
      by_cases h404 : code = 404
      · rw [if_pos h404] at h
        cases h
      rw [if_neg h404] at h
      by_cases h4 : 400 ≤ code ∧ code < 500
      · rw [if_pos h4] at h
        cases h
      rw [if_neg h4] at h
      by_cases h2 : 200 ≤ code ∧ code < 300
      · rw [if_neg (not_not_intro h2)] at h
        cases body with
        | error report => cases h
        | ok bytes => exact ⟨code, bytes, rfl, h2.1, h2.2, h⟩
      · rw [if_pos h2] at h
        cases h
  · rintro ⟨code, bytes, rfl, hlo, hhi, hx⟩
    have h404 : code ≠ 404 := by omega
    have h4 : ¬(400 ≤ code ∧ code < 500) := by omega
    simp only [answerOf, h404, h4, hlo, hhi, and_self, not_true_eq_false, if_false, hx]

/-- What a reply gives is a rejection exactly when its status is a 4xx other
than 404, and the rejection shows the status. -/
theorem answerOf_rejected_iff (u : Url) (language m : String) (r : Reply) :
    answerOf u language r = .error (.rejected m) ↔
      ∃ code body, r = .replied code body ∧ 400 ≤ code ∧ code < 500 ∧ code ≠ 404 ∧
        m = "HTTP " ++ statusText code := by
  constructor
  · intro h
    cases r with
    | unreachable => cases h
    | replied code body =>
      simp only [answerOf] at h
      by_cases h404 : code = 404
      · rw [if_pos h404] at h
        cases h
      rw [if_neg h404] at h
      by_cases h4 : 400 ≤ code ∧ code < 500
      · rw [if_pos h4] at h
        cases h
        exact ⟨code, body, rfl, h4.1, h4.2, h404, rfl⟩
      rw [if_neg h4] at h
      by_cases h2 : 200 ≤ code ∧ code < 300
      · -- a body that is read never rejects
        rw [if_neg (not_not_intro h2)] at h
        cases body with
        | error report => cases h
        | ok bytes => exact absurd h (extract_ne_rejected _ _ _)
      · rw [if_pos h2] at h
        cases h
  · rintro ⟨code, body, rfl, hlo, hhi, h404, rfl⟩
    simp only [answerOf, h404, hlo, hhi, and_self, if_false, if_true]

/-! ## The request -/

section Request

variable (d : Dictionary) (text : String)

/-- A link is refused before sending only with the client's report that the
service is unreachable. -/
theorem request_error {r : FailureReason} (h : d.request text = .error r) : ∃ m, r = .unreachable m := by
  unfold Dictionary.request at h
  split at h
  · cases h
    exact ⟨_, rfl⟩
  · -- the URL after credentials leave it is refused or sent
    rename_i u _
    revert h
    generalize (if u.hasHost then requestUrl u else u) = v
    intro h
    by_cases hv : (!v.hasHost || !(v.scheme = "http" || v.scheme = "https")) = true
    · rw [if_pos hv] at h
      cases h
      exact ⟨_, rfl⟩
    · rw [if_neg hv] at h
      cases h

theorem fetch_of_request_error {r : FailureReason} (hreq : d.request text = .error r) (svc : Service) :
    d.fetch svc text = .error r := by
  unfold Dictionary.fetch
  rw [hreq]
  rfl

theorem fetch_of_request_ok {u : Url} (hreq : d.request text = .ok u) (svc : Service) :
    d.fetch svc text = answerOf u d.language (svc.reply u) := by
  unfold Dictionary.fetch
  rw [hreq]
  rfl

theorem lookup_success_iff_fetch (svc : Service) (t : String) :
    d.lookup svc text false = .success t ↔ d.fetch svc text = .ok t := by
  unfold Dictionary.lookup
  cases d.fetch svc text <;> simp

theorem lookup_failure_iff_fetch (svc : Service) (r : FailureReason) :
    d.lookup svc text false = .failure r ↔ d.fetch svc text = .error r := by
  unfold Dictionary.lookup
  cases d.fetch svc text <;> simp

/-- One request: two services that give the same reply to the request a
lookup sends give the lookup the same outcome. -/
theorem lookup_congr_reply {svc svc' : Service}
    (h : ∀ u, d.request text = .ok u → svc.reply u = svc'.reply u) (cancelled : Bool) :
    d.lookup svc text cancelled = d.lookup svc' text cancelled := by
  have hfetch : d.fetch svc text = d.fetch svc' text := by
    cases hreq : d.request text with
    | error r => rw [fetch_of_request_error d text hreq, fetch_of_request_error d text hreq]
    | ok u => rw [fetch_of_request_ok d text hreq, fetch_of_request_ok d text hreq, h u hreq]
  unfold Dictionary.lookup
  rw [hfetch]

/-- A link refused before sending fails the lookup with the client's
report, whatever the service. -/
theorem lookup_refused {r : FailureReason} (hreq : d.request text = .error r) (svc : Service) :
    d.lookup svc text false = .failure r :=
  (lookup_failure_iff_fetch d text svc r).2 (fetch_of_request_error d text hreq svc)

/-- A remote lookup succeeds exactly when the request is sent, the reply is
2xx with a body that was read, and the body holds a definition for the
language; the translation is the first such definition. -/
theorem lookup_success_iff (svc : Service) (t : String) :
    d.lookup svc text false = .success t ↔
      ∃ u code bytes, d.request text = .ok u ∧ svc.reply u = .replied code (.ok bytes) ∧
        200 ≤ code ∧ code < 300 ∧
        Dictionary.extract (Text.lossyString (if code = 204 then [] else bytes)) d.language = .ok t := by
  rw [lookup_success_iff_fetch]
  cases hreq : d.request text with
  | error r =>
    rw [fetch_of_request_error d text hreq]
    simp
  | ok u =>
    rw [fetch_of_request_ok d text hreq, answerOf_ok_iff]
    constructor
    · rintro ⟨code, bytes, hr, hlo, hhi, hx⟩
      exact ⟨u, code, bytes, rfl, hr, hlo, hhi, hx⟩
    · rintro ⟨u', code, bytes, hu', hr, hlo, hhi, hx⟩
      cases hu'
      exact ⟨code, bytes, hr, hlo, hhi, hx⟩

/-- A remote lookup is rejected exactly when the request is sent and the
reply's status is a 4xx other than 404; the rejection shows that status. -/
theorem lookup_rejected_iff (svc : Service) (m : String) :
    d.lookup svc text false = .failure (.rejected m) ↔
      ∃ u code body, d.request text = .ok u ∧ svc.reply u = .replied code body ∧
        400 ≤ code ∧ code < 500 ∧ code ≠ 404 ∧ m = "HTTP " ++ statusText code := by
  rw [lookup_failure_iff_fetch]
  cases hreq : d.request text with
  | error r =>
    -- a link refused before sending fails as unreachable, never as rejected
    obtain ⟨m', rfl⟩ := request_error d text hreq
    rw [fetch_of_request_error d text hreq]
    simp
  | ok u =>
    rw [fetch_of_request_ok d text hreq, answerOf_rejected_iff]
    constructor
    · rintro ⟨code, body, hr, hlo, hhi, hne, hm⟩
      exact ⟨u, code, body, rfl, hr, hlo, hhi, hne, hm⟩
    · rintro ⟨u', code, body, hu', hr, hlo, hhi, hne, hm⟩
      cases hu'
      exact ⟨code, body, hr, hlo, hhi, hne, hm⟩

/-- With a service that replies to nothing, a lookup whose request is sent
fails as unreachable, naming the URL it was sent to. -/
theorem lookup_silent {u : Url} (hreq : d.request text = .ok u) :
    d.lookup .silent text false = .failure (.unreachable ("error sending request for url (" ++ u.text ++ ")")) :=
  (lookup_failure_iff_fetch d text _ _).2 (fetch_of_request_ok d text hreq _)

end Request

end Typeahead.Remote
