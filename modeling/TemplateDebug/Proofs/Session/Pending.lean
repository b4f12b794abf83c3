import TemplateDebug.Proofs.Session.Run
/-!
# Pending requests

What a message says about the requests that wait for a response: a request that sets breakpoints waits under its
number once it is redirected, and the response with that number ends the wait. Nothing else changes what is pending,
and nothing but the request that it answers changes what becomes of a message.
-/

namespace TemplateDebug

namespace Session

/-- The number of a request that sets breakpoints. -/
def requestSeq? (message : Json) : Option Int :=
  if clientRoute message = .redirect then (message.get? "seq").bind Json.int64? else none

/-- A request has its parts when it has a number and arguments. -/
theorem requestParts_eq_ok {message arguments : Json} {n : Int} (h : requestParts message = .ok (n, arguments)) :
    (message.get? "seq").bind Json.int64? = some n ∧ message.get? "arguments" = some arguments := by
  unfold requestParts at h
  split at h
  · cases h
  · rename_i hseq
    split at h
    · cases h
    · rename_i ha
      cases h
      exact ⟨hseq, ha⟩

/-- The number of the request that a response which reports breakpoints answers. -/
def answeredSeq? (message : Json) : Option Int :=
  match adapterRoute message with
  | .mapBack requestSeq _ => some requestSeq
  | _ => none

end Session

namespace Direct

open Session

variable {disk : Disk} {d : Direct} {pending : List Pending} {message : Json} {p : Pending} {n : Int}

/-- The request that a message from the client leaves pending. -/
def leaves? (disk : Disk) (d : Direct) (message : Json) : Option Pending :=
  if d.enabled ∧ clientRoute message = .redirect then
    match requestParts message with
    | .ok (requestSeq, arguments) => (d.site.redirect disk requestSeq arguments message).map (·.2)
    | .error _ => none
  else none

theorem requestSeq_of_redirect {site : Site} {requestSeq : Int} {arguments request : Json} {r : Json × Pending}
    (h : site.redirect disk requestSeq arguments request = some r) : r.2.requestSeq = requestSeq := by
  obtain ⟨template, compiled, markers, -, -, -, rfl⟩ := Site.redirect_eq_some h
  rfl

theorem requestSeq?_of_leaves? (h : d.leaves? disk message = some p) : requestSeq? message = some p.requestSeq := by
  unfold leaves? at h
  split at h
  · rename_i hroute
    split at h
    · rename_i requestSeq arguments hparts
      obtain ⟨r, hr, rfl⟩ := Option.map_eq_some_iff.1 h
      rw [requestSeq_of_redirect hr, requestSeq?, if_pos hroute.2]
      exact (requestParts_eq_ok hparts).1
    · cases h
  · cases h

theorem clientRoute_of_requestSeq? (h : requestSeq? message = some n) : clientRoute message = .redirect := by
  unfold requestSeq? at h
  split at h
  · rename_i hroute
    exact hroute
  · cases h

/-- A request that sets breakpoints goes on redirected, and is pending under its number, or goes on as it came. -/
theorem pass_request (hon : d.enabled = true) (hseq : requestSeq? message = some n) :
    d.pass disk .client message =
      match (message.get? "arguments").bind fun arguments => d.site.redirect disk n arguments message with
      | none => (message, d)
      | some r => (r.1, { d with pending := r.2 :: without d.pending n }) := by
  have hroute := clientRoute_of_requestSeq? hseq
  rw [requestSeq?, if_pos hroute] at hseq
  simp only [Direct.pass, hon, if_true, Direct.route, hroute, Direct.follow, Direct.redirectRequest, requestParts, hseq]
  cases message.get? "arguments" with
  | none => rfl
  | some arguments =>
    dsimp only [Option.bind_some]
    cases d.site.redirect disk n arguments message <;> rfl

/-- What is pending after a message from the client. -/
def afterRequest (disk : Disk) (d : Direct) (message : Json) (pending : List Pending) : List Pending :=
  match d.leaves? disk message with
  | some p => p :: without pending p.requestSeq
  | none => pending

/-- A message from the client goes on the same whatever is pending, and adds what it leaves pending. -/
theorem pass_client (disk : Disk) (d : Direct) (pending : List Pending) (message : Json) :
    Direct.pass disk .client message { d with pending } =
      ((d.pass disk .client message).1, { d with pending := d.afterRequest disk message pending }) := by
  unfold Direct.pass afterRequest leaves?
  cases d.enabled with
  | false => rfl
  | true =>
    simp only [if_true, true_and, Direct.route]
    rcases clientRoute_cases message with hroute | hroute <;> rw [hroute]
    · simp only [Direct.follow, Direct.redirectRequest, if_true]
      cases requestParts message with
      | error e => rfl
      | ok parts =>
        dsimp only
        cases hr : d.site.redirect disk parts.1 parts.2 message with
        | none => rfl
        | some r => simp only [Option.map_some, requestSeq_of_redirect hr]
    · rfl

theorem adapterRoute_ne_redirect (message : Json) : adapterRoute message ≠ .redirect := by
  unfold adapterRoute
  split
  · split
    · exact fun h => by cases h
    · split <;> exact fun h => by cases h
  · exact fun h => by cases h

/-- What becomes of a message from the adapter depends on what is pending only by the request that it answers. -/
theorem pass_adapter_congr {pending' : List Pending}
    (h : ∀ n, answeredSeq? message = some n → pending.find? (·.requestSeq = n) = pending'.find? (·.requestSeq = n)) :
    (Direct.pass disk .adapter message { d with pending }).1 =
      (Direct.pass disk .adapter message { d with pending := pending' }).1 := by
  unfold Direct.pass
  cases d.enabled with
  | false => rfl
  | true =>
    simp only [if_true, Direct.route]
    unfold answeredSeq? at h
    cases hroute : adapterRoute message with
    | mapBack requestSeq success =>
      rw [hroute] at h
      simp only [Direct.follow, Direct.answerRequest, h requestSeq rfl]
      split <;> rfl
    | redirect => exact absurd hroute (adapterRoute_ne_redirect message)
    | showTrace => rfl
    | pass => rfl

theorem without_of_find?_none (h : pending.find? (·.requestSeq = n) = none) : without pending n = pending := by
  refine List.filter_eq_self.2 fun p hp => ?_
  have := List.find?_eq_none.1 h p hp
  simpa using this

/-- What is pending after a message from the adapter. -/
def afterResponse (d : Direct) (message : Json) (pending : List Pending) : List Pending :=
  match answeredSeq? message with
  | some n => if d.enabled then without pending n else pending
  | none => pending

/-- A response takes the request that it answers from those that are pending. -/
theorem pass_adapter (disk : Disk) (d : Direct) (pending : List Pending) (message : Json) :
    (Direct.pass disk .adapter message { d with pending }).2 =
      { d with pending := d.afterResponse message pending } := by
  obtain ⟨enabled, site, -⟩ := d
  unfold Direct.pass afterResponse answeredSeq?
  cases enabled with
  | false => simp only [Bool.false_eq_true, if_false]; split <;> rfl
  | true =>
    simp only [if_true, Direct.route]
    cases hroute : adapterRoute message with
    | mapBack requestSeq success =>
      simp only [Direct.follow, Direct.answerRequest]
      split
      · rename_i hf
        rw [without_of_find?_none hf]
      · rfl
    | redirect => exact absurd hroute (adapterRoute_ne_redirect message)
    | showTrace => rfl
    | pass => rfl

theorem find?_without (pending : List Pending) (n k : Int) :
    (without pending k).find? (·.requestSeq = n) = if n = k then none else pending.find? (·.requestSeq = n) := by
  unfold without
  rw [List.find?_filter]
  split
  · rename_i hnk
    refine List.find?_eq_none.2 fun p _ => ?_
    simp only [hnk]
    by_cases hp : p.requestSeq = k <;> simp [hp]
  · rename_i hnk
    congr 1
    funext p
    by_cases hp : p.requestSeq = n <;> simp [hp, hnk]

end Direct

namespace Session

variable {disk : Disk} {d : Direct}

/-- A message from the client goes on in a run as it goes on by itself. -/
theorem client_outputs (t : Transcript) :
    ∀ {times : Times} {pending : List Pending} {s : Session}, s.Mirrors {disk} disk times { d with pending } →
      Always (run (t.on disk) s) fun r =>
        r.1.from .client = (t.from .client).map fun m => (d.pass disk .client m).1 := by
  induction t with
  | nil => exact fun _ => .of_pure rfl
  | cons m t ih =>
    intro times pending s h
    obtain ⟨side, message⟩ := m
    refine (pass_direct h rfl disk.tellsVersions_singleton side message).andThen ?_
    rintro ⟨out, s'⟩ ⟨hout, hs'⟩
    cases side with
    | client =>
      rw [Direct.pass_client] at hout hs'
      refine (ih hs').andThen ?_
      rintro ⟨outs, s''⟩ houts
      refine .of_pure ?_
      have hsame : out = (d.pass disk .client message).1 := hout fun h => by cases h
      simp only [Transcript.from_cons_self, List.map_cons] at houts ⊢
      rw [houts, hsame]
    | adapter =>
      rw [Direct.pass_adapter] at hs'
      refine (ih hs').andThen ?_
      rintro ⟨outs, s''⟩ houts
      refine .of_pure ?_
      simpa using houts

end Session

end TemplateDebug
