import Muefs.Deliveries.Runs

/-!
# Requests with the tokens that bring them

* `SignedRequest` : a request with the claims of its token; `signedProgram` : its sign-in and the request, in one
  transaction; `signedPortal` : the system of them;
* `signedProgram_ordinary`, `signedProgram_ends` : what the sign-in adds to a request;
* `signedPortal_step` : a step changes stored objects, or is a commit.
-/

namespace Muefs
open RowLocks Txn

/-! ## The system -/

/-- A request with the claims of the token that brings it, or without a token: with the header of a demonstration. -/
structure SignedRequest where
  token : Option Claims
  request : ServiceRequest

/-- `get_current_user` and then the request, which is served for the account of its token. -/
def signedProgram (cfg : Settings) (r : SignedRequest) : Service ServiceResponse :=
  match r.token, r.request.actor with
  | some claims, some userId => do
    let user ← ofPortal (resolveUser cfg claims)
    Txn.require (user.1 = userId) (.http 401 "Authentication required")
    serviceProgram cfg r.request
  | _, _ => serviceProgram cfg r.request

/-- The system. -/
def signedPortal (cfg : Settings) : System BothView Failure ServiceResponse SignedRequest where
  program := signedProgram cfg
  row := isBothRow

abbrev SignedWorld := World BothView Failure ServiceResponse SignedRequest

abbrev SignedSession := Session BothView Failure ServiceResponse SignedRequest

variable {cfg : Settings} {r : SignedRequest} {claims : Claims} {userId : UserId}

theorem signedProgram_plain (h : r.token = none ∨ r.request.actor = none) :
    signedProgram cfg r = serviceProgram cfg r.request := by
  unfold signedProgram
  rcases h with h | h <;> simp [h]

theorem signedProgram_token (htoken : r.token = some claims) (hactor : r.request.actor = some userId) :
    signedProgram cfg r = ofPortal (resolveUser cfg claims) >>= fun user =>
      Txn.require (user.1 = userId) (.http 401 "Authentication required") >>= fun _ =>
        serviceProgram cfg r.request := by
  unfold signedProgram
  simp only [htoken, hactor]

theorem SignedRequest.plain_or_token (r : SignedRequest) : (r.token = none ∨ r.request.actor = none) ∨
    ∃ claims userId, r.token = some claims ∧ r.request.actor = some userId := by
  cases htoken : r.token with
  | none => exact .inl (.inl rfl)
  | some claims =>
    cases hactor : r.request.actor with
    | none => exact .inl (.inr rfl)
    | some userId => exact .inr ⟨claims, userId, rfl, rfl⟩

/-! ## What a sign-in adds -/

theorem signedProgram_ordinary (r : SignedRequest) : (signedProgram cfg r).Asks (BothOrdinary fun _ => True) := by
  have hrequest : (serviceProgram cfg r.request).Asks (BothOrdinary fun _ => True) :=
    serviceProgram_ordinary fun _ _ => trivial
  rcases r.plain_or_token with hplain | ⟨claims, userId, htoken, hactor⟩
  · rwa [signedProgram_plain hplain]
  · rw [signedProgram_token htoken hactor]
    have hsignIn : (resolveUser cfg claims).Asks (Ordinary fun _ => True) :=
      (resolveUser_onAccounts claims fun _ => trivial).mono fun _ => OnAccounts.ordinary
    exact (ofPortal_ordinary hsignIn).bind fun user => .bind asks_require fun _ => hrequest

theorem signedPortal_step {w w' : SignedWorld} (hs : Step (signedPortal cfg) w w') :
    (∀ g, isObject g = false → w'.db g = w.db g) ∨
      ∃ sid s a, Commits (signedPortal cfg) w sid s a ∧ w' = w.committed sid s a :=
  step_cases_of_ordinary (fun r => ⟨fun _ => True, signedProgram_ordinary r⟩) hs

/-- A request that writes no case type. -/
def SparesCaseTypes : Op BothView → Prop
  | .write (.inl (.caseType _)) _ | .write (.inl (.courtCaseTypes _)) _ => False
  | _ => True

theorem OnAccounts.spares {own : UserId → Prop} {o : Op View} (h : OnAccounts own o) :
    SparesCaseTypes (o.left ServiceView) := by
  cases o with
  | write g f =>
    cases g with
    | user | accountKey | userIds => trivial
    | _ => exact h.elim
  | _ => trivial

/-- **A signed request is its sign-in and then the request,** and the sign-in writes no case type. -/
theorem signedProgram_ends {tr : BothTrace} {a : ServiceResponse} (h : (signedProgram cfg r).Ends tr a) :
    ∃ tr₁ tr₂, tr = tr₁ ++ tr₂ ∧ (∀ e ∈ tr₁, SparesCaseTypes e.op) ∧ (serviceProgram cfg r.request).Ends tr₂ a := by
  rcases r.plain_or_token with hplain | ⟨claims, userId, htoken, hactor⟩
  · rw [signedProgram_plain hplain] at h
    exact ⟨[], tr, rfl, fun _ he => absurd he List.not_mem_nil, h⟩
  · have hsignIn : (resolveUser cfg claims).Asks (OnAccounts fun _ => True) :=
      resolveUser_onAccounts claims fun _ => trivial
    have hspares : (ofPortal (resolveUser cfg claims)).Asks SparesCaseTypes :=
      hsignIn.left fun _ => OnAccounts.spares
    rw [signedProgram_token htoken hactor] at h
    obtain ⟨tr₁, tr₂, user, rfl, h₁, h₂⟩ := ends_bind.1 h
    refine ⟨tr₁, tr₂, rfl, hspares.after h₁, ?_⟩
    by_cases hsame : user.1 = userId
    · simpa [Txn.require, hsame, ends_bind, ends_done] using h₂
    · simp [Txn.require, hsame, ends_bind, ends_raise] at h₂

end Muefs
