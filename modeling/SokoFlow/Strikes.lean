import SokoFlow.Conversation.Confirmation
import SokoFlow.Reachable

/-!
# Invalid inputs in a conversation

An input the handler refuses changes nothing but the error counter, and the
last one allowed ends the flow.  The counter is the number of refused inputs
since something was accepted, overridden or given up.
-/

namespace SokoFlow

open Effect FlowM FSMEngine

/-- What became of a message; a refused one may have been the last allowed. -/
inductive Verdict
  | overridden
  | accepted
  | refused (gaveUp : Bool)
  | raised
  deriving DecidableEq

def verdict (dep : Deployment) (s : UserSession) (visit : Backend × String) : Verdict :=
  if isOverride dep visit.2 then .overridden
  else match handler dep s.state visit.2 ⟨s, visit.1⟩ with
    | .ok _ _ => .accepted
    | .error (.invalidInput ..) _ =>
        .refused (decide (dep.settings.maxFsmErrors ≤ s.context.errorCount + 1))
    | .error _ _ => .raised

/-- The verdicts of a conversation, in order. -/
def verdicts (dep : Deployment) (s : UserSession) : List (Backend × String) → List Verdict
  | [] => []
  | visit :: visits => verdict dep s visit :: verdicts dep (hear dep s visit) visits

/-- The session starts over with its error counter. -/
def Verdict.settles : Verdict → Bool
  | overridden | accepted | refused true => true
  | refused false | raised => false

/-- Refused inputs after the last message that started the counter over. -/
def refusedSince (vs : List Verdict) : ℕ :=
  (vs.reverse.takeWhile fun v ↦ !v.settles).count (.refused false)

/-- The session at `IDLE` with only its shop and its history. -/
def UserSession.restarted (s : UserSession) (now : Timestamp) : UserSession where
  phone := s.phone
  state := .IDLE
  context := {
    shopId := s.context.shopId
    history := if s.state = .IDLE then s.context.history else s.context.history ++ [s.state]
    lastActivity := some now }

theorem reset_ok {previousState : SessionState} {key : MessageKey} {t t' : Turn} {r : FSMResult}
    (h : reset previousState key t = .ok r t') : ∃ now, t'.session = t.session.restarted now := by
  cases h
  exact ⟨time (later t), rfl⟩

/-! ## One message -/

variable {dep : Deployment} {s : UserSession} {visit : Backend × String}

theorem verdict_refused {gaveUp : Bool} (h : verdict dep s visit = .refused gaveUp) :
    isOverride dep visit.2 = false ∧
      gaveUp = decide (dep.settings.maxFsmErrors ≤ s.context.errorCount + 1) ∧
      ∃ message key params t, handler dep s.state visit.2 ⟨s, visit.1⟩ =
        .error (.invalidInput message key params) t := by
  unfold verdict at h
  split at h
  · cases h
  · rename_i ho
    rw [Bool.not_eq_true] at ho
    cases hr : handler dep s.state visit.2 ⟨s, visit.1⟩ with
    | ok r t => simp [hr] at h
    | error e t =>
        cases e <;> simp only [hr, Verdict.refused.injEq, reduceCtorEq] at h
        exact ⟨ho, h.symm, _, _, _, _, rfl⟩

/-- A refused input leaves the rows alone, and of the session it changes the
error counter or ends the flow. -/
theorem processMessage_of_refused {gaveUp : Bool} (h : verdict dep s visit = .refused gaveUp) :
    ∃ r t, processMessage dep visit.2 ⟨s, visit.1⟩ = .ok r t ∧
      Backend.Untouched visit.1 t.backend ∧
      if gaveUp then ∃ now, t.session = s.restarted now else t.session = s.refused := by
  obtain ⟨ho, hg, message, key, params, t₁, hr⟩ := verdict_refused h
  obtain ⟨hsame, hu⟩ := handler_refuses _ _ _ _ hr rfl
  have hp := processMessage_of_invalid (t := ⟨s, visit.1⟩) ho hr
  have hun := onInvalidInput_untouched dep s.state message key params t₁
  cases hk : onInvalidInput dep s.state message key params t₁ with
  | error e t =>
      unfold onInvalidInput at hk
      rw [setSession_bind, session_bind] at hk
      split at hk <;> cases hk
  | ok r t =>
      rw [hk] at hp hun
      refine ⟨r, t, hp, trans_of Backend.Untouched hu hun, ?_⟩
      rw [hg]
      rcases onInvalidInput_ok hk with ⟨hmax, h⟩ | ⟨hmax, rfl⟩
      · rw [hsame] at hmax
        have hmax' : dep.settings.maxFsmErrors ≤ s.context.errorCount + 1 := hmax
        rw [decide_eq_true hmax', if_pos rfl]
        obtain ⟨now, hnow⟩ := reset_ok h
        rw [hsame] at hnow
        exact ⟨now, hnow⟩
      · rw [hsame] at hmax
        have hmax' : s.context.errorCount + 1 < dep.settings.maxFsmErrors := hmax
        rw [decide_eq_false (by omega), if_neg (by simp)]
        exact congrArg UserSession.refused hsame

theorem hear_of_settles (h : (verdict dep s visit).settles = true) :
    (hear dep s visit).context.errorCount = 0 := by
  cases hv : verdict dep s visit with
  | raised => simp [hv, Verdict.settles] at h
  | refused gaveUp =>
      cases gaveUp with
      | false => simp [hv, Verdict.settles] at h
      | true =>
          obtain ⟨r, t, hp, -, now, hs⟩ := processMessage_of_refused hv
          simp only [hear, hp, hs]
          rfl
  | overridden =>
      unfold verdict at hv
      split at hv
      · rename_i ho
        unfold hear processMessage
        rw [session_bind, if_pos ho]
        rfl
      · split at hv <;> cases hv
  | accepted =>
      unfold verdict at hv
      split at hv
      · cases hv
      · rename_i ho
        rw [Bool.not_eq_true] at ho
        cases hr : handler dep s.state visit.2 ⟨s, visit.1⟩ with
        | ok r t =>
            simp only [hear, processMessage_of_ok (t := ⟨s, visit.1⟩) ho hr]
            rfl
        | error e t => cases e <;> simp [hr] at hv

/-- A message that does not counts if it was refused. -/
theorem hear_of_not_settles (h : (verdict dep s visit).settles = false) :
    (hear dep s visit).context.errorCount =
      s.context.errorCount + if verdict dep s visit = .refused false then 1 else 0 := by
  cases hv : verdict dep s visit with
  | overridden => simp [hv, Verdict.settles] at h
  | accepted => simp [hv, Verdict.settles] at h
  | refused gaveUp =>
      cases gaveUp with
      | true => simp [hv, Verdict.settles] at h
      | false =>
          obtain ⟨r, t, hp, -, hs⟩ := processMessage_of_refused hv
          rw [if_neg (by simp)] at hs
          simp only [hear, hp, hs, if_true]
          rfl
  | raised =>
      -- the session is not kept
      rw [if_neg (by simp), add_zero]
      unfold verdict at hv
      split at hv
      · cases hv
      · rename_i ho
        rw [Bool.not_eq_true] at ho
        cases hr : handler dep s.state visit.2 ⟨s, visit.1⟩ with
        | ok r t => simp [hr] at hv
        | error e t =>
            have he : e.isInvalidInput = false := by
              cases e <;> first | rfl | simp [hr] at hv
            simp only [hear, processMessage_of_error (t := ⟨s, visit.1⟩) ho hr he]

/-- The counter stays below the limit. -/
theorem hear_errorCount_lt (hmax : 1 ≤ dep.settings.maxFsmErrors)
    (h : s.context.errorCount < dep.settings.maxFsmErrors) :
    (hear dep s visit).context.errorCount < dep.settings.maxFsmErrors := by
  cases hset : (verdict dep s visit).settles with
  | true =>
      rw [hear_of_settles hset]
      omega
  | false =>
      rw [hear_of_not_settles hset]
      split
      · rename_i hv
        obtain ⟨-, hg, -⟩ := verdict_refused hv
        have := of_decide_eq_false hg.symm
        omega
      · omega

/-! ## Conversations -/

theorem verdicts_append (s : UserSession) (visits : List (Backend × String))
    (visit : Backend × String) :
    verdicts dep s (visits ++ [visit]) =
      verdicts dep s visits ++ [verdict dep (talk dep s visits) visit] := by
  induction visits generalizing s with
  | nil => rfl
  | cons v visits ih =>
      simp only [List.cons_append, verdicts, List.cons.injEq, true_and]
      exact ih (hear dep s v)

theorem refusedSince_append (vs : List Verdict) (v : Verdict) :
    refusedSince (vs ++ [v]) =
      if v.settles then 0 else refusedSince vs + if v = .refused false then 1 else 0 := by
  unfold refusedSince
  rw [List.reverse_append, List.reverse_singleton, List.singleton_append]
  cases hv : v.settles with
  | true => simp [hv]
  | false => simp [hv, List.count_cons]

theorem errorCount_eq (dep : Deployment) (phone : String) (visits : List (Backend × String)) :
    (talk dep (UserSession.fresh phone) visits).context.errorCount =
      refusedSince (verdicts dep (UserSession.fresh phone) visits) := by
  induction visits using List.reverseRecOn with
  | nil => rfl
  | append_singleton visits visit ih =>
      rw [talk_append, verdicts_append, refusedSince_append]
      cases hset : (verdict dep (talk dep (UserSession.fresh phone) visits) visit).settles with
      | true => exact hear_of_settles hset
      | false =>
          rw [hear_of_not_settles hset, ih]
          simp only [Bool.false_eq_true, if_false]
          split <;> simp

theorem errorCount_lt (dep : Deployment) (hmax : 1 ≤ dep.settings.maxFsmErrors) (phone : String)
    (visits : List (Backend × String)) :
    (talk dep (UserSession.fresh phone) visits).context.errorCount < dep.settings.maxFsmErrors := by
  induction visits using List.reverseRecOn with
  | nil => exact hmax
  | append_singleton visits visit ih =>
      rw [talk_append]
      exact hear_errorCount_lt hmax ih

/-- In any conversation a refused input leaves the rows alone and costs one
error, or the flow when it was the last one allowed. -/
theorem invalid_input_costs_one_error (dep : Deployment) (phone : String)
    (visits : List (Backend × String)) :
    let s := talk dep (UserSession.fresh phone) visits
    (∀ visit gaveUp, verdict dep s visit = .refused gaveUp →
      ∃ r t, processMessage dep visit.2 ⟨s, visit.1⟩ = .ok r t ∧
        Backend.Untouched visit.1 t.backend ∧
        if s.context.errorCount + 1 < dep.settings.maxFsmErrors then t.session = s.refused
        else ∃ now, t.session = s.restarted now) ∧
      (1 ≤ dep.settings.maxFsmErrors → s.context.errorCount < dep.settings.maxFsmErrors) ∧
      s.context.errorCount = refusedSince (verdicts dep (UserSession.fresh phone) visits) := by
  refine ⟨fun visit gaveUp hv ↦ ?_, fun hmax ↦ errorCount_lt dep hmax phone visits,
    errorCount_eq dep phone visits⟩
  obtain ⟨r, t, hp, hu, hs⟩ := processMessage_of_refused hv
  obtain ⟨-, rfl, -⟩ := verdict_refused hv
  refine ⟨r, t, hp, hu, ?_⟩
  split
  · rename_i hlt
    rwa [decide_eq_false (by omega), if_neg (by simp)] at hs
  · rename_i hlt
    rwa [decide_eq_true (by omega), if_pos rfl] at hs

/-- Three messages nobody understands. -/
theorem invalid_input_costs_one_error_of_noise :
    let noise := (Backend.connect .calm .sample, "zz")
    let s := talk .sample (UserSession.fresh "254700000001") [noise, noise]
    s.context.errorCount = 2 ∧
      ∃ r t, processMessage .sample "zz" ⟨s, noise.1⟩ = .ok r t ∧
        Backend.Untouched noise.1 t.backend ∧ ∃ now, t.session = s.restarted now := by
  obtain ⟨h, -, hc⟩ := invalid_input_costs_one_error .sample "254700000001"
    [(Backend.connect .calm .sample, "zz"), (Backend.connect .calm .sample, "zz")]
  have htwo : refusedSince (verdicts .sample (UserSession.fresh "254700000001")
      [(Backend.connect .calm .sample, "zz"), (Backend.connect .calm .sample, "zz")]) = 2 := by
    decide +kernel
  rw [htwo] at hc
  obtain ⟨r, t, hp, hu, hs⟩ := h (Backend.connect .calm .sample, "zz") true (by decide +kernel)
  refine ⟨hc, r, t, hp, hu, ?_⟩
  rwa [if_neg (by rw [hc]; decide)] at hs

end SokoFlow
