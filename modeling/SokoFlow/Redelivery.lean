import SokoFlow.Webhook

/-!
# Deliveries of one message

The provider delivers a message again after every answer but 200.  The mark is
set before the task is enqueued, so a delivery that marks the message and fails
to enqueue it leaves the later ones nothing to do.
-/

namespace SokoFlow

open Effect ConversationStore

/-- The answers to a sequence of deliveries, with the gateway after each. -/
def serve (dep : Deployment) (codec : Codec) (g : Gateway) :
    List (Conditions × Request) → List (Answer × Gateway)
  | [] => []
  | (c, r) :: ds =>
      match webhook dep codec c r g with
      | .ok answer g' => (answer, g') :: serve dep codec g' ds
      | .error _ g' => (.error 500 "Internal Server Error", g') :: serve dep codec g' ds

/-- A correctly signed, well-formed delivery of a message. -/
def Carries (dep : Deployment) (codec : Codec) (id : String) (r : Request) : Prop :=
  ∃ body m, Accepted dep codec r body ∧ body.first = some m ∧ m.id = id

/-- All deliveries come while a mark the first of them sets is alive. -/
def InWindow (dep : Deployment) (ds : List (Conditions × Request)) : Prop :=
  ∀ first ∈ ds.head?, ∀ d ∈ ds, first.1.now ≤ d.1.now ∧
    d.1.now ≤ first.1.now + dep.settings.dedupTtlSeconds * 1000000

/-- Nothing is known of the message. -/
structure Gateway.Unheard (g : Gateway) (id : String) : Prop where
  unmarked : ∀ m ∈ g.marks, m.1 ≠ dedupKey id
  unqueued : g.enqueued id = 0

/-- Each delivery finds the task enqueued at most once, and has it enqueued if
it is answered 200. -/
def ExactlyOnce (id : String) (answers : List (Answer × Gateway)) : Prop :=
  ∀ p ∈ answers, p.2.enqueued id ≤ 1 ∧ (p.1.code = 200 → 0 < p.2.enqueued id)

/-- The call took effect, whatever the caller was told. -/
def Delivery.tookEffect : Delivery → Bool
  | refused _ => false
  | done | lost _ => true

/-- The first delivery that reaches Redis also enqueues the task, or Redis
answers no later one. -/
def Kept : List (Conditions × Request) → Prop
  | [] => True
  | (c, _) :: ds =>
      if c.redis.tookEffect then
        (c.redis = .done ∧ c.broker.tookEffect = true) ∨ ∀ d ∈ ds, d.1.redis ≠ .done
      else Kept ds

/-! ## One delivery -/

variable {dep : Deployment} {codec : Codec} {id : String} {c : Conditions} {r : Request}
  {g : Gateway} {ds : List (Conditions × Request)} {deadline : Timestamp}

theorem exactlyOnce_cons {p : Answer × Gateway} {ps : List (Answer × Gateway)} :
    ExactlyOnce id (p :: ps) ↔
      (p.2.enqueued id ≤ 1 ∧ (p.1.code = 200 → 0 < p.2.enqueued id)) ∧ ExactlyOnce id ps :=
  List.forall_mem_cons

theorem Gateway.Seen.earlier {now : Timestamp} (h : g.Seen id deadline) (hle : now ≤ deadline) :
    g.Seen id now := by
  obtain ⟨m, hm, hkey, htime⟩ := h
  exact ⟨m, hm, hkey, hle.trans htime⟩

theorem Gateway.Unheard.unseen (h : g.Unheard id) (now : Timestamp) : ¬ g.Seen id now := by
  rintro ⟨m, hm, hkey, -⟩
  exact h.unmarked m hm hkey

/-- A mark set now lives until the deadline. -/
theorem Gateway.seen_mark {now : Timestamp} {ttl : ℤ} (h : ¬ g.Seen id now)
    (hle : deadline ≤ now + ttl * 1000000) : (g.mark id now ttl).Seen id deadline := by
  unfold mark
  rw [if_neg h]
  exact ⟨_, List.mem_cons_self, rfl, hle⟩

/-- Without Redis, or with a time to live it refuses, nothing happens. -/
theorem webhook_of_unreached (h : Carries dep codec id r)
    (hoff : dep.settings.dedupTtlSeconds ≤ 0 ∨ c.redis.tookEffect = false) :
    webhook dep codec c r g = .ok .dedupFailed g := by
  obtain ⟨body, m, ha, hm, -⟩ := h
  rw [webhook_of_first ha hm, accept_apply]
  dsimp only
  split
  · rfl
  · rename_i httl
    have hr := hoff.resolve_left httl
    cases hredis : c.redis with
    | refused text => rfl
    | done => simp [hredis, Delivery.tookEffect] at hr
    | lost text => simp [hredis, Delivery.tookEffect] at hr

theorem webhook_of_seen (h : Carries dep codec id r) (httl : 0 < dep.settings.dedupTtlSeconds)
    (hseen : g.Seen id c.now) : webhook dep codec c r g =
      .ok (if c.redis = .done then .ignored else .dedupFailed) g := by
  obtain ⟨body, m, ha, hm, rfl⟩ := h
  rw [webhook_of_first ha hm, accept_apply]
  have hseen' : g.Seen (InboundMessagePayload.ofMessage (some (correlationId c r)) m).messageId
      c.now := hseen
  dsimp only
  rw [if_neg (by omega), Gateway.mark_of_seen hseen', if_pos hseen']
  cases c.redis <;> rfl

/-- The first time Redis is reached the message is marked, and then enqueued if
the broker takes it. -/
theorem webhook_of_unseen (h : Carries dep codec id r) (httl : 0 < dep.settings.dedupTtlSeconds)
    (hunseen : ¬ g.Seen id c.now) (hr : c.redis.tookEffect = true) :
    ∃ answer g', webhook dep codec c r g = .ok answer g' ∧
      (∀ deadline ≤ c.now + dep.settings.dedupTtlSeconds * 1000000, g'.Seen id deadline) ∧
      g'.enqueued id = g.enqueued id +
        (if c.redis = .done ∧ c.broker.tookEffect = true then 1 else 0) ∧
      (answer.code = 200 → c.redis = .done ∧ c.broker.tookEffect = true) := by
  obtain ⟨body, m, ha, hm, rfl⟩ := h
  rw [webhook_of_first ha hm, accept_apply]
  have hunseen' : ¬ g.Seen (InboundMessagePayload.ofMessage (some (correlationId c r)) m).messageId
      c.now := hunseen
  dsimp only
  rw [if_neg (by omega), if_neg hunseen']
  cases hredis : c.redis with
  | refused text => simp [hredis, Delivery.tookEffect] at hr
  | lost text =>
      refine ⟨_, _, rfl, fun _ ↦ Gateway.seen_mark hunseen, ?_, ?_⟩
      · simp [InboundMessagePayload.ofMessage]
      · simp [Answer.dedupFailed, Answer.code]
  | done =>
      dsimp only
      rw [dispatch_apply]
      cases hbroker : c.broker with
      | refused text =>
          refine ⟨_, _, rfl, fun _ ↦ Gateway.seen_mark hunseen, ?_, ?_⟩
          · simp [InboundMessagePayload.ofMessage, Delivery.tookEffect]
          · simp [Answer.dispatchFailed, Answer.code]
      | lost text =>
          refine ⟨_, _, rfl, fun _ ↦ Gateway.seen_mark hunseen, ?_, ?_⟩
          · simp [InboundMessagePayload.ofMessage, Delivery.tookEffect]
          · simp [Delivery.tookEffect]
      | done =>
          refine ⟨_, _, rfl, fun _ ↦ Gateway.seen_mark hunseen, ?_, ?_⟩
          · simp [InboundMessagePayload.ofMessage, Delivery.tookEffect]
          · simp [Delivery.tookEffect]

/-! ## Sequences -/

/-- Once the message is marked nothing is enqueued any more. -/
theorem serve_of_seen (hds : ∀ d ∈ ds, Carries dep codec id d.2)
    (httl : 0 < dep.settings.dedupTtlSeconds) (hseen : g.Seen id deadline)
    (hlate : ∀ d ∈ ds, d.1.now ≤ deadline) :
    (∀ p ∈ serve dep codec g ds, p.2 = g) ∧
      ((∃ p ∈ serve dep codec g ds, p.1.code = 200) ↔ ∃ d ∈ ds, d.1.redis = .done) := by
  induction ds with
  | nil => exact ⟨fun p hp ↦ (by cases hp), by simp [serve]⟩
  | cons d ds ih =>
      obtain ⟨c, r⟩ := d
      obtain ⟨hsame, hcode⟩ := ih (fun d hd ↦ hds d (List.mem_cons_of_mem _ hd))
        fun d hd ↦ hlate d (List.mem_cons_of_mem _ hd)
      have hw := webhook_of_seen (c := c) (hds (c, r) List.mem_cons_self) httl
        (hseen.earlier (hlate (c, r) List.mem_cons_self))
      unfold serve
      rw [hw]
      dsimp only
      refine ⟨List.forall_mem_cons.mpr ⟨rfl, hsame⟩, ?_⟩
      rw [List.exists_mem_cons_iff, List.exists_mem_cons_iff, hcode]
      apply or_congr_left
      split
      · rename_i hdone
        simp [hdone, Answer.ignored, Answer.code]
      · rename_i hdone
        simp [hdone, Answer.dedupFailed, Answer.code]

/-- What the deliveries after the marking one make of it. -/
theorem exactlyOnce_of_seen (hds : ∀ d ∈ ds, Carries dep codec id d.2)
    (httl : 0 < dep.settings.dedupTtlSeconds) (hseen : g.Seen id deadline)
    (hlate : ∀ d ∈ ds, d.1.now ≤ deadline) (hle : g.enqueued id ≤ 1) :
    ExactlyOnce id (serve dep codec g ds) ↔
      0 < g.enqueued id ∨ ∀ d ∈ ds, d.1.redis ≠ .done := by
  obtain ⟨hsame, hcode⟩ := serve_of_seen hds httl hseen hlate
  constructor
  · intro honce
    by_contra hnot
    rw [not_or, not_forall] at hnot
    obtain ⟨hnone, d, hd⟩ := hnot
    rw [Classical.not_imp, not_not] at hd
    obtain ⟨p, hp, h200⟩ := hcode.mpr ⟨d, hd⟩
    have hq := (honce p hp).2 h200
    rw [hsame p hp] at hq
    exact hnone hq
  · intro h p hp
    rw [hsame p hp]
    refine ⟨hle, fun h200 ↦ ?_⟩
    obtain ⟨d, hd, hdone⟩ := hcode.mp ⟨p, hp, h200⟩
    exact h.resolve_right fun hall ↦ hall d hd hdone

/-- Deliveries that Redis refuses change nothing. -/
theorem exactlyOnce_of_unheard (hds : ∀ d ∈ ds, Carries dep codec id d.2)
    (httl : 0 < dep.settings.dedupTtlSeconds) (hfresh : g.Unheard id)
    (hwindow : ∀ d ∈ ds, d.1.now ≤ deadline ∧
      deadline ≤ d.1.now + dep.settings.dedupTtlSeconds * 1000000) :
    ExactlyOnce id (serve dep codec g ds) ↔ Kept ds := by
  induction ds with
  | nil => exact ⟨fun _ ↦ trivial, fun _ p hp ↦ by cases hp⟩
  | cons d ds ih =>
      obtain ⟨c, r⟩ := d
      have hcarries := hds (c, r) List.mem_cons_self
      have hrest : ∀ d ∈ ds, Carries dep codec id d.2 :=
        fun d hd ↦ hds d (List.mem_cons_of_mem _ hd)
      have hlater := fun d hd ↦ hwindow d (List.mem_cons_of_mem _ hd)
      unfold serve Kept
      cases hr : c.redis.tookEffect with
      | false =>
          rw [webhook_of_unreached hcarries (.inr hr)]
          dsimp only
          rw [exactlyOnce_cons, if_neg (by simp), ih hrest hlater]
          refine and_iff_right ⟨?_, ?_⟩
          · rw [hfresh.unqueued]
            omega
          · simp [Answer.dedupFailed, Answer.code]
      | true =>
          obtain ⟨answer, g', hw, hmarked, hq, hcode⟩ :=
            webhook_of_unseen hcarries httl (hfresh.unseen c.now) hr
          rw [hw]
          dsimp only
          rw [hfresh.unqueued, zero_add] at hq
          have hseen : g'.Seen id deadline := hmarked _ (hwindow (c, r) List.mem_cons_self).2
          have hle : g'.enqueued id ≤ 1 := by
            rw [hq]
            split <;> omega
          rw [exactlyOnce_cons, if_pos rfl,
            exactlyOnce_of_seen hrest httl hseen (fun d hd ↦ (hlater d hd).1) hle]
          have hhead : g'.enqueued id ≤ 1 ∧ (answer.code = 200 → 0 < g'.enqueued id) := by
            refine ⟨hle, fun h200 ↦ ?_⟩
            rw [hq, if_pos (hcode h200)]
            exact Nat.one_pos
          rw [and_iff_right hhead, hq]
          apply or_congr_left
          split <;> simp_all

/-- Without a time to live no delivery is answered 200. -/
theorem exactlyOnce_of_ttl (hds : ∀ d ∈ ds, Carries dep codec id d.2)
    (httl : dep.settings.dedupTtlSeconds ≤ 0) (hnone : g.enqueued id = 0) :
    ExactlyOnce id (serve dep codec g ds) := by
  induction ds with
  | nil => exact fun p hp ↦ by cases hp
  | cons d ds ih =>
      obtain ⟨c, r⟩ := d
      unfold serve
      rw [webhook_of_unreached (hds (c, r) List.mem_cons_self) (.inl httl)]
      refine exactlyOnce_cons.mpr ⟨⟨?_, ?_⟩, ih fun d hd ↦ hds d (List.mem_cons_of_mem _ hd)⟩
      · rw [hnone]
        omega
      · simp [Answer.dedupFailed, Answer.code]

/-- A sequence in its window: the first delivery sets the deadline. -/
theorem exists_deadline (h : InWindow dep ds) : ∃ deadline, ∀ d ∈ ds, d.1.now ≤ deadline ∧
    deadline ≤ d.1.now + dep.settings.dedupTtlSeconds * 1000000 := by
  cases ds with
  | nil => exact ⟨0, fun d hd ↦ by cases hd⟩
  | cons first ds =>
      refine ⟨first.1.now + dep.settings.dedupTtlSeconds * 1000000, fun d hd ↦ ?_⟩
      obtain ⟨hle, hlate⟩ := h first rfl d hd
      exact ⟨hlate, Int.add_le_add_right hle _⟩

/-- Whatever fails, the task is enqueued at most once. -/
theorem enqueued_at_most_once (hds : ∀ d ∈ ds, Carries dep codec id d.2) (hfresh : g.Unheard id)
    (hwindow : InWindow dep ds) : ∀ p ∈ serve dep codec g ds, p.2.enqueued id ≤ 1 := by
  obtain ⟨deadline, hlate⟩ := exists_deadline hwindow
  clear hwindow
  induction ds with
  | nil => exact fun p hp ↦ by cases hp
  | cons d ds ih =>
      obtain ⟨c, r⟩ := d
      have hcarries := hds (c, r) List.mem_cons_self
      have hrest : ∀ d ∈ ds, Carries dep codec id d.2 :=
        fun d hd ↦ hds d (List.mem_cons_of_mem _ hd)
      have hlater := fun d hd ↦ hlate d (List.mem_cons_of_mem _ hd)
      unfold serve
      by_cases hoff : dep.settings.dedupTtlSeconds ≤ 0 ∨ c.redis.tookEffect = false
      · rw [webhook_of_unreached hcarries hoff]
        refine List.forall_mem_cons.mpr ⟨?_, ih hrest hlater⟩
        rw [hfresh.unqueued]
        omega
      · rw [not_or, not_le, Bool.not_eq_false] at hoff
        obtain ⟨answer, g', hw, hmarked, hq, -⟩ :=
          webhook_of_unseen hcarries hoff.1 (hfresh.unseen c.now) hoff.2
        have hseen : g'.Seen id deadline := hmarked _ (hlate (c, r) List.mem_cons_self).2
        have hle : g'.enqueued id ≤ 1 := by
          rw [hq, hfresh.unqueued]
          split <;> omega
        have hsame := (serve_of_seen hrest hoff.1 hseen fun d hd ↦ (hlater d hd).1).1
        rw [hw]
        refine List.forall_mem_cons.mpr ⟨hle, fun p hp ↦ ?_⟩
        rw [hsame p hp]
        exact hle

/-- A message is delivered exactly once unless the delivery that marked it did
not enqueue it and a later one is answered by Redis. -/
theorem delivered_once_iff (hds : ∀ d ∈ ds, Carries dep codec id d.2) (hfresh : g.Unheard id)
    (hwindow : InWindow dep ds) : ExactlyOnce id (serve dep codec g ds) ↔
      dep.settings.dedupTtlSeconds ≤ 0 ∨ Kept ds := by
  by_cases httl : dep.settings.dedupTtlSeconds ≤ 0
  · exact ⟨fun _ ↦ .inl httl, fun _ ↦ exactlyOnce_of_ttl hds httl hfresh.unqueued⟩
  · obtain ⟨deadline, hwindow⟩ := exists_deadline hwindow
    rw [exactlyOnce_of_unheard hds (by omega) hfresh hwindow, or_iff_right httl]

/-! The broker is down at the first delivery and back at the second. -/

def brokerDown : Conditions := ⟨0, ⟨1⟩, .done, .refused "broker is down"⟩

def outage : List (Conditions × Request) :=
  [(brokerDown, oneRequest), (.fine 1000000, oneRequest)]

theorem oneRequest_carries : Carries secured oneCodec "wamid.1" oneRequest :=
  ⟨bodyOf [hello], hello, oneRequest_accepted, rfl, rfl⟩

theorem unheard_empty (id : String) : ({} : Gateway).Unheard id :=
  ⟨fun _ hm ↦ (by cases hm), rfl⟩

/-- One delivery is enough; after an outage of the broker two are not. -/
theorem delivered_once_iff_of_outage :
    ExactlyOnce "wamid.1" (serve secured oneCodec {} [(.fine 0, oneRequest)]) ∧
      ¬ ExactlyOnce "wamid.1" (serve secured oneCodec {} outage) := by
  constructor
  · refine (delivered_once_iff (fun d hd ↦ ?_) (unheard_empty _) ?_).mpr (.inr (.inl ⟨rfl, rfl⟩))
    · cases List.mem_singleton.mp hd
      exact oneRequest_carries
    · intro first hfirst d hd
      cases hfirst
      cases List.mem_singleton.mp hd
      decide
  · intro h
    have hkept := (delivered_once_iff ?_ (unheard_empty _) ?_).mp h
    · rcases hkept with httl | hkept
      · exact absurd httl (by decide)
      · rcases hkept with ⟨-, hbroker⟩ | hnone
        · cases hbroker
        · exact hnone (.fine 1000000, oneRequest) List.mem_cons_self rfl
    · intro d hd
      simp only [outage, List.mem_cons, List.not_mem_nil, or_false] at hd
      rcases hd with rfl | rfl <;> exact oneRequest_carries
    · intro first hfirst d hd
      cases hfirst
      simp only [outage, List.mem_cons, List.not_mem_nil, or_false] at hd
      rcases hd with rfl | rfl <;> decide

/-- The second delivery is ignored with 200, and the task was never enqueued. -/
theorem redelivery_ignored :
    (∀ d ∈ outage, Carries secured oneCodec "wamid.1" d.2) ∧ InWindow secured outage ∧
      (serve secured oneCodec {} outage).map (fun p ↦ (p.1, p.2.enqueued "wamid.1")) =
        [(.dispatchFailed, 0), (.ignored, 0)] := by
  refine ⟨?_, ?_, by decide +kernel⟩
  · intro d hd
    simp only [outage, List.mem_cons, List.not_mem_nil, or_false] at hd
    rcases hd with rfl | rfl <;> exact oneRequest_carries
  · intro first hfirst d hd
    cases hfirst
    simp only [outage, List.mem_cons, List.not_mem_nil, or_false] at hd
    rcases hd with rfl | rfl <;> decide

end SokoFlow
