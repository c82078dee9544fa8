import SokoFlow.Foundation.Runs
import SokoFlow.Conversation.Lookups

/-!
# First contact

Calls of `get_shop_id` for one sender, each in a session of its own.  A call
looks for the shop, adds it to its session when there is none, inserts it with
the commit and reads the row again; the steps of different calls come in any
order, and each sees what is committed by then.
-/

namespace SokoFlow.FirstContact

open Runs

inductive Call
  | started
  | missing
  | adding
  | added (id : UUID)
  | returned (id : UUID)
  | raised (e : Exc)

namespace Call

/-- The call has found no shop and not yet committed its own. -/
def pending : Call → Bool
  | missing | adding => true
  | _ => false

def ended : Call → Bool
  | returned _ | raised _ => true
  | _ => false

/-- The shop of a call that has found or made one. -/
def shopId : Call → Option UUID
  | added id | returned id => some id
  | _ => none

def isRaised : Call → Bool
  | raised _ => true
  | _ => false

/-- The call has lost the race for the phone. -/
def isRefused : Call → Bool
  | raised (.integrityError _) => true
  | _ => false

/-- How many steps are still to come, at most. -/
def remaining : Call → ℕ
  | started => 4
  | missing => 3
  | adding => 2
  | added _ => 1
  | returned _ | raised _ => 0

end Call

structure System where
  committed : Database
  calls : List Call

namespace System

/-- The sender has no shop and no call has done anything. -/
def Fresh (phone : String) (s : System) : Prop :=
  s.committed.shopByPhone phone = none ∧ ∀ c ∈ s.calls, c = .started

def set (s : System) (i : ℕ) (c : Call) : System := { s with calls := s.calls.set i c }

@[simp] theorem set_committed (s : System) (i : ℕ) (c : Call) :
    (s.set i c).committed = s.committed := rfl

/-- Call `i` is at `c`. -/
abbrev Is (s : System) (i : ℕ) (c : Call) : Prop := s.calls[i]? = some c

/-- Every call is over. -/
def Ended (s : System) : Prop := ∀ c ∈ s.calls, c.ended = true

instance (s : System) : Decidable s.Ended := inferInstanceAs (Decidable (∀ c ∈ s.calls, _))

/-- That many calls, on an empty database. -/
def start (n : ℕ) : System := ⟨.empty, List.replicate n .started⟩

theorem start_fresh (n : ℕ) (phone : String) : (start n).Fresh phone :=
  ⟨rfl, fun _ hc ↦ List.eq_of_mem_replicate hc⟩

end System

/-- A commit comes with the id that PostgreSQL draws for the new row. -/
inductive Action
  | select (i : ℕ)
  | insert (i : ℕ)
  | commit (i : ℕ) (id : UUID)
  | refresh (i : ℕ)

/-- The call that makes the step. -/
def Action.call : Action → ℕ
  | select i | insert i | commit i _ | refresh i => i

/-- The flush of the commit inserts the row. -/
def insertDemoShop (phone : String) (id : UUID) : Database → Except Exc (Shop × Database) :=
  Database.insertShop phone (some "SokoFlow Demo Shop") .en id

/-- The call after its select. -/
def selected (phone : String) (db : Database) : Call :=
  match db.shopByPhone phone with
  | some shop => .returned shop.id
  | none => .missing

/-- The call after its refresh. -/
def refreshed (id : UUID) (db : Database) : Call :=
  match Table.lookup Shop.id id db.shops with
  | some shop => .returned shop.id
  | none => .raised (.other "InvalidRequestError" "Could not refresh instance")

def step (phone : String) (s : System) : Action → Option System
  | .select i => match s.calls[i]? with
      | some .started => some (s.set i (selected phone s.committed))
      | _ => none
  | .insert i => match s.calls[i]? with
      | some .missing => some (s.set i .adding)
      | _ => none
  | .commit i id => match s.calls[i]? with
      | some .adding => match insertDemoShop phone id s.committed with
          | .ok (shop, db) => some ({ s with committed := db }.set i (.added shop.id))
          | .error e => some (s.set i (.raised e))
      | _ => none
  | .refresh i => match s.calls[i]? with
      | some (.added id) => some (s.set i (refreshed id s.committed))
      | _ => none

/-- What one step can do. -/
inductive Step (phone : String) (s : System) : Action → System → Prop
  | select {i : ℕ} (h : s.Is i .started) :
      Step phone s (.select i) (s.set i (selected phone s.committed))
  | insert {i : ℕ} (h : s.Is i .missing) : Step phone s (.insert i) (s.set i .adding)
  | commit {i : ℕ} {id : UUID} {shop : Shop} {db : Database} (h : s.Is i .adding)
      (hr : insertDemoShop phone id s.committed = .ok (shop, db)) :
      Step phone s (.commit i id) ({ s with committed := db }.set i (.added shop.id))
  | refused {i : ℕ} {id : UUID} {e : Exc} (h : s.Is i .adding)
      (hr : insertDemoShop phone id s.committed = .error e) :
      Step phone s (.commit i id) (s.set i (.raised e))
  | refresh {i : ℕ} {id : UUID} (h : s.Is i (.added id)) :
      Step phone s (.refresh i) (s.set i (refreshed id s.committed))

variable {phone : String} {s s' : System} {a : Action} {history : List (Moment System Action)}

theorem step_cases (h : step phone s a = some s') : Step phone s a s' := by
  cases a with
  | select i =>
      simp only [step] at h
      split at h <;> cases h
      rename_i hi
      exact .select hi
  | insert i =>
      simp only [step] at h
      split at h <;> cases h
      rename_i hi
      exact .insert hi
  | commit i id =>
      simp only [step] at h
      split at h
      · rename_i hi
        split at h <;> cases h
        · rename_i hr
          exact .commit hi hr
        · rename_i hr
          exact .refused hi hr
      · cases h
  | refresh i =>
      simp only [step] at h
      split at h <;> cases h
      rename_i hi
      exact .refresh hi

/-! ## The race -/

/-- Whether the step is one of call `i`. -/
def stepsOf (i : ℕ) (m : Moment System Action) : ℕ := if m.label.call = i then 1 else 0

/-- What first contact promises: every call returns, within four steps of its
own, all with the id of the one shop of the phone. -/
structure RaceFree (phone : String) (history : List (Moment System Action)) (s : System) :
    Prop where
  returns : ∀ i c, s.Is i c →
    (∃ id, c = .returned id) ∨ ∃ a s', a.call = i ∧ step phone s a = some s'
  bounded : ∀ i, count (stepsOf i) history ≤ 4
  agree : ∀ i j id id', s.Is i (.returned id) → s.Is j (.returned id') → id = id'
  one : ∀ i id, s.Is i (.returned id) →
    ∃ shop, s.committed.shops.filter (·.phone = phone) = [shop] ∧ shop.id = id

/-- No call looks for the shop while another has missed it and not yet
committed its own, and the phone fits its column. -/
def Alone (phone : String) (s : System) : Action → Prop
  | .select _ => ∀ c ∈ s.calls, c.pending = false
  | .commit _ _ => FitsText 20 phone
  | _ => True

instance (phone : String) (s : System) (a : Action) : Decidable (Alone phone s a) := by
  cases a <;> simp only [Alone] <;> infer_instance

/-! ## One step -/

section Database

variable {db db' : Database} {id : UUID} {shop : Shop} {e : Exc}

theorem insertDemoShop_ok (h : insertDemoShop phone id db = .ok (shop, db')) :
    db.shopByPhone phone = none ∧ db'.shopByPhone phone = some shop := by
  obtain ⟨hrows, hphone, -, -⟩ := Database.insertShop_ok h
  have hn := db'.valid.shops.phones
  have hmem : shop ∈ db'.shops := by
    rw [hrows]
    exact List.mem_append_right _ (List.mem_singleton_self _)
  constructor
  · apply Table.lookup_eq_none.mpr
    intro other hother heq
    rw [hrows, List.map_append, List.nodup_append] at hn
    exact hn.2.2 _ (List.mem_map_of_mem hother) _ (List.mem_singleton_self _) (heq.trans hphone.symm)
  · rw [Database.shopByPhone, ← hphone]
    exact Table.lookup_of_mem hn hmem

/-- An insert only fails for a phone that has a shop or does not fit. -/
theorem insertDemoShop_error (h : insertDemoShop phone id db = .error e)
    (hfits : FitsText 20 phone) : ∃ shop, db.shopByPhone phone = some shop := by
  cases hshop : db.shopByPhone phone with
  | some shop => exact ⟨shop, rfl⟩
  | none =>
      obtain ⟨shop, db', hr⟩ :=
        Database.insertShop_of_fits (some "SokoFlow Demo Shop") .en id hfits hshop
      rw [insertDemoShop, hr] at h
      cases h

theorem insertDemoShop_fits (h : insertDemoShop phone id db = .ok (shop, db')) :
    FitsText 20 phone := by
  obtain ⟨hfits, -, -⟩ := Database.write_eq_ok.mp h
  exact hfits

theorem selected_cases (phone : String) (db : Database) :
    (∃ shop, db.shopByPhone phone = some shop ∧ selected phone db = .returned shop.id) ∨
      (db.shopByPhone phone = none ∧ selected phone db = .missing) := by
  unfold selected
  cases h : db.shopByPhone phone with
  | some shop => exact .inl ⟨shop, rfl, rfl⟩
  | none => exact .inr ⟨rfl, rfl⟩

theorem refreshed_of_shop (h : db.shopByPhone phone = some shop) :
    refreshed shop.id db = .returned shop.id := by
  have hmem : shop ∈ db.shops := Table.mem_of_lookup h
  rw [refreshed, Table.lookup_of_mem db.valid.shops.ids hmem]

theorem shops_of_lookup (h : db.shopByPhone phone = some shop) :
    db.shops.filter (·.phone = phone) = [shop] :=
  Table.filter_of_lookup db.valid.shops.phones h

end Database

theorem call_of_set {i j : ℕ} {c d : Call} (h : (s.set i c).Is j d) :
    (j = i ∧ d = c) ∨ (j ≠ i ∧ s.Is j d) := party_of_set h

/-- A step moves one call, and brings it nearer to its end. -/
theorem calls_of_step (hs : Step phone s a s') : ∃ c c', s.Is a.call c ∧
    s'.calls = s.calls.set a.call c' ∧ c'.remaining < c.remaining := by
  cases hs with
  | select hi =>
      refine ⟨_, _, hi, rfl, ?_⟩
      rcases selected_cases phone s.committed with ⟨shop, -, hc⟩ | ⟨-, hc⟩ <;> simp [hc, Call.remaining]
  | insert hi => exact ⟨_, _, hi, rfl, by simp [Call.remaining]⟩
  | commit hi _ => exact ⟨_, _, hi, rfl, by simp [Call.remaining]⟩
  | refused hi _ => exact ⟨_, _, hi, rfl, by simp [Call.remaining]⟩
  | @refresh _ id hi =>
      refine ⟨_, _, hi, rfl, ?_⟩
      unfold refreshed
      split <;> simp [Call.remaining]

theorem exists_step {i : ℕ} {c : Call} (hi : s.Is i c) (hc : c.ended = false) :
    ∃ a s', a.call = i ∧ step phone s a = some s' := by
  cases c with
  | started => exact ⟨.select i, s.set i (selected phone s.committed), rfl, by simp [step, hi]⟩
  | missing => exact ⟨.insert i, s.set i .adding, rfl, by simp [step, hi]⟩
  | adding =>
      cases hr : insertDemoShop phone ⟨0⟩ s.committed with
      | ok r =>
          exact ⟨.commit i ⟨0⟩, { s with committed := r.2 }.set i (.added r.1.id), rfl,
            by simp [step, hi, hr]⟩
      | error e => exact ⟨.commit i ⟨0⟩, s.set i (.raised e), rfl, by simp [step, hi, hr]⟩
  | added id => exact ⟨.refresh i, s.set i (refreshed id s.committed), rfl, by simp [step, hi]⟩
  | returned id => cases hc
  | raised e => cases hc

/-- Steps still to come of call `i`. -/
def System.left (s : System) (i : ℕ) : ℕ := (s.calls[i]?.map Call.remaining).getD 0

theorem left_le (s : System) (i : ℕ) : s.left i ≤ 4 := by
  unfold System.left
  cases s.calls[i]? with
  | none => simp
  | some c => cases c <;> simp [Call.remaining]

theorem bounded_step (hs : Step phone s a s')
    (h : ∀ i, count (stepsOf i) history + s.left i ≤ 4) (i : ℕ) :
    count (stepsOf i) (history ++ [⟨s, a, s'⟩]) + s'.left i ≤ 4 := by
  obtain ⟨c, c', hc, hcalls, hlt⟩ := calls_of_step hs
  have hi := h i
  rw [count_append]
  by_cases hai : a.call = i
  · subst hai
    have hs' : s'.calls[a.call]? = some c' := hcalls ▸ party_of_set_self hc c'
    simp only [stepsOf, if_true, System.left, hs', hc, Option.map_some, Option.getD_some] at hi ⊢
    omega
  · have hleft : s'.left i = s.left i := by
      rw [System.left, hcalls, List.getElem?_set_ne hai, System.left]
    simpa [stepsOf, hai, hleft] using hi

theorem bounded_of_run {ok : System → Action → Prop}
    (run : Run (System.Fresh phone) (Steps (step phone) ok) history s) (i : ℕ) :
    count (stepsOf i) history + s.left i ≤ 4 := by
  revert i
  apply run.invariant (I := fun history s ↦ ∀ i, count (stepsOf i) history + s.left i ≤ 4)
  · intro s _ i
    simpa using left_le s i
  · intro history s a s' h hs
    exact bounded_step (step_cases hs.1) h

/-! ## Calls that come one by one -/

/-- At most one call has missed the shop, none while it exists, and who has a
shop has the one of the phone. -/
structure Sound (phone : String) (s : System) : Prop where
  silent : ∀ i c, s.Is i c → c.isRaised = false
  first : ∀ i c, s.Is i c → c.pending = true → s.committed.shopByPhone phone = none
  unique : ∀ i j c d, s.Is i c → s.Is j d → c.pending = true → d.pending = true → i = j
  found : ∀ i c id, s.Is i c → c.shopId = some id →
    ∃ shop, s.committed.shopByPhone phone = some shop ∧ shop.id = id

theorem sound_of_fresh (h : s.Fresh phone) : Sound phone s := by
  have started : ∀ i c, s.Is i c → c = .started :=
    fun i c hi ↦ h.2 c (List.mem_of_getElem? hi)
  refine ⟨?_, ?_, ?_, ?_⟩
  · intro i c hi
    rw [started i c hi]
    rfl
  · intro _ _ _ _
    exact h.1
  · intro i j c d hi _ hc
    rw [started i c hi] at hc
    cases hc
  · intro i c id hi hc
    rw [started i c hi] at hc
    cases hc

/-- A step that commits nothing, to a state that keeps with the invariant. -/
theorem Sound.moved {i : ℕ} {c : Call} (h : Sound phone s) (hr : c.isRaised = false)
    (hp : c.pending = true → s.committed.shopByPhone phone = none ∧
      ∀ j d, j ≠ i → s.Is j d → d.pending = false)
    (hid : ∀ id, c.shopId = some id →
      ∃ shop, s.committed.shopByPhone phone = some shop ∧ shop.id = id) :
    Sound phone (s.set i c) := by
  refine ⟨?_, ?_, ?_, ?_⟩
  · intro j d hj
    rcases call_of_set hj with ⟨-, rfl⟩ | ⟨-, hj⟩
    · exact hr
    · exact h.silent j d hj
  · intro j d hj hd
    rcases call_of_set hj with ⟨-, rfl⟩ | ⟨-, hj⟩
    · exact (hp hd).1
    · exact h.first j d hj hd
  · intro j k d d' hj hk hd hd'
    rcases call_of_set hj with ⟨rfl, rfl⟩ | ⟨hji, hj'⟩
    · rcases call_of_set hk with ⟨rfl, -⟩ | ⟨hki, hk'⟩
      · rfl
      · rw [(hp hd).2 k d' hki hk'] at hd'
        cases hd'
    · rcases call_of_set hk with ⟨rfl, rfl⟩ | ⟨-, hk'⟩
      · rw [(hp hd').2 j d hji hj'] at hd
        cases hd
      · exact h.unique j k d d' hj' hk' hd hd'
  · intro j d id hj hd
    rcases call_of_set hj with ⟨-, rfl⟩ | ⟨-, hj⟩
    · exact hid id hd
    · exact h.found j d id hj hd

theorem sound_step (hs : Step phone s a s') (ha : Alone phone s a) (h : Sound phone s) :
    Sound phone s' := by
  cases hs with
  | @select i hi =>
      rcases selected_cases phone s.committed with ⟨shop, hshop, hc⟩ | ⟨hnone, hc⟩ <;> rw [hc]
      · apply h.moved rfl
        · simp [Call.pending]
        · intro id hid
          cases hid
          exact ⟨shop, hshop, rfl⟩
      · apply h.moved rfl
        · intro _
          exact ⟨hnone, fun j d _ hj ↦ ha d (List.mem_of_getElem? hj)⟩
        · simp [Call.shopId]
  | @insert i hi =>
      apply h.moved rfl
      · intro _
        refine ⟨h.first i _ hi rfl, fun j d hj hd ↦ ?_⟩
        by_contra hp
        exact hj (h.unique j i d _ hd hi (by simpa using hp) rfl)
      · simp [Call.shopId]
  | @commit i id shop db hi hr =>
      obtain ⟨hnone, hsome⟩ := insertDemoShop_ok hr
      -- nobody has a shop yet, and `i` was the only call that missed it
      have others : ∀ j d, j ≠ i → s.Is j d → d.pending = false ∧ d.shopId = none := by
        intro j d hj hd
        constructor
        · by_contra hp
          exact hj (h.unique j i d _ hd hi (by simpa using hp) rfl)
        · by_contra hid
          obtain ⟨id', hid⟩ := Option.ne_none_iff_exists'.mp hid
          obtain ⟨shop', hshop', -⟩ := h.found j d id' hd hid
          rw [hnone] at hshop'
          cases hshop'
      refine ⟨?_, ?_, ?_, ?_⟩
      · intro j d hj
        rcases call_of_set hj with ⟨-, rfl⟩ | ⟨-, hj⟩
        · rfl
        · exact h.silent j d hj
      · intro j d hj hd
        rcases call_of_set hj with ⟨-, rfl⟩ | ⟨hji, hj⟩
        · cases hd
        · rw [(others j d hji hj).1] at hd
          cases hd
      · intro j k d d' hj hk hd hd'
        rcases call_of_set hj with ⟨-, rfl⟩ | ⟨hji, hj⟩
        · cases hd
        · rw [(others j d hji hj).1] at hd
          cases hd
      · intro j d id' hj hd
        rcases call_of_set hj with ⟨-, rfl⟩ | ⟨hji, hj⟩
        · cases hd
          exact ⟨shop, hsome, rfl⟩
        · rw [(others j d hji hj).2] at hd
          cases hd
  | @refused i id e hi hr =>
      obtain ⟨shop, hshop⟩ := insertDemoShop_error hr ha
      rw [h.first i _ hi rfl] at hshop
      cases hshop
  | @refresh i id hi =>
      obtain ⟨shop, hshop, rfl⟩ := h.found i _ id hi rfl
      rw [refreshed_of_shop hshop]
      apply h.moved rfl
      · simp [Call.pending]
      · intro id hid
        cases hid
        exact ⟨shop, hshop, rfl⟩

theorem raceFree_of_sound (h : Sound phone s) (hb : ∀ i, count (stepsOf i) history ≤ 4) :
    RaceFree phone history s := by
  have one : ∀ i id, s.Is i (.returned id) →
      ∃ shop, s.committed.shopByPhone phone = some shop ∧ shop.id = id :=
    fun i id hi ↦ h.found i _ id hi rfl
  refine ⟨?_, hb, ?_, ?_⟩
  · intro i c hi
    cases hc : c.ended with
    | false => exact .inr (exists_step hi hc)
    | true =>
        have hr := h.silent i c hi
        cases c with
        | returned id => exact .inl ⟨id, rfl⟩
        | raised e => cases hr
        | _ => cases hc
  · intro i j id id' hi hj
    obtain ⟨shop, hshop, rfl⟩ := one i id hi
    obtain ⟨shop', hshop', rfl⟩ := one j id' hj
    rw [hshop] at hshop'
    cases hshop'
    rfl
  · intro i id hi
    obtain ⟨shop, hshop, hid⟩ := one i id hi
    exact ⟨shop, shops_of_lookup hshop, hid⟩

/-! ## Calls that meet -/

/-- How many rows the phone has or is to get: its shop, and one for each call that missed it. -/
def System.claims (phone : String) (s : System) : ℕ :=
  s.calls.countP Call.pending + (s.committed.shopByPhone phone).isSome.toNat

/-- A call has failed, or one of several rows for the phone will be refused. -/
def Doomed (phone : String) (s : System) : Prop :=
  (∃ i e, s.Is i (.raised e)) ∨ 2 ≤ s.claims phone

theorem countP_set_pending {i : ℕ} {c : Call} (hi : s.Is i c) (c' : Call) :
    (s.calls.set i c').countP Call.pending + c.pending.toNat =
      s.calls.countP Call.pending + c'.pending.toNat := by
  obtain ⟨hlt, rfl⟩ := List.getElem?_eq_some_iff.mp hi
  have hpos : s.calls[i].pending = true → 0 < s.calls.countP Call.pending :=
    fun h ↦ List.countP_pos_iff.mpr ⟨_, List.getElem_mem hlt, h⟩
  rw [List.countP_set hlt]
  cases h : s.calls[i].pending <;> cases c'.pending <;> simp_all

theorem raised_of_set {i j : ℕ} {c c' : Call} {e : Exc} (hi : s.Is i c) (hc : c.ended = false)
    (hj : s.Is j (.raised e)) : (s.set i c').Is j (.raised e) := by
  have hij : i ≠ j := by
    rintro rfl
    rw [System.Is, hi, Option.some.injEq] at hj
    rw [hj] at hc
    cases hc
  rw [System.Is, System.set, List.getElem?_set_ne hij]
  exact hj

/-- Without a failure, a step gives up no claim on the phone. -/
theorem claims_step (hs : Step phone s a s') :
    (∃ i e, s'.Is i (.raised e)) ∨ s.claims phone ≤ s'.claims phone := by
  cases hs with
  | @select i hi =>
      right
      have := countP_set_pending hi (selected phone s.committed)
      simp only [Call.pending, Bool.toNat_false] at this
      simp only [System.claims, System.set]
      omega
  | @insert i hi =>
      right
      have := countP_set_pending hi .adding
      simp only [Call.pending] at this
      simp only [System.claims, System.set]
      omega
  | @commit i id shop db hi hr =>
      right
      obtain ⟨hnone, hsome⟩ := insertDemoShop_ok hr
      have := countP_set_pending hi (.added shop.id)
      simp only [Call.pending, Bool.toNat_true, Bool.toNat_false] at this
      simp only [System.claims, System.set, hnone, hsome, Option.isSome_none, Option.isSome_some,
        Bool.toNat_true, Bool.toNat_false]
      omega
  | @refused i id e hi hr => exact .inl ⟨i, e, party_of_set_self hi _⟩
  | @refresh i id hi =>
      right
      have := countP_set_pending hi (refreshed id s.committed)
      simp only [Call.pending, Bool.toNat_false] at this
      simp only [System.claims, System.set]
      omega

theorem doomed_step (hs : Step phone s a s') (h : Doomed phone s) : Doomed phone s' := by
  rcases h with ⟨j, e, hj⟩ | h
  · left
    refine ⟨j, e, ?_⟩
    cases hs with
    | select hi | insert hi | commit hi _ | refused hi _ | refresh hi => exact raised_of_set hi rfl hj
  · rcases claims_step hs with hr | hle
    · exact .inl hr
    · exact .inr (h.trans hle)

theorem doomed_of_not_alone (hs : Step phone s a s') (ha : ¬ Alone phone s a) :
    Doomed phone s' := by
  cases hs with
  | @select i hi =>
      right
      simp only [Alone, not_forall] at ha
      obtain ⟨c, hc, hp⟩ := ha
      have hpos : 0 < s.calls.countP Call.pending :=
        List.countP_pos_iff.mpr ⟨c, hc, by simpa using hp⟩
      have := countP_set_pending hi (selected phone s.committed)
      rcases selected_cases phone s.committed with ⟨shop, hshop, hsel⟩ | ⟨hnone, hsel⟩
      · simp only [hsel, Call.pending, Bool.toNat_false] at this
        simp only [System.claims, System.set, hsel, hshop, Option.isSome_some, Bool.toNat_true]
        omega
      · simp only [hsel, Call.pending, Bool.toNat_false, Bool.toNat_true] at this
        simp only [System.claims, System.set, hsel]
        omega
  | commit _ hr => exact absurd (insertDemoShop_fits hr) ha
  | refused hi _ => exact .inl ⟨_, _, party_of_set_self hi _⟩
  | insert hi => exact absurd trivial ha
  | refresh hi => exact absurd trivial ha

theorem not_raceFree_of_raised {i : ℕ} {e : Exc} (hi : s.Is i (.raised e)) :
    ¬ RaceFree phone history s := by
  intro hrace
  rcases hrace.returns i _ hi with ⟨id, hid⟩ | ⟨a, s', ha, hstep⟩
  · cases hid
  · obtain ⟨c, c', hc, -, hlt⟩ := calls_of_step (step_cases hstep)
    rw [ha, System.Is, hi, Option.some.injEq] at hc
    subst hc
    cases hlt

/-- When all calls are over, a doomed run has a call that failed. -/
theorem not_raceFree_of_doomed (h : Doomed phone s) (he : s.Ended) :
    ¬ RaceFree phone history s := by
  rcases h with ⟨i, e, hi⟩ | h
  · exact not_raceFree_of_raised hi
  · have hzero : s.calls.countP Call.pending = 0 := by
      apply List.countP_eq_zero.mpr
      intro c hc
      have := he c hc
      cases c <;> simp_all [Call.ended, Call.pending]
    rw [System.claims, hzero] at h
    have := Bool.toNat_le (s.committed.shopByPhone phone).isSome
    omega

/-- First contact is free of races while the calls come one by one, and a run
of calls that are over was free of them only then. -/
theorem raceFree_iff_alone
    (run : Run (System.Fresh phone) (Steps (step phone) fun _ _ ↦ True) history s) :
    ((∀ m ∈ history, Alone phone m.before m.label) → RaceFree phone history s) ∧
      (s.Ended → RaceFree phone history s → ∀ m ∈ history, Alone phone m.before m.label) := by
  constructor
  · intro halone
    apply raceFree_of_sound
    · revert halone
      apply run.invariant (I := fun history s ↦
        (∀ m ∈ history, Alone phone m.before m.label) → Sound phone s)
      · intro s h _
        exact sound_of_fresh h
      · intro history s a s' ih hs halone
        obtain ⟨hbefore, ha⟩ := List.forall_mem_append.mp halone
        exact sound_step (step_cases hs.1) (ha _ (List.mem_singleton_self _)) (ih hbefore)
    · intro i
      have := bounded_of_run run i
      omega
  · intro he hrace
    have hrun : Doomed phone s ∨ ∀ m ∈ history, Alone phone m.before m.label := by
      apply run.invariant (I := fun history s ↦
        Doomed phone s ∨ ∀ m ∈ history, Alone phone m.before m.label)
      · intro s _
        exact .inr (by simp)
      · intro history s a s' ih hs
        have hstep := step_cases hs.1
        rcases ih with ih | ih
        · exact .inl (doomed_step hstep ih)
        · by_cases ha : Alone phone s a
          · exact .inr (forall_mem_append ih ha)
          · exact .inl (doomed_of_not_alone hstep ha)
    rcases hrun with h | h
    · exact absurd hrace (not_raceFree_of_doomed h he)
    · exact h

/-- The second call finds the shop of the first. -/
theorem raceFree_of_two_in_turn : ∃ history s,
    Run (System.Fresh "254700000001") (Steps (step "254700000001") fun _ _ ↦ True) history s ∧
      s.calls.length = 2 ∧ s.Ended ∧ RaceFree "254700000001" history s := by
  have hrun : ∃ history s, Run (System.Fresh "254700000001")
      (Steps (step "254700000001") fun _ _ ↦ True) history s ∧
        (∀ m ∈ history, Alone "254700000001" m.before m.label) ∧ s.calls.length = 2 ∧ s.Ended :=
    exists_run_of_trace_end [.select 0, .insert 0, .commit 0 ⟨7⟩, .select 1, .refresh 0]
      (System.start_fresh 2 _) (by decide +kernel)
  obtain ⟨history, s, run, halone, hlen, hended⟩ := hrun
  exact ⟨history, s, run, hlen, hended, (raceFree_iff_alone run).1 halone⟩

/-- Two calls look before either has committed: the second commit raises. -/
theorem second_commit_raises : ∃ history s,
    Run (System.Fresh "254700000001") (Steps (step "254700000001") fun _ _ ↦ True) history s ∧
      (s.calls[1]?.any Call.isRefused) = true ∧ ¬ RaceFree "254700000001" history s := by
  have hrun : ∃ history s, Run (System.Fresh "254700000001")
      (Steps (step "254700000001") fun _ _ ↦ True) history s ∧
        (s.calls[1]?.any Call.isRefused) = true :=
    exists_run_of_trace_end [.select 0, .select 1, .insert 0, .insert 1, .commit 0 ⟨7⟩,
      .commit 1 ⟨8⟩] (System.start_fresh 2 _) (by decide +kernel)
  obtain ⟨history, s, run, hrefused⟩ := hrun
  refine ⟨history, s, run, hrefused, ?_⟩
  obtain ⟨c, hc, hr⟩ := (Option.any_eq_true _ _).mp hrefused
  cases c with
  | raised e => exact not_raceFree_of_raised hc
  | _ => cases hr

/-! ## One call alone -/

open DbM Effect

/-- The steps of a call that nobody interrupts are `get_shop_id`. -/
theorem getShopId_alone {b : Backend} (hf : b.env.Faultless) (ha : b.aborted = false)
    (hw : b.working = b.committed) :
    ∃ history s b', Run (· = ⟨b.committed, [.started]⟩) (Steps (step phone) fun _ _ ↦ True) history s ∧
      ((∃ id, getShopId phone b = .ok id b' ∧ s = ⟨b'.committed, [.returned id]⟩) ∨
        ∃ e, getShopId phone b = .error e b' ∧ s = ⟨b'.committed, [.raised e]⟩) := by
  obtain ⟨b₁, h₁, hu₁, ha₁⟩ := select_calm (fun db ↦ db.shopByPhone phone) hf ha
  have run₀ : Run (· = ⟨b.committed, [.started]⟩) (Steps (step phone) fun _ _ ↦ True) []
      ⟨b.committed, [.started]⟩ := .start rfl
  unfold getShopId
  rw [bind_of_ok h₁, hw]
  cases hshop : b.committed.shopByPhone phone with
  | some shop =>
      have hselect : step phone ⟨b.committed, [.started]⟩ (.select 0) =
          some ⟨b.committed, [.returned shop.id]⟩ := by
        simp [step, System.set, selected, hshop]
      refine ⟨_, _, b₁, run₀.next ⟨hselect, trivial⟩, .inl ⟨shop.id, rfl, ?_⟩⟩
      rw [hu₁.committed]
  | none =>
      have hselect : step phone ⟨b.committed, [.started]⟩ (.select 0) =
          some ⟨b.committed, [.missing]⟩ := by
        simp [step, System.set, selected, hshop]
      have hinsert : step phone ⟨b.committed, [.missing]⟩ (.insert 0) =
          some ⟨b.committed, [.adding]⟩ := by
        simp [step, System.set]
      have run₂ := (run₀.next ⟨hselect, trivial⟩).next ⟨hinsert, trivial⟩
      dsimp only
      rw [bind_of_ok (ask_apply _ _)]
      generalize b₁.env.uuid b₁.tick = id
      generalize hb₂ : ({ b₁ with tick := b₁.tick + 1 } : Backend) = b₂
      have hu₂ : Backend.Untouched b b₂ := by
        subst hb₂
        exact ⟨hu₁.env, hu₁.committed, hu₁.working, hu₁.journal⟩
      have hf₂ : b₂.env.Faultless := hu₂.env ▸ hf
      have ha₂ : b₂.aborted = false := by
        subst hb₂
        exact ha₁
      have hw₂ : b₂.working = b.committed := hu₂.working.trans hw
      cases hr : insertDemoShop phone id b.committed with
      | error e =>
          have hcommit : step phone ⟨b.committed, [.adding]⟩ (.commit 0 id) =
              some ⟨b.committed, [.raised e]⟩ := by
            simp [step, System.set, hr]
          rw [← hw₂] at hr
          obtain ⟨b₃, h₃, hu₃⟩ := update_calm_error hr hf₂ ha₂
          refine ⟨_, _, b₃, run₂.next ⟨hcommit, trivial⟩, .inr ⟨e, bind_of_error h₃, ?_⟩⟩
          rw [hu₃.committed, hu₂.committed]
      | ok r =>
          obtain ⟨shop, db⟩ := r
          have hlookup : Table.lookup Shop.id shop.id db.shops = some shop :=
            Table.lookup_of_mem db.valid.shops.ids (Table.mem_of_lookup (insertDemoShop_ok hr).2)
          have hcommit : step phone ⟨b.committed, [.adding]⟩ (.commit 0 id) =
              some ⟨db, [.added shop.id]⟩ := by
            simp [step, System.set, hr]
          have hrefresh : step phone ⟨db, [.added shop.id]⟩ (.refresh 0) =
              some ⟨db, [.returned shop.id]⟩ := by
            simp [step, System.set, refreshed, hlookup]
          rw [← hw₂] at hr
          obtain ⟨b₃, h₃, hl₃⟩ := update_calm hr hf₂ ha₂
          obtain ⟨b₄, h₄, hl₄⟩ := commit_calm (hl₃.env ▸ hf₂) hl₃.aborted
          have hf₄ : b₄.env.Faultless := hl₄.env ▸ hl₃.env ▸ hf₂
          obtain ⟨b₅, h₅, hu₅, -⟩ :=
            select_calm (fun db ↦ Table.lookup Shop.id shop.id db.shops) hf₄ hl₄.aborted
          rw [hl₄.working, hl₃.working, hlookup] at h₅
          refine ⟨_, _, b₅, (run₂.next ⟨hcommit, trivial⟩).next ⟨hrefresh, trivial⟩,
            .inl ⟨shop.id, ?_, ?_⟩⟩
          · change (DbM.update (insertDemoShop phone id) >>= _) b₂ = _
            rw [bind_of_ok h₃, bind_of_ok h₄, bind_of_ok h₅]
            rfl
          · rw [hu₅.committed, hl₄.committed, hl₃.working]
            rfl

end SokoFlow.FirstContact
