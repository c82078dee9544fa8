import Mathlib.Data.Multiset.Basic
import Mathlib.Logic.Function.Basic
import Mathlib.Logic.Hydra
import SokoFlow.Foundation.Runs

/-!
# Transactions under row locks

Clients run transactions side by side on a store of rows.  A statement that
writes a row, or reads it for update, waits until no other open transaction
holds the row, finds its newest version, and holds it to the end of the
transaction; a plain read waits for nothing and finds what is committed.  Each
key stands for a row that is there: a statement that finds no row would lock
nothing.

Every such run is one after the other in the order of the commits, and when the
transactions take their rows in one order, all of them come to an end.
-/

namespace RowLocks

open Runs

/-- A transaction, statement by statement: `access k put next` waits for row
`k`, leaves `put v` of the version `v` it finds, and goes on with `next v`. -/
inductive Tx (κ ν α : Type)
  | commit (answer : α)
  | rollback (answer : α)
  | access (k : κ) (put : ν → ν) (next : ν → Tx κ ν α)

/-- What one client does, transactions and reads outside of them, each as the
answers before it say.  What fails on the way answers `none`. -/
inductive Session (κ ν α : Type)
  | closed
  | look (k : κ) (next : Option ν → Session κ ν α)
  | transact (t : Tx κ ν α) (next : Option α → Session κ ν α)

/-- A client between two transactions, or in one: `whole` is the transaction,
`rest` what is left of it, and `own` the versions of the rows it holds. -/
inductive Client (κ ν α : Type)
  | resting (session : Session κ ν α)
  | working (whole rest : Tx κ ν α) (own : κ → Option ν) (next : Option α → Session κ ν α)

/-- A transaction that ended, and its answer. -/
structure Entry (κ ν α : Type) where
  tx : Tx κ ν α
  answer : α

/-- The committed rows, the clients, and the transactions that ended, in order. -/
structure Store (κ ν α : Type) where
  rows : κ → ν
  clients : List (Client κ ν α)
  log : List (Entry κ ν α) := []

variable {κ ν α : Type}

/-- A row as a transaction sees it. -/
def seen (rows : κ → ν) (own : κ → Option ν) (k : κ) : ν := (own k).getD (rows k)

/-- No row is held. -/
def unheld (_ : κ) : Option ν := none

@[simp] theorem seen_unheld (rows : κ → ν) : seen rows unheld = rows := rfl

def Client.holds (k : κ) : Client κ ν α → Bool
  | .resting _ => false
  | .working _ _ own _ => (own k).isSome

/-- No other client holds the row. -/
def Store.free (s : Store κ ν α) (i : ℕ) (k : κ) : Bool :=
  s.clients.zipIdx.all fun c ↦ c.2 == i || !c.1.holds k

section Steps

variable [DecidableEq κ]

/-- The next step of a client, if it can make one: the client after it, the
committed rows, and the transaction that ended. -/
def Client.advance (rows : κ → ν) (free : κ → Bool) (fails : Bool) :
    Client κ ν α → Option (Client κ ν α × (κ → ν) × List (Entry κ ν α))
  | .resting .closed => none
  | .resting (.look k next) =>
      some (.resting (next (if fails then none else some (rows k))), rows, [])
  | .resting (.transact t next) =>
      if fails then some (.resting (next none), rows, [])
      else some (.working t t unheld next, rows, [])
  | .working whole rest own next =>
      if fails then some (.resting (next none), rows, [])
      else match rest with
        | .commit a => some (.resting (next (some a)), seen rows own, [⟨whole, a⟩])
        | .rollback a => some (.resting (next (some a)), rows, [⟨whole, a⟩])
        | .access k put more =>
            if free k then
              let v := seen rows own k
              some (.working whole (more v) (Function.update own k (some (put v))) next, rows, [])
            else none

/-- Client `l.1` makes a step, or fails when `l.2` is set. -/
def Store.next (s : Store κ ν α) (l : ℕ × Bool) : Option (Store κ ν α) := do
  let client ← s.clients[l.1]?
  let (client', rows, ended) ← client.advance s.rows (s.free l.1) l.2
  return ⟨rows, s.clients.set l.1 client', s.log ++ ended⟩

/-! ## What a step can do -/

/-- The ways a client moves. -/
inductive Move (rows : κ → ν) (free : κ → Bool) :
    Client κ ν α → Client κ ν α → (κ → ν) → List (Entry κ ν α) → Prop
  | looked (k : κ) (next : Option ν → Session κ ν α) (found : Option ν) :
      Move rows free (.resting (.look k next)) (.resting (next found)) rows []
  | refused (t : Tx κ ν α) (next : Option α → Session κ ν α) :
      Move rows free (.resting (.transact t next)) (.resting (next none)) rows []
  | begun (t : Tx κ ν α) (next : Option α → Session κ ν α) :
      Move rows free (.resting (.transact t next)) (.working t t unheld next) rows []
  | accessed (whole : Tx κ ν α) (k : κ) (put : ν → ν) (more : ν → Tx κ ν α) (own : κ → Option ν)
      (next : Option α → Session κ ν α) (h : free k = true) :
      Move rows free (.working whole (.access k put more) own next)
        (.working whole (more (seen rows own k))
          (Function.update own k (some (put (seen rows own k)))) next) rows []
  | committed (whole : Tx κ ν α) (a : α) (own : κ → Option ν) (next : Option α → Session κ ν α) :
      Move rows free (.working whole (.commit a) own next) (.resting (next (some a)))
        (seen rows own) [⟨whole, a⟩]
  | rolledBack (whole : Tx κ ν α) (a : α) (own : κ → Option ν)
      (next : Option α → Session κ ν α) :
      Move rows free (.working whole (.rollback a) own next) (.resting (next (some a)))
        rows [⟨whole, a⟩]
  | failed (whole rest : Tx κ ν α) (own : κ → Option ν) (next : Option α → Session κ ν α) :
      Move rows free (.working whole rest own next) (.resting (next none)) rows []

variable {rows : κ → ν} {free : κ → Bool} {fails : Bool} {c c' : Client κ ν α} {rows' : κ → ν}
  {ended : List (Entry κ ν α)} {s s' : Store κ ν α} {l : ℕ × Bool}

theorem move_of_advance (h : c.advance rows free fails = some (c', rows', ended)) :
    Move rows free c c' rows' ended := by
  cases c with
  | resting session =>
      cases session with
      | closed => cases h
      | look k next =>
          cases h
          exact .looked k next _
      | transact t next =>
          cases fails with
          | true =>
              cases h
              exact .refused t next
          | false =>
              cases h
              exact .begun t next
  | working whole rest own next =>
      cases fails with
      | true =>
          cases h
          exact .failed whole rest own next
      | false =>
          cases rest with
          | commit a =>
              cases h
              exact .committed whole a own next
          | rollback a =>
              cases h
              exact .rolledBack whole a own next
          | access k put more =>
              simp only [Client.advance, Bool.false_eq_true, if_false] at h
              split at h
              · rename_i hfree
                cases h
                exact .accessed whole k put more own next hfree
              · cases h

theorem next_cases (h : s.next l = some s') :
    ∃ c c' ended, s.clients[l.1]? = some c ∧ s'.clients = s.clients.set l.1 c' ∧
      s'.log = s.log ++ ended ∧ Move s.rows (s.free l.1) c c' s'.rows ended := by
  simp only [Store.next, Option.bind_eq_bind, Option.bind_eq_some_iff] at h
  obtain ⟨c, hc, ⟨c', rows, ended⟩, hmove, h⟩ := h
  cases h
  exact ⟨c, c', ended, hc, rfl, rfl, move_of_advance hmove⟩

omit [DecidableEq κ] in
theorem free_iff {i : ℕ} {k : κ} :
    s.free i k = true ↔ ∀ j c, j ≠ i → s.clients[j]? = some c → c.holds k = false := by
  rw [Store.free, List.all_eq_true]
  constructor
  · intro h j c hji hc
    have := h (c, j) (List.mem_zipIdx_iff_getElem?.mpr hc)
    simpa [hji] using this
  · rintro h ⟨c, j⟩ hc
    rw [List.mem_zipIdx_iff_getElem?] at hc
    by_cases hji : j = i
    · simp [hji]
    · simp [h j c hji hc]

/-! ## One transaction at a time -/

/-- The rest of a transaction alone, from rows that `start` was turned into. -/
def Tx.from (start : κ → ν) : Tx κ ν α → (κ → ν) → α × (κ → ν)
  | .commit a, rows => (a, rows)
  | .rollback a, _ => (a, start)
  | .access k put more, rows =>
      (more (rows k)).from start (Function.update rows k (put (rows k)))

/-- The answer of a transaction that runs alone, and the rows after it. -/
def Tx.alone (t : Tx κ ν α) (rows : κ → ν) : α × (κ → ν) := t.from rows rows

/-- The transactions of the log, run alone one after the other, give its answers. -/
inductive Serial (start : κ → ν) : List (Entry κ ν α) → (κ → ν) → Prop
  | nil : Serial start [] start
  | snoc {log : List (Entry κ ν α)} {rows rows' : κ → ν} {t : Tx κ ν α} {a : α}
      (before : Serial start log rows) (h : t.alone rows = (a, rows')) :
      Serial start (log ++ [⟨t, a⟩]) rows'

/-- On these rows the transaction gets to `rest`, with the versions `own`. -/
inductive Reached (rows : κ → ν) (whole : Tx κ ν α) : Tx κ ν α → (κ → Option ν) → Prop
  | start : Reached rows whole whole unheld
  | access {k : κ} {put : ν → ν} {more : ν → Tx κ ν α} {own : κ → Option ν}
      (before : Reached rows whole (.access k put more) own) :
      Reached rows whole (more (seen rows own k))
        (Function.update own k (some (put (seen rows own k))))

theorem seen_update (own : κ → Option ν) (k : κ) (v : ν) :
    seen rows (Function.update own k (some v)) = Function.update (seen rows own) k v := by
  funext k'
  by_cases h : k' = k
  · subst h
    simp [seen]
  · simp [seen, Function.update_of_ne h]

/-- What is left of the transaction gives what all of it gives. -/
theorem Reached.alone {whole rest : Tx κ ν α} {own : κ → Option ν}
    (h : Reached rows whole rest own) :
    rest.from rows (seen rows own) = whole.alone rows := by
  induction h with
  | start => rfl
  | access before ih =>
      rw [← ih, seen_update]
      rfl

/-- Rows the transaction does not hold are of no account to it. -/
theorem Reached.frame {whole rest : Tx κ ν α} {own : κ → Option ν}
    (h : Reached rows whole rest own) (hrows : ∀ k, (own k).isSome → rows' k = rows k) :
    Reached rows' whole rest own := by
  induction h with
  | start => exact .start
  | @access k put more own before ih =>
      have hown : ∀ k', (own k').isSome → rows' k' = rows k' := by
        intro k' hk'
        apply hrows k'
        by_cases hk : k' = k
        · simp [hk]
        · rwa [Function.update_of_ne hk]
      have hseen : seen rows' own k = seen rows own k := by
        have hk := hrows k (by simp)
        simp only [seen, hk]
      have := (ih hown).access
      rwa [hseen] at this

/-! ## Every run is serial -/

/-- No two clients hold a row. -/
def Exclusive (clients : List (Client κ ν α)) : Prop :=
  ∀ (i j : ℕ) (ci cj : Client κ ν α) (k : κ), clients[i]? = some ci →
    clients[j]? = some cj → ci.holds k = true → cj.holds k = true → i = j

/-- What holds in every state. -/
structure Sound (start : κ → ν) (s : Store κ ν α) : Prop where
  serial : Serial start s.log s.rows
  exclusive : Exclusive s.clients
  reached : ∀ (i : ℕ) (whole rest : Tx κ ν α) (own : κ → Option ν)
    (next : Option α → Session κ ν α), s.clients[i]? = some (.working whole rest own next) →
      Reached s.rows whole rest own

/-- A client holds no more than before, or one row more that was free. -/
theorem holds_of_move (h : Move rows free c c' rows' ended) {k : κ} (hk : c'.holds k = true) :
    c.holds k = true ∨ free k = true := by
  cases h with
  | looked => cases hk
  | refused => cases hk
  | begun => cases hk
  | accessed whole k' put more own next hfree =>
      by_cases hkk : k = k'
      · exact .inr (hkk ▸ hfree)
      · left
        simpa [Client.holds, Function.update_of_ne hkk] using hk
  | committed => cases hk
  | rolledBack => cases hk
  | failed => cases hk

theorem exclusive_step (he : Exclusive s.clients) (hc : s.clients[l.1]? = some c)
    (h : Move s.rows (s.free l.1) c c' rows' ended) : Exclusive (s.clients.set l.1 c') := by
  -- a row the client has taken is held by no one else
  have hother : ∀ j cj k, j ≠ l.1 → s.clients[j]? = some cj → c'.holds k = true →
      cj.holds k = true → False := by
    intro j cj k hj hcj hk hkj
    rcases holds_of_move h hk with hold | hfree
    · exact hj (he _ _ _ _ k hcj hc hkj hold)
    · rw [free_iff.mp hfree j cj hj hcj] at hkj
      cases hkj
  intro i j ci cj k hi hj hki hkj
  rcases party_of_set hi with ⟨rfl, rfl⟩ | ⟨hil, hi₀⟩
  · rcases party_of_set hj with ⟨rfl, -⟩ | ⟨hjl, hj₀⟩
    · rfl
    · exact (hother j cj k hjl hj₀ hki hkj).elim
  · rcases party_of_set hj with ⟨rfl, rfl⟩ | ⟨-, hj₀⟩
    · exact (hother i ci k hil hi₀ hkj hki).elim
    · exact he i j ci cj k hi₀ hj₀ hki hkj

/-- A step changes only rows that its client holds. -/
theorem rows_of_move (h : Move rows free c c' rows' ended) {k : κ} (hk : c.holds k = false) :
    rows' k = rows k := by
  cases h with
  | committed whole a own next =>
      have hown : own k = none := by simpa [Client.holds] using hk
      simp [seen, hown]
  | _ => rfl

theorem serial_step {start : κ → ν} (hs : Sound start s) (hc : s.clients[l.1]? = some c)
    (h : Move s.rows free c c' rows' ended) : Serial start (s.log ++ ended) rows' := by
  cases h with
  | committed whole a own next =>
      have hr := hs.reached _ _ _ _ _ hc
      exact .snoc hs.serial hr.alone.symm
  | rolledBack whole a own next =>
      have hr := hs.reached _ _ _ _ _ hc
      exact .snoc hs.serial hr.alone.symm
  | _ =>
      rw [List.append_nil]
      exact hs.serial

theorem reached_step (hr : ∀ whole rest own next, c = .working whole rest own next →
    Reached rows whole rest own) (h : Move rows free c c' rows' ended) :
    ∀ whole rest own next, c' = .working whole rest own next → Reached rows' whole rest own := by
  intro whole rest own next hc'
  cases h with
  | begun t next' =>
      cases hc'
      exact .start
  | accessed whole' k put more own' next' hfree =>
      cases hc'
      exact (hr _ _ _ _ rfl).access
  | _ => cases hc'

theorem sound_step {start : κ → ν} (hs : Sound start s) (h : s.next l = some s') :
    Sound start s' := by
  obtain ⟨c, c', ended, hc, hclients, hlog, hmove⟩ := next_cases h
  refine ⟨hlog ▸ serial_step hs hc hmove, hclients ▸ exclusive_step hs.exclusive hc hmove, ?_⟩
  intro i whole rest own next hi
  rw [hclients] at hi
  rcases party_of_set hi with ⟨rfl, rfl⟩ | ⟨hil, hi⟩
  · refine reached_step (fun whole rest own next hw ↦ ?_) hmove _ _ _ next rfl
    exact hs.reached _ _ _ _ next (hw ▸ hc)
  · apply (hs.reached _ _ _ _ _ hi).frame
    intro k hk
    apply rows_of_move hmove
    -- the row is held by this client, so not by the one that moved
    cases hck : c.holds k with
    | false => rfl
    | true => exact absurd (hs.exclusive _ _ _ _ k hi hc hk hck) hil

/-- The clients start with their sessions before them, on the rows `start`. -/
def Opening (start : κ → ν) (sessions : List (Session κ ν α)) (s : Store κ ν α) : Prop :=
  s.rows = start ∧ s.clients = sessions.map .resting ∧ s.log = []

omit [DecidableEq κ] in
theorem resting_of_opening {start : κ → ν} {sessions : List (Session κ ν α)}
    (h : Opening start sessions s) (hc : c ∈ s.clients) : ∃ session, c = .resting session := by
  rw [h.2.1] at hc
  obtain ⟨session, -, rfl⟩ := List.mem_map.mp hc
  exact ⟨session, rfl⟩

theorem sound_of_opening {start : κ → ν} {sessions : List (Session κ ν α)}
    (h : Opening start sessions s) : Sound start s := by
  refine ⟨?_, ?_, ?_⟩
  · rw [h.2.2, h.1]
    exact .nil
  · intro i j ci cj k hi _ hk _
    obtain ⟨session, rfl⟩ := resting_of_opening h (List.mem_of_getElem? hi)
    cases hk
  · intro i whole rest own next hi
    obtain ⟨session, hs⟩ := resting_of_opening h (List.mem_of_getElem? hi)
    cases hs

/-- The runs of clients with these sessions. -/
abbrev Interleaving (start : κ → ν) (sessions : List (Session κ ν α)) :=
  Run (Opening start sessions) (Steps Store.next fun _ _ ↦ True)

theorem sound_of_run {start : κ → ν} {sessions : List (Session κ ν α)}
    {history : List (Moment (Store κ ν α) (ℕ × Bool))}
    (run : Interleaving start sessions history s) : Sound start s := by
  apply run.invariant (I := fun _ s ↦ Sound start s)
  · intro s h
    exact sound_of_opening h
  · intro _ s l s' hs h
    exact sound_step hs h.1

/-! ## What the rows keep -/

/-- No statement of the transaction takes `P` from a row. -/
inductive Tx.Keeps (P : ν → Prop) : Tx κ ν α → Prop
  | commit (a : α) : Keeps P (.commit a)
  | rollback (a : α) : Keeps P (.rollback a)
  | access {k : κ} {put : ν → ν} {more : ν → Tx κ ν α} (hput : ∀ v, P v → P (put v))
      (hmore : ∀ v, Keeps P (more v)) : Keeps P (.access k put more)

theorem Tx.Keeps.from {P : ν → Prop} {t : Tx κ ν α} (h : t.Keeps P) {start rows : κ → ν} {k : κ}
    (hs : P (start k)) (hr : P (rows k)) : P ((t.from start rows).2 k) := by
  induction h generalizing rows with
  | commit a => exact hr
  | rollback a => exact hs
  | @access k' put more hput hmore ih =>
      apply ih
      by_cases hk : k = k'
      · subst hk
        rw [Function.update_self]
        exact hput _ hr
      · rwa [Function.update_of_ne hk]

theorem Serial.keeps {P : ν → Prop} {start rows : κ → ν} {log : List (Entry κ ν α)}
    (h : Serial start log rows) (hlog : ∀ e ∈ log, e.tx.Keeps P) {k : κ} (hk : P (start k)) :
    P (rows k) := by
  induction h with
  | nil => exact hk
  | @snoc log rows rows' t a before halone ih =>
      have hrows : P (rows k) := ih fun e he ↦ hlog e (List.mem_append_left _ he)
      have ht : t.Keeps P := hlog ⟨t, a⟩ (List.mem_append_right _ (List.mem_singleton_self _))
      have hafter : P ((t.alone rows).2 k) := ht.from hrows hrows
      rwa [halone] at hafter

/-! ## What runs is of the sessions -/

/-- All transactions of the session have `P`. -/
inductive Session.Each (P : Tx κ ν α → Prop) : Session κ ν α → Prop
  | closed : Each P .closed
  | look {k : κ} {next : Option ν → Session κ ν α} (h : ∀ found, Each P (next found)) :
      Each P (.look k next)
  | transact {t : Tx κ ν α} {next : Option α → Session κ ν α} (ht : P t)
      (h : ∀ answer, Each P (next answer)) : Each P (.transact t next)

omit [DecidableEq κ] in
theorem Session.Each.mono {P Q : Tx κ ν α → Prop} {session : Session κ ν α}
    (h : session.Each P) (hpq : ∀ t, P t → Q t) : session.Each Q := by
  induction h with
  | closed => exact .closed
  | look _ ih => exact .look ih
  | transact ht _ ih => exact .transact (hpq _ ht) ih

/-- The open transaction of the client and those to come have `P`. -/
inductive Client.Each (P : Tx κ ν α → Prop) : Client κ ν α → Prop
  | resting {session : Session κ ν α} (h : session.Each P) : Each P (.resting session)
  | working {whole rest : Tx κ ν α} {own : κ → Option ν} {next : Option α → Session κ ν α}
      (hw : P whole) (h : ∀ answer, (next answer).Each P) : Each P (.working whole rest own next)

theorem each_move {P : Tx κ ν α → Prop} (hc : c.Each P) (h : Move rows free c c' rows' ended) :
    c'.Each P ∧ ∀ e ∈ ended, P e.tx := by
  cases h with
  | looked k next found =>
      obtain ⟨_ | hnext⟩ := hc
      exact ⟨.resting (hnext found), by simp⟩
  | refused t next =>
      obtain ⟨_ | _ | ⟨-, hnext⟩⟩ := hc
      exact ⟨.resting (hnext none), by simp⟩
  | begun t next =>
      obtain ⟨_ | _ | ⟨ht, hnext⟩⟩ := hc
      exact ⟨.working ht hnext, by simp⟩
  | accessed whole k put more own next hfree =>
      obtain _ | ⟨hw, hnext⟩ := hc
      exact ⟨.working hw hnext, by simp⟩
  | committed whole a own next =>
      obtain _ | ⟨hw, hnext⟩ := hc
      exact ⟨.resting (hnext (some a)), by simpa using hw⟩
  | rolledBack whole a own next =>
      obtain _ | ⟨hw, hnext⟩ := hc
      exact ⟨.resting (hnext (some a)), by simpa using hw⟩
  | failed whole rest own next =>
      obtain _ | ⟨-, hnext⟩ := hc
      exact ⟨.resting (hnext none), by simp⟩

/-- The transactions that ended are transactions of the sessions. -/
theorem log_of_run {start : κ → ν} {sessions : List (Session κ ν α)} {P : Tx κ ν α → Prop}
    {history : List (Moment (Store κ ν α) (ℕ × Bool))}
    (hsessions : ∀ session ∈ sessions, session.Each P)
    (run : Interleaving start sessions history s) : ∀ e ∈ s.log, P e.tx := by
  have hboth : (∀ c ∈ s.clients, c.Each P) ∧ ∀ e ∈ s.log, P e.tx := by
    apply run.invariant (I := fun _ s ↦ (∀ c ∈ s.clients, c.Each P) ∧ ∀ e ∈ s.log, P e.tx)
    · intro s h
      refine ⟨fun c hc ↦ ?_, by simp [h.2.2]⟩
      rw [h.2.1] at hc
      obtain ⟨session, hmem, rfl⟩ := List.mem_map.mp hc
      exact .resting (hsessions session hmem)
    · intro _ s l s' hall h
      obtain ⟨c₀, c', ended, hc₀, hclients, hlog, hmove⟩ := next_cases h.1
      obtain ⟨hc', hended⟩ := each_move (hall.1 c₀ (List.mem_of_getElem? hc₀)) hmove
      refine ⟨fun c hc ↦ ?_, ?_⟩
      · rw [hclients] at hc
        rcases List.mem_or_eq_of_mem_set hc with hc | rfl
        · exact hall.1 c hc
        · exact hc'
      · rw [hlog]
        exact List.forall_mem_append.mpr ⟨hall.2, hended⟩
  exact hboth.2

/-! ## All of them come to an end -/

/-- Rows are taken in the order of their rank, from `bound` on. -/
inductive Tx.Ascending (rank : κ → ℕ) : ℕ → Tx κ ν α → Prop
  | commit (bound : ℕ) (a : α) : Ascending rank bound (.commit a)
  | rollback (bound : ℕ) (a : α) : Ascending rank bound (.rollback a)
  | access {bound : ℕ} {k : κ} {put : ν → ν} {more : ν → Tx κ ν α} (h : bound ≤ rank k)
      (hmore : ∀ v, Ascending rank (rank k) (more v)) : Ascending rank bound (.access k put more)

/-- The client holds rows up to a bound and takes the others from there. -/
inductive Client.Ascending (rank : κ → ℕ) : Client κ ν α → Prop
  | resting {session : Session κ ν α} (h : session.Each (Tx.Ascending rank 0)) :
      Ascending rank (.resting session)
  | working {whole rest : Tx κ ν α} {own : κ → Option ν} {next : Option α → Session κ ν α}
      (bound : ℕ) (hrest : rest.Ascending rank bound)
      (hown : ∀ k, (own k).isSome → rank k ≤ bound)
      (h : ∀ answer, (next answer).Each (Tx.Ascending rank 0)) :
      Ascending rank (.working whole rest own next)

theorem ascending_move {rank : κ → ℕ} (hc : c.Ascending rank)
    (h : Move rows free c c' rows' ended) : c'.Ascending rank := by
  cases h with
  | looked k next found =>
      obtain ⟨_ | hnext⟩ := hc
      exact .resting (hnext found)
  | refused t next =>
      obtain ⟨_ | _ | ⟨-, hnext⟩⟩ := hc
      exact .resting (hnext none)
  | begun t next =>
      obtain ⟨_ | _ | ⟨ht, hnext⟩⟩ := hc
      exact .working 0 ht (fun k hk ↦ by cases hk) hnext
  | accessed whole k put more own next hfree =>
      cases hc with
      | working bound hrest hown hnext =>
          obtain _ | _ | ⟨hle, hmore⟩ := hrest
          refine .working (rank k) (hmore _) (fun k' hk' ↦ ?_) hnext
          by_cases hkk : k' = k
          · rw [hkk]
          · rw [Function.update_of_ne hkk] at hk'
            exact (hown k' hk').trans hle
  | committed whole a own next =>
      cases hc with
      | working _ _ _ hnext => exact .resting (hnext (some a))
  | rolledBack whole a own next =>
      cases hc with
      | working _ _ _ hnext => exact .resting (hnext (some a))
  | failed whole rest own next =>
      cases hc with
      | working _ _ _ hnext => exact .resting (hnext none)

/-- The client waits for a row that another one holds. -/
def Waits (s : Store κ ν α) (i : ℕ) (k : κ) : Prop :=
  ∃ whole put more own next, s.clients[i]? = some (.working whole (.access k put more) own next) ∧
    s.free i k = false

/-- A client that is not done makes a step or waits. -/
theorem next_or_waits {i : ℕ} (hc : s.clients[i]? = some c) (hopen : c ≠ .resting .closed) :
    (∃ s', s.next (i, false) = some s') ∨ ∃ k, Waits s i k := by
  cases c with
  | resting session =>
      cases session with
      | closed => exact absurd rfl hopen
      | look k next => exact .inl ⟨_, by simp [Store.next, hc, Client.advance]; rfl⟩
      | transact t next => exact .inl ⟨_, by simp [Store.next, hc, Client.advance]; rfl⟩
  | working whole rest own next =>
      cases rest with
      | commit a => exact .inl ⟨_, by simp [Store.next, hc, Client.advance]; rfl⟩
      | rollback a => exact .inl ⟨_, by simp [Store.next, hc, Client.advance]; rfl⟩
      | access k put more =>
          cases hfree : s.free i k with
          | true => exact .inl ⟨_, by simp [Store.next, hc, Client.advance, hfree]; rfl⟩
          | false => exact .inr ⟨k, whole, put, more, own, next, hc, hfree⟩

/-- Who holds the row another one waits for can go on, or waits for a higher one. -/
theorem waits_higher {rank : κ → ℕ} (hrank : Function.Injective rank) {i : ℕ} {k : κ}
    (he : Exclusive s.clients) (hasc : ∀ c ∈ s.clients, c.Ascending rank) (h : Waits s i k) :
    (∃ j s', s.next (j, false) = some s') ∨ ∃ j k', Waits s j k' ∧ rank k < rank k' := by
  obtain ⟨whole, put, more, own, next, hi, hfree⟩ := h
  have hheld : ¬ ∀ j c, j ≠ i → s.clients[j]? = some c → c.holds k = false := by
    rw [← free_iff, hfree]
    exact Bool.false_ne_true
  push Not at hheld
  obtain ⟨j, c, hj, hc, hk⟩ := hheld
  rw [ne_eq, Bool.not_eq_false] at hk
  rcases next_or_waits hc (by rintro rfl; cases hk) with hstep | ⟨k', hw⟩
  · exact .inl ⟨j, hstep⟩
  · refine .inr ⟨j, k', hw, ?_⟩
    obtain ⟨whole', put', more', own', next', hc', hfree'⟩ := hw
    obtain rfl : c = _ := Option.some.inj (hc.symm.trans hc')
    -- the row it waits for is not the one it holds
    have hne : k ≠ k' := by
      rintro rfl
      have hfreej : s.free j k = true := by
        rw [free_iff]
        intro j' c' hj' hc''
        by_contra hheld'
        rw [Bool.not_eq_false] at hheld'
        exact hj' (he _ _ _ _ k hc'' hc hheld' hk)
      rw [hfreej] at hfree'
      cases hfree'
    cases hasc _ (List.mem_of_getElem? hc) with
    | working bound hrest hown hnext =>
        obtain _ | _ | ⟨hle, -⟩ := hrest
        have hkb := hown k hk
        have := hrank.ne hne
        omega

/-- The rank of the row the client's next statement takes. -/
def Client.wants (rank : κ → ℕ) : Client κ ν α → ℕ
  | .working _ (.access k _ _) _ _ => rank k
  | _ => 0

omit [DecidableEq κ] in
theorem waits_le {rank : κ → ℕ} {i : ℕ} {k : κ} (h : Waits s i k) :
    rank k ≤ (s.clients.map (Client.wants rank)).sum := by
  obtain ⟨whole, put, more, own, next, hi, -⟩ := h
  apply List.le_sum_of_mem
  exact List.mem_map.mpr ⟨_, List.mem_of_getElem? hi, rfl⟩

/-- Waiting clients do not wait for each other in a circle. -/
theorem next_of_waits {rank : κ → ℕ} (hrank : Function.Injective rank) {i : ℕ} {k : κ}
    (he : Exclusive s.clients) (hasc : ∀ c ∈ s.clients, c.Ascending rank) (h : Waits s i k) :
    ∃ j s', s.next (j, false) = some s' := by
  -- ranks are bounded, so the chain of waiting clients has a last one
  induction hn : (s.clients.map (Client.wants rank)).sum - rank k
    using Nat.strong_induction_on generalizing i k with
  | _ n ih =>
      rcases waits_higher hrank he hasc h with hstep | ⟨j, k', hw, hlt⟩
      · exact hstep
      · have hle : rank k' ≤ _ := waits_le hw
        exact ih _ (by omega) hw rfl

/-- As long as a client is not done, one of them makes a step. -/
theorem progress {start : κ → ν} {rank : κ → ℕ} (hrank : Function.Injective rank)
    (hs : Sound start s) (hasc : ∀ c ∈ s.clients, c.Ascending rank) (hc : c ∈ s.clients)
    (hopen : c ≠ .resting .closed) : ∃ j s', s.next (j, false) = some s' := by
  obtain ⟨i, hi⟩ := List.getElem?_of_mem hc
  rcases next_or_waits hi hopen with hstep | ⟨k, hw⟩
  · exact ⟨i, hstep⟩
  · exact next_of_waits hrank hs.exclusive hasc hw

theorem ascending_step {rank : κ → ℕ} (hasc : ∀ c ∈ s.clients, c.Ascending rank)
    (h : s.next l = some s') : ∀ c ∈ s'.clients, c.Ascending rank := by
  intro c hc
  obtain ⟨c₀, c', ended, hc₀, hclients, -, hmove⟩ := next_cases h
  rw [hclients] at hc
  rcases List.mem_or_eq_of_mem_set hc with hc | rfl
  · exact hasc c hc
  · exact ascending_move (hasc c₀ (List.mem_of_getElem? hc₀)) hmove

theorem ascending_of_run {start : κ → ν} {sessions : List (Session κ ν α)} {rank : κ → ℕ}
    {history : List (Moment (Store κ ν α) (ℕ × Bool))}
    (hsessions : ∀ session ∈ sessions, session.Each (Tx.Ascending rank 0))
    (run : Interleaving start sessions history s) : ∀ c ∈ s.clients, c.Ascending rank := by
  apply run.invariant (I := fun _ s ↦ ∀ c ∈ s.clients, c.Ascending rank)
  · intro s h c hc
    rw [h.2.1] at hc
    obtain ⟨session, hmem, rfl⟩ := List.mem_map.mp hc
    exact .resting (hsessions session hmem)
  · intro _ s l s' hasc h
    exact ascending_step hasc h.1

/-! ### No run goes on for ever -/

/-- The client has made a step. -/
def Client.Later (c' c : Client κ ν α) : Prop :=
  ∃ rows free rows' ended, Move rows free c c' rows' ended

theorem acc_working {whole rest : Tx κ ν α} {own : κ → Option ν}
    {next : Option α → Session κ ν α}
    (h : ∀ answer, Acc Client.Later (.resting (next answer) : Client κ ν α)) :
    Acc Client.Later (.working whole rest own next : Client κ ν α) := by
  induction rest generalizing own with
  | commit a =>
      constructor
      rintro c' ⟨rows, free, rows', ended, hmove⟩
      cases hmove with
      | committed => exact h _
      | failed => exact h _
  | rollback a =>
      constructor
      rintro c' ⟨rows, free, rows', ended, hmove⟩
      cases hmove with
      | rolledBack => exact h _
      | failed => exact h _
  | access k put more ih =>
      constructor
      rintro c' ⟨rows, free, rows', ended, hmove⟩
      cases hmove with
      | accessed => exact ih _
      | failed => exact h _

theorem acc_resting (session : Session κ ν α) :
    Acc Client.Later (.resting session : Client κ ν α) := by
  induction session with
  | closed =>
      constructor
      rintro c' ⟨rows, free, rows', ended, hmove⟩
      cases hmove
  | look k next ih =>
      constructor
      rintro c' ⟨rows, free, rows', ended, hmove⟩
      cases hmove with
      | looked => exact ih _
  | transact t next ih =>
      constructor
      rintro c' ⟨rows, free, rows', ended, hmove⟩
      cases hmove with
      | refused => exact ih _
      | begun => exact acc_working ih

theorem later_wellFounded : WellFounded (Client.Later (κ := κ) (ν := ν) (α := α)) := by
  constructor
  intro c
  cases c with
  | resting session => exact acc_resting session
  | working whole rest own next => exact acc_working fun _ ↦ acc_resting _

/-- One client of a list moves, and the others stay. -/
theorem cutExpand_set {clients : List (Client κ ν α)} {i : ℕ} (hc : clients[i]? = some c)
    (h : c'.Later c) :
    Relation.CutExpand Client.Later (clients.set i c' : Multiset (Client κ ν α))
      (clients : Multiset (Client κ ν α)) := by
  induction clients generalizing i with
  | nil => simp at hc
  | cons head tail ih =>
      cases i with
      | zero =>
          obtain rfl : head = c := by simpa using hc
          have := Relation.cutExpand_add_single (tail : Multiset (Client κ ν α)) h
          rw [List.set_cons_zero, ← Multiset.cons_coe, ← Multiset.cons_coe]
          rwa [Multiset.add_comm, Multiset.singleton_add, Multiset.add_comm,
            Multiset.singleton_add] at this
      | succ i =>
          have hi : tail[i]? = some c := by simpa using hc
          have := (Relation.cutExpand_add_left {head}).mpr (ih hi)
          rw [List.set_cons_succ, ← Multiset.cons_coe, ← Multiset.cons_coe]
          rwa [Multiset.singleton_add, Multiset.singleton_add] at this

/-- No run of steps is infinite. -/
theorem next_wellFounded :
    WellFounded fun s' s : Store κ ν α ↦ ∃ l, s.next l = some s' := by
  have hwf := InvImage.wf (fun s : Store κ ν α ↦ (s.clients : Multiset (Client κ ν α)))
    (WellFounded.cutExpand later_wellFounded)
  apply Subrelation.wf _ hwf
  rintro s' s ⟨l, h⟩
  obtain ⟨c, c', ended, hc, hclients, -, hmove⟩ := next_cases h
  rw [InvImage, hclients]
  exact cutExpand_set hc ⟨_, _, _, _, hmove⟩

/-- Without failures every client gets to the end of its session. -/
theorem exists_done {start : κ → ν} {rank : κ → ℕ} (hrank : Function.Injective rank)
    (hs : Sound start s) (hasc : ∀ c ∈ s.clients, c.Ascending rank) :
    ∃ s', Relation.ReflTransGen (fun s s' ↦ ∃ i, s.next (i, false) = some s') s s' ∧
      ∀ c ∈ s'.clients, c = .resting .closed := by
  have hwf := next_wellFounded (κ := κ) (ν := ν) (α := α)
  induction s using hwf.induction with
  | _ s ih =>
      by_cases hdone : ∀ c ∈ s.clients, c = .resting .closed
      · exact ⟨s, .refl, hdone⟩
      · push Not at hdone
        obtain ⟨c, hc, hopen⟩ := hdone
        obtain ⟨i, s₁, h₁⟩ := progress hrank hs hasc hc hopen
        obtain ⟨s', hsteps, hall⟩ := ih s₁ ⟨_, h₁⟩ (sound_step hs h₁) (ascending_step hasc h₁)
        exact ⟨s', .head ⟨i, h₁⟩ hsteps, hall⟩

end Steps

end RowLocks
