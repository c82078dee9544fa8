import SokoFlow.Interleaving

/-!
# One prompt, one sale

A sale is committed before the session is saved, so two workers that read the
same prompt can both sell.  They cannot when a sale is only made while its
prompt is stored and every sale is settled, its session saved, before the next
one or before the key moves on.
-/

namespace SokoFlow.Interleaving

open DbM Effect ConversationStore Runs SalesService

/-! ## Counting -/

/-- Sales committed by a step of a worker. -/
def salesOf (m : Moment System Action) : ℕ :=
  match m.label with
  | .process _ _ => m.after.committed.sales.length - m.before.committed.sales.length
  | _ => 0

/-- Sessions saved in `CONFIRM_SALE` by a step. -/
def promptsOf (m : Moment System Action) : ℕ :=
  match saver m with
  | some (w, true) => if w.session.state = .CONFIRM_SALE then 1 else 0
  | _ => 0

/-- Sales committed by a worker whose save is rejected in this step. -/
def strandedSales (m : Moment System Action) : ℕ :=
  match saver m with
  | some (w, false) => w.sales
  | _ => 0

/-- A prompt gives at most one sale, and a rejected worker has sold nothing. -/
def NoDoubleSale (history : List (Moment System Action)) : Prop :=
  count salesOf history ≤ count promptsOf history ∧ ∀ m ∈ history, strandedSales m = 0

instance (history : List (Moment System Action)) : Decidable (NoDoubleSale history) :=
  inferInstanceAs (Decidable (_ ∧ _))

/-! ## Orderly steps -/

/-- Stock and shop allow the order. -/
def CanSell (db : Database) (o : Order) : Prop :=
  match db.product o.productId, db.inventoryOf o.productId with
  | some product, some row => product.shopId = o.shopId ∧ o.quantity ≤ row.quantity
  | _, _ => False

instance (db : Database) (o : Order) : Decidable (CanSell db o) := by
  unfold CanSell
  split <;> infer_instance

/-- The worker would sell what its session has ordered. -/
def WouldSell (dep : Deployment) (text : String) (s : UserSession) (db : Database) : Prop :=
  s.state = .CONFIRM_SALE ∧ Confirms dep text ∧ ∃ o ∈ s.context.order, CanSell db o

instance (dep : Deployment) (text : String) (s : UserSession) (db : Database) :
    Decidable (WouldSell dep text s db) := inferInstanceAs (Decidable (_ ∧ _ ∧ _))

/-- Sales the worker has committed without having saved its session. -/
def System.owes (s : System) (i : ℕ) : ℕ :=
  match s.workers[i]? with
  | some (.saving w) => w.sales
  | _ => 0

/-- Every worker but those in `except` has settled its sales. -/
def System.Settled (s : System) (except : ℕ → Prop) : Prop :=
  ∀ i < s.workers.length, ¬ except i → s.owes i = 0

instance (s : System) (except : ℕ → Prop) [DecidablePred except] : Decidable (s.Settled except) :=
  inferInstanceAs (Decidable (∀ _ < _, _ → _))

def System.prompting (s : System) : Bool := s.stored.any fun c ↦ c.state = .CONFIRM_SALE

/-- A sale is only made while its prompt is stored and no other sale is
unsettled, and no other save takes the key off the prompt until it is settled. -/
def Orderly (dep : Deployment) (phone : String) (s : System) : Action → Prop
  | .process i _ => match s.workers[i]? with
      | some (.reading w) => WouldSell dep w.text (current phone w.old) s.committed →
          s.prompting = true ∧ s.Settled fun _ ↦ False
      | _ => True
  | .save i => match s.workers[i]? with
      | some (.saving w) =>
          accepts s.stored (expectedState w.old) = true → w.session.state ≠ .CONFIRM_SALE →
            s.Settled fun j ↦ j = i
      | _ => True
  | _ => True

instance (dep : Deployment) (phone : String) (s : System) (a : Action) :
    Decidable (Orderly dep phone s a) := by
  unfold Orderly
  split
  · split <;> infer_instance
  · split <;> infer_instance
  · infer_instance

variable {dep : Deployment} {phone : String} {s s' : System} {a : Action}
  {history : List (Moment System Action)}

theorem canSell_of_sellable {db : Database} {o : Order} {product : Product} {row : Inventory}
    (h : Sellable db o.shopId o.productId o.quantity product row) : CanSell db o := by
  unfold CanSell
  rw [h.found, h.stocked]
  exact ⟨h.owned, h.enough⟩

/-- What a transaction commits: one sale that could be expected, or none. -/
theorem sales_of_transact {w : Started} {env : Env} {db : Database} {p : Processed} {b : Backend}
    (h : transact dep phone w w.old env db = .ok p b) :
    b.committed.sales.length - db.sales.length = 0 ∨
      (b.committed.sales.length - db.sales.length = 1 ∧ p.session.state = .IDLE ∧
        WouldSell dep w.text (current phone w.old) db) := by
  rcases transact_ok h with hk | ⟨o, product, row, sale, hsell, hi⟩
  · exact .inl (by rw [hk, Nat.sub_self])
  · refine .inr ⟨?_, hi, hsell.state, hsell.confirms, o, hsell.order, ?_⟩
    · rw [hsell.write.sales, List.length_append, List.length_singleton]
      omega
    · exact canSell_of_sellable hsell.write.sellable

/-! ## The invariant -/

/-- What a worker that still has to save has done. -/
structure Handled.Ok (w : Handled) : Prop where
  old : w.sales ≠ 0 → expectedState w.old = .CONFIRM_SALE
  new : w.sales ≠ 0 → w.session.state = .IDLE

/-- At most one sale is unsettled, and its worker can still save; every sale
has had its prompt, and a prompt that is stored and settled is yet unused. -/
structure Sound (history : List (Moment System Action)) (s : System) : Prop where
  handled : ∀ i w, s.Saves i w → w.Ok
  unique : ∀ i j v w, s.Saves i v → s.Saves j w → v.sales ≠ 0 → w.sales ≠ 0 → i = j
  prompt : ∀ i w, s.Saves i w → w.sales ≠ 0 → accepts s.stored .CONFIRM_SALE = true
  sold : count salesOf history ≤ count promptsOf history
  credit : s.prompting = true → (∀ i w, s.Saves i w → w.sales = 0) →
    count salesOf history < count promptsOf history
  stranded : ∀ m ∈ history, strandedSales m = 0

theorem sound_start (h : s.Fresh) : Sound [] s where
  handled i w hw := by simp [System.Saves, h.2] at hw
  unique i j v w hv := by simp [System.Saves, h.2] at hv
  prompt i w hw := by simp [System.Saves, h.2] at hw
  sold := le_refl _
  credit hp := by simp [System.prompting, h.1] at hp
  stranded m hm := by cases hm

/-- A step that neither sells nor writes the key, and drops no unsettled worker. -/
theorem Sound.quiet {m : Moment System Action} (h : Sound history s) (hst : s'.stored = s.stored)
    (hin : ∀ i w, s'.Saves i w → w.sales ≠ 0 → s.Saves i w)
    (hout : ∀ i w, s.Saves i w → w.sales ≠ 0 → s'.Saves i w)
    (hsold : salesOf m = 0) (hprompt : promptsOf m = 0) (hstr : strandedSales m = 0) :
    Sound (history ++ [m]) s' where
  handled i w hw :=
    ⟨fun hne ↦ (h.handled i w (hin i w hw hne)).old hne,
      fun hne ↦ (h.handled i w (hin i w hw hne)).new hne⟩
  unique i j v w hv hw hne hne' := h.unique i j v w (hin i v hv hne) (hin j w hw hne') hne hne'
  prompt i w hw hne := hst ▸ h.prompt i w (hin i w hw hne) hne
  sold := by simpa [hsold, hprompt] using h.sold
  credit hp hset := by
    have hp' : s.prompting = true := by
      rw [System.prompting, ← hst]
      exact hp
    have hset' : ∀ i w, s.Saves i w → w.sales = 0 := by
      intro i w hw
      by_contra hne
      exact hne (hset i w (hout i w hw hne))
    simpa [hsold, hprompt] using h.credit hp' hset'
  stranded := forall_mem_append h.stranded hstr

theorem settled_saves {except : ℕ → Prop} (h : s.Settled except) {i : ℕ} {w : Handled}
    (hw : s.Saves i w) (hi : ¬ except i) : w.sales = 0 := by
  have hlt : i < s.workers.length := (List.getElem?_eq_some_iff.mp hw).1
  have := h i hlt hi
  rwa [System.owes, hw] at this

/-- A worker whose sale is unsettled is not rejected. -/
theorem Sound.settled_of_rejected {i : ℕ} {w : Handled} (h : Sound history s) (hi : s.Saves i w)
    (ha : accepts s.stored (expectedState w.old) = false) : w.sales = 0 := by
  by_contra hne
  rw [(h.handled i w hi).old hne, h.prompt i w hi hne] at ha
  cases ha

/-- A worker reading at `i` is not the one saving at `j`. -/
theorem ne_of_reading {i : ℕ} {w : Started} (hi : s.Reads i w)
    (v : Handled) : s.workers[i]? ≠ some (.saving v) := by
  rw [hi]
  intro hv
  cases hv

/-- A transaction that sells, from a stored prompt and with every sale settled. -/
theorem Sound.sell {i : ℕ} {w : Handled} {m : Moment System Action} {db : Database}
    {r : Started} (h : Sound history s) (hi : s.Reads i r)
    (hp : s.prompting = true) (hset : ∀ i w, s.Saves i w → w.sales = 0) (hw : w.Ok)
    (hne : w.sales ≠ 0) (hsold : salesOf m = 1) (hprompt : promptsOf m = 0) (hstr : strandedSales m = 0) :
    Sound (history ++ [m]) ({ s with committed := db }.set i (.saving w)) := by
  have only : ∀ j v, ({ s with committed := db }.set i (.saving w)).Saves j v → v.sales ≠ 0 →
      j = i ∧ v = w := by
    intro j v hv hne
    rcases System.set_worker hv with ⟨hj, he⟩ | ⟨-, he⟩
    · cases he
      exact ⟨hj, rfl⟩
    · exact absurd (hset j v he) hne
  have hcredit := h.credit hp hset
  refine ⟨fun j v hv ↦ ?_, fun j k v u hv hu hne hne' ↦ ?_, fun j v hv hne ↦ ?_, ?_, fun _ hset' ↦ ?_,
    forall_mem_append h.stranded hstr⟩
  · by_cases hne : v.sales = 0
    · exact ⟨fun h ↦ absurd hne h, fun h ↦ absurd hne h⟩
    · rw [(only j v hv hne).2]
      exact hw
  · rw [(only j v hv hne).1, (only k u hu hne').1]
  · obtain ⟨c, hc, hstate⟩ : ∃ c ∈ s.stored, c.state = .CONFIRM_SALE := by
      simpa [System.prompting, Option.any_eq_true] using hp
    rw [Option.mem_def] at hc
    simp [accepts, hc, hstate]
  · simp only [count_append, hsold, hprompt]
    omega
  · exact absurd (hset' i w (System.set_worker_self hi _)) hne

theorem sound_step (hs : Step dep phone s a s') (ho : Orderly dep phone s a)
    (h : Sound history s) : Sound (history ++ [⟨s, a, s'⟩]) s' := by
  cases hs with
  | read text =>
      refine h.quiet rfl (fun i w hw _ ↦ ?_) (fun i w hw _ ↦ ?_) rfl rfl rfl
      · rcases worker_of_read hw with hw | ⟨-, hw⟩
        · exact hw
        · cases hw
      · exact (List.getElem?_append_left (List.getElem?_eq_some_iff.mp hw).1).trans hw
  | outside db => exact h.quiet rfl (fun _ _ hw _ ↦ hw) (fun _ _ hw _ ↦ hw) rfl rfl rfl
  | @raised i env w e b hi ht =>
      refine h.quiet rfl (fun j v hv _ ↦ ?_)
        (fun j v hv _ ↦ System.set_worker_ne hv (ne_of_reading hi v)) ?_ rfl rfl
      · rcases System.set_worker hv with ⟨-, hv⟩ | ⟨-, hv⟩
        · cases hv
        · exact hv
      · simp [salesOf, transact_error ht]
  | @handled i env w p b hi ht =>
      rcases sales_of_transact ht with h0 | ⟨h1, hidle, hwould⟩
      · refine h.quiet rfl (fun j v hv hne ↦ ?_)
          (fun j v hv _ ↦ System.set_worker_ne hv (ne_of_reading hi v)) h0 rfl rfl
        rcases System.set_worker hv with ⟨-, hv⟩ | ⟨-, hv⟩
        · cases hv
          exact absurd h0 hne
        · exact hv
      · simp only [Orderly, hi] at ho
        obtain ⟨hp, hset⟩ := ho hwould
        refine h.sell hi hp (fun j v hv ↦ settled_saves hset hv id) ⟨fun _ ↦ ?_, fun _ ↦ hidle⟩
          (by simp only [h1]; decide) h1 rfl rfl
        rw [← state_of_current phone]
        exact hwould.1
  | @saved i w hi ha =>
      have hsaver := saver_of_save hi ({ s with
        stored := some w.session, changes := s.changes + 1 }.set i .ended)
      rw [ha] at hsaver
      have others : ∀ j v, ({ s with stored := some w.session, changes := s.changes + 1 }.set i
          .ended).Saves j v → j ≠ i ∧ s.Saves j v := by
        intro j v hv
        rcases System.set_worker hv with ⟨-, hv⟩ | hv
        · cases hv
        · exact hv
      refine ⟨fun j v hv ↦ h.handled j v (others j v hv).2, fun j k v u hv hu ↦
        h.unique j k v u (others j v hv).2 (others k u hu).2, fun j v hv hne ↦ ?_, ?_,
        fun hp _ ↦ ?_, forall_mem_append h.stranded (by simp [strandedSales, hsaver])⟩
      · obtain ⟨hj, hv⟩ := others j v hv
        simp only [Orderly, hi] at ho
        by_contra hstate
        have hstate : w.session.state ≠ .CONFIRM_SALE := by simpa [accepts] using hstate
        exact hne (settled_saves (ho ha hstate) hv hj)
      · have := h.sold
        simp only [count_append, salesOf]
        omega
      · have hprompt : w.session.state = .CONFIRM_SALE := by simpa [System.prompting] using hp
        have := h.sold
        simp only [count_append, salesOf, promptsOf, hsaver, hprompt, if_true]
        omega
  | @rejected i w hi ha =>
      have hzero := h.settled_of_rejected hi ha
      have hsaver := saver_of_save hi (s.set i .ended)
      rw [ha] at hsaver
      refine h.quiet rfl (fun j v hv _ ↦ ?_) (fun j v hv hne ↦ System.set_worker_ne hv ?_) rfl ?_ ?_
      · rcases System.set_worker hv with ⟨-, hv⟩ | ⟨-, hv⟩
        · cases hv
        · exact hv
      · rw [hi]
        rintro ⟨⟩
        exact hne hzero
      · simp [promptsOf, hsaver]
      · simp [strandedSales, hsaver, hzero]
  | @expire session hst => 
      exact ⟨h.handled, h.unique, fun _ _ _ _ ↦ rfl, by simpa [salesOf, promptsOf, saver, attempt] using h.sold,
        fun hp ↦ by simp [System.prompting] at hp, forall_mem_append h.stranded rfl⟩

/-- In orderly runs a prompt gives at most one sale, and no sale is stranded. -/
theorem noDoubleSale_of_orderly
    (run : Run System.Fresh (Steps (step dep phone) (Orderly dep phone)) history s) :
    NoDoubleSale history := by
  have hsound := run.invariant (fun _ ↦ sound_start) fun _ _ _ _ h hs ↦
    sound_step (step_cases hs.1) hs.2 h
  exact ⟨hsound.sold, hsound.stranded⟩

/-! ## Two runs -/

/-- A worker that is alone with its message. -/
def alone (i : ℕ) (text : String) : List Action := [.read text, .process i .calm, .save i]

/-- Up to the prompt: three units of milk. -/
def prompted : List Action := alone 0 "record sale" ++ alone 1 "milk" ++ alone 2 "3"

theorem noDoubleSale_of_one_reply : ∃ history, count salesOf history = 1 ∧ NoDoubleSale history := by
  have hrun : ∃ history s, Run System.Fresh
      (Steps (step .sample "254700000001") (Orderly .sample "254700000001")) history s ∧
        count salesOf history = 1 :=
    exists_run_of_trace (prompted ++ alone 3 "yes") (System.start_fresh .sample) (by decide +kernel)
  obtain ⟨history, s, run, hsold⟩ := hrun
  exact ⟨history, hsold, noDoubleSale_of_orderly run⟩

/-- Two replies to one prompt, read before either is processed, sell twice. -/
theorem two_sales_of_one_prompt :
    ∃ history s, Run System.Fresh (Steps (step .sample "254700000001") fun _ _ ↦ True) history s ∧
      count salesOf history = 2 ∧ count promptsOf history = 1 ∧ ¬ NoDoubleSale history :=
  exists_run_of_trace (prompted ++ [.read "yes", .read "yes", .process 3 .calm, .process 4 .calm,
    .save 3, .save 4]) (System.start_fresh .sample) (by decide +kernel)

end SokoFlow.Interleaving
