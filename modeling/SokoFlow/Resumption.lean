import SokoFlow.Isolation
import SokoFlow.Conversation.FollowUp
import SokoFlow.Analytics.Bounded

/-!
# Resuming after a choice

A parked tool call that is resumed with the product the user chose ends like the
same call proposed by the language model for that product.
-/

namespace SokoFlow

open DbM Effect

/-! ## The arguments of a product -/

namespace Json.Object

variable {fields : Json.Object} {name other : String} {value : Json}

theorem get?_set : (fields.set name value).get? name = some value := by
  unfold set get?
  split
  · rename_i h
    obtain ⟨f, hf, hname⟩ := List.any_eq_true.mp h
    rw [decide_eq_true_eq] at hname
    cases hfind : (fields.map fun f ↦ if f.1 = name then (name, value) else f).find? (·.1 = name) with
    | none =>
        have hmem : (name, value) ∈ fields.map fun f ↦ if f.1 = name then (name, value) else f :=
          List.mem_map.mpr ⟨f, hf, if_pos hname⟩
        have hnone := List.find?_eq_none.mp hfind _ hmem
        simp at hnone
    | some found =>
        obtain ⟨g, hg, rfl⟩ := List.mem_map.mp (List.mem_of_find?_eq_some hfind)
        have hkey := List.find?_some hfind
        by_cases hgn : g.1 = name
        · simp [hgn]
        · simp [hgn] at hkey
  · rename_i h
    have hnone : fields.find? (·.1 = name) = none := by
      rw [List.find?_eq_none]
      intro f hf hkey
      exact h (List.any_eq_true.mpr ⟨f, hf, hkey⟩)
    simp [List.find?_append, hnone]

theorem get?_set_ne (h : other ≠ name) : (fields.set name value).get? other = fields.get? other := by
  have hname : ¬ name = other := fun heq ↦ h heq.symm
  unfold set get?
  split
  · rw [List.find?_map]
    have hkeys : ((fun f : String × Json ↦ decide (f.1 = other)) ∘
        fun f ↦ if f.1 = name then (name, value) else f) = fun f ↦ decide (f.1 = other) := by
      funext f
      by_cases hf : f.1 = name
      · simp [hf]
      · simp [hf]
    rw [hkeys, Option.map_map]
    cases hfind : fields.find? fun f ↦ decide (f.1 = other) with
    | none => rfl
    | some found =>
        have hkey := List.find?_some hfind
        rw [decide_eq_true_eq] at hkey
        simp [hkey, h]
  · simp [List.find?_append, hname]

theorem key_of_mem_set {f : String × Json} (h : f ∈ fields.set name value) :
    f.1 = name ∨ f ∈ fields := by
  unfold set at h
  split at h
  · obtain ⟨g, hg, rfl⟩ := List.mem_map.mp h
    split
    · exact .inl rfl
    · exact .inr hg
  · rcases List.mem_append.mp h with h | h
    · exact .inr h
    · rw [List.mem_singleton.mp h]
      exact .inl rfl

end Json.Object

namespace Analytics

open Dialogue

variable {dep : Deployment} {shopId : UUID} {tool : ProductTool} {fields : Json.Object}
  {m : ScoredProductMatch}

/-- Nothing but the two fields that identify a product. -/
def OnlyProduct (fields : Json.Object) : Prop :=
  ∀ f ∈ fields, f.1 ∈ ["product_id", "product_name"]

/-- The fields name the product. -/
structure NamesProduct (m : ScoredProductMatch) (fields : Json.Object) : Prop where
  only : OnlyProduct fields
  id : fields.get? "product_id" = some (.str m.id.text)
  name : fields.get? "product_name" = some (.str m.name)

def productArguments (m : ScoredProductMatch) : Json.Object :=
  [("product_id", .str m.id.text), ("product_name", .str m.name)]

theorem productArguments_names : NamesProduct m (productArguments m) where
  only := by
    intro f hf
    simp only [productArguments, List.mem_cons, List.not_mem_nil, or_false] at hf
    rcases hf with rfl | rfl
    · simp
    · simp
  id := rfl
  name := rfl

theorem chosenArguments_names {pending : PendingCallContext} (h : OnlyProduct pending.arguments) :
    NamesProduct m (AnalyticsFlow.chosenArguments pending m) where
  only := by
    intro f hf
    rcases Json.Object.key_of_mem_set hf with hname | hf
    · simp [hname]
    · rcases Json.Object.key_of_mem_set hf with hid | hf
      · simp [hid]
      · exact h f hf
  id := by
    unfold AnalyticsFlow.chosenArguments
    rw [Json.Object.get?_set_ne (by decide), Json.Object.get?_set]
  name := Json.Object.get?_set

def queryFor (m : ScoredProductMatch) : ProductQuery := ⟨some m.id, some m.name, fun h ↦ by cases h⟩

/-- The validated input of the call. -/
def inputFor (tool : ProductTool) (m : ScoredProductMatch) : ToolInput :=
  if tool.val = "get_stock_level" then .getStockLevel (queryFor m) else .getProductPrice (queryFor m)

theorem inputFor_dump : (inputFor tool m).dump = productArguments m := by
  unfold inputFor
  split <;> rfl

theorem parseProductQuery_of_names (h : NamesProduct m fields)
    (hid : dep.validators.uuid (.str m.id.text) = .ok m.id) :
    parseProductQuery dep fields = .ok (queryFor m) := by
  have hextra := forbidExtra_eq_ok.mpr h.only
  unfold parseProductQuery optional
  dsimp only
  rw [h.id, h.name, hextra]
  dsimp only
  rw [hid]
  rfl

theorem validateCall_of_names (h : NamesProduct m fields)
    (hid : dep.validators.uuid (.str m.id.text) = .ok m.id) :
    validateCall dep tool.val fields = .ok (inputFor tool m) := by
  have hshop : fields.any (·.1 = "shop_id") = false := by
    rw [List.any_eq_false]
    intro f hf
    have hkey := h.only f hf
    simp only [List.mem_cons, List.not_mem_nil, or_false] at hkey
    rcases hkey with hkey | hkey
    · simp [hkey]
    · simp [hkey]
  have hquery := parseProductQuery_of_names h hid
  obtain ⟨name, hname⟩ := tool
  unfold validateCall inputFor
  dsimp only
  rcases hname with rfl | rfl
  · have htool : Tool.getTool "get_stock_level" = .ok .getStockLevel := by decide
    rw [htool]
    dsimp only [validateSchema, Tool.modelValidate]
    rw [hshop, hquery]
    rfl
  · have htool : Tool.getTool "get_product_price" = .ok .getProductPrice := by decide
    rw [htool]
    dsimp only [validateSchema, Tool.modelValidate]
    rw [hshop, hquery]
    rfl

/-! ## One call, one handler -/

theorem findProduct_queryFor (hnil : m.id ≠ UUID.nil) :
    findProduct dep shopId (queryFor m) = productOfShop shopId m.id m.id.text := by
  unfold findProduct queryFor
  dsimp only
  rw [if_neg hnil]

theorem handler_same (hnil : m.id ≠ UUID.nil) :
    Agree (Alike Eq) (handler dep shopId (inputFor tool m)) (handler dep shopId (inputFor tool m)) := by
  have hfind : Agree (Alike Eq) (findProduct dep shopId (queryFor m))
      (findProduct dep shopId (queryFor m)) := by
    rw [findProduct_queryFor hnil]
    exact productOfShop_alike m.id m.id.text fun _ _ h ↦ by rw [h]
  unfold inputFor
  split
  · refine .bind (.bind hfind fun product ↦ ?_) fun _ ↦ .pure _
    exact .bind (select_alike fun db db' h ↦ by rw [h]) fun _ ↦ .pure _
  · exact .bind (.bind hfind fun _ ↦ .pure _) fun _ ↦ .pure _

/-- About a product that is given by its id, the handler never asks back. -/
theorem handler_queryFor (hnil : m.id ≠ UUID.nil) :
    Queries Unambiguous (handler dep shopId (inputFor tool m)) := by
  have hfind : Queries Unambiguous (findProduct dep shopId (queryFor m)) := by
    rw [findProduct_queryFor hnil]
    exact productOfShop_queries shopId m.id m.id.text
  unfold inputFor
  split
  · exact .bind (.bind hfind fun _ ↦ .bind (select_queries _) fun _ ↦ .pure _) fun _ ↦ .pure _
  · exact .bind (.bind hfind fun _ ↦ .pure _) fun _ ↦ .pure _

theorem executeWith_same (hnil : m.id ≠ UUID.nil)
    (hid : dep.validators.uuid (.str m.id.text) = .ok m.id) {fields' : Json.Object}
    (h : NamesProduct m fields) (h' : NamesProduct m fields') :
    Agree (Alike Eq) (execute dep tool.val fields shopId) (execute dep tool.val fields' shopId) := by
  unfold execute executeWith
  rw [validateCall_of_names h hid, validateCall_of_names h' hid]
  refine .tryCatch ?_ fun _ ↦ .pure _
  exact .bind (note_alike _) fun _ ↦ .bind (handler_same hnil) fun _ ↦ .bind (note_alike _) fun _ ↦ .pure _

/-- How the call ends: with the data of the handler, or with what it raised. -/
inductive Ends (tool : ProductTool) (m : ScoredProductMatch) : ToolExecutionResult → Prop
  | success (data : ToolOutput) : Ends tool m (.success tool.val data (productArguments m))
  | failure {e : Exc} (he : Unambiguous e) : Ends tool m (.failure tool.val (.ofExc e))

theorem execute_ends (hnil : m.id ≠ UUID.nil)
    (hid : dep.validators.uuid (.str m.id.text) = .ok m.id) (h : NamesProduct m fields) (b : Backend) :
    ∃ result b' events, execute dep tool.val fields shopId b = .ok result b' ∧ Ends tool m result ∧
      b'.journal = b.journal ++ events ∧
      events.filter Event.isHandled = [.handled tool.val shopId (productArguments m)] := by
  have hvalid : validateCall dep tool.val fields = .ok (inputFor tool m) := validateCall_of_names h hid
  rcases executeWith_handles (b := b) hvalid (handler_queryFor hnil).within with
    ⟨data, b₁, b', -, hx, hj⟩ | ⟨e, b', hd, hx, hj⟩
  · rw [inputFor_dump] at hx hj
    exact ⟨_, b', _, hx, .success data, hj, rfl⟩
  · rw [inputFor_dump] at hj
    exact ⟨_, b', _, hx, .failure ((handler_queryFor hnil).raises _ _ _ hd), hj, rfl⟩

/-! ## The outcome -/

def callOf : AnalyticsOutcome → Option ToolCall
  | .answered _ call => call
  | .answeredEmpty _ call => call
  | _ => none

/-- Neither the schema nor an ambiguity is what a call failed on. -/
def Settled : AnalyticsOutcome → Prop
  | .answered .. => True
  | .answeredEmpty .. => True
  | .infrastructureFailure _ => True
  | .domainFailure _ errorType _ _ =>
      errorType ≠ "SchemaValidationError" ∧ errorType ≠ "ProductAmbiguousError"
  | _ => False

/-- The outcome of a call about a product. -/
def outcomeFor (tool : ProductTool) (m : ScoredProductMatch) (result : ToolExecutionResult) :
    AnalyticsOutcome :=
  (AnalyticsFlow.resumed tool.val (productArguments m) result).1

variable {result : ToolExecutionResult}

theorem details_of_unambiguous {e : Exc} (h : Unambiguous e) :
    (ToolExecutionError.ofExc e).details = none := by
  cases e with
  | productAmbiguous term candidates => exact absurd rfl h.1
  | _ => rfl

/-- The raw arguments do not matter, for the validated ones are not empty. -/
theorem resumed_of_ends (h : Ends tool m result) (rawArgs : Json.Object) :
    AnalyticsFlow.resumed tool.val rawArgs result =
      (outcomeFor tool m result, callOf (outcomeFor tool m result)) := by
  unfold outcomeFor AnalyticsFlow.resumed
  cases h with
  | success data =>
      unfold answer
      dsimp only [productArguments, List.isEmpty]
      split <;> rfl
  | failure he =>
      dsimp only
      split <;> rfl

theorem outcomeFor_settled (h : Ends tool m result) : Settled (outcomeFor tool m result) := by
  unfold outcomeFor AnalyticsFlow.resumed
  cases h with
  | success data =>
      unfold answer
      dsimp only
      split <;> trivial
  | failure he =>
      dsimp only
      split
      · trivial
      · exact he.errorType.symm

theorem respond_of_ends (h : Ends tool m result) {b b' : Backend}
    (hx : execute dep tool.val fields shopId b = .ok result b') :
    respond (handler dep) dep shopId false [⟨tool.val, fields⟩] b =
      .ok (.inl (outcomeFor tool m result)) b' := by
  have hactive : tool.val ∈ defaultActiveTools := by
    rcases tool.property with htool | htool
    · rw [htool]
      decide
    · rw [htool]
      decide
  let call : NormalizedToolCall := ⟨tool.val, fields⟩
  have hcall : call.name ∈ defaultActiveTools := hactive
  have hx : executeWith (handler dep) dep call.name call.arguments shopId b = .ok result b' := hx
  cases h with
  | success data => exact respond_answered hcall hx
  | @failure e he =>
      have hfailed : respond (handler dep) dep shopId false [⟨tool.val, fields⟩] b =
          .ok (afterFailure dep false ⟨tool.val, fields⟩ (.ofExc e)) b' := respond_failed hcall hx
      rw [hfailed]
      have hschema : (ToolExecutionError.ofExc e).errorType ≠ "SchemaValidationError" :=
        he.errorType.2
      have hambiguous : (ToolExecutionError.ofExc e).errorType ≠ "ProductAmbiguousError" :=
        he.errorType.1
      unfold afterFailure outcomeOfFailure outcomeFor AnalyticsFlow.resumed
      dsimp only
      rw [if_neg (fun hh ↦ hschema hh.1), if_neg hschema, if_neg hambiguous, details_of_unambiguous he]
      split <;> rfl

/-- On its first answer the model proposes the tool for the product, and then the
session is where `b` is. -/
structure Asked (dep : Deployment) (messageText : String) (prior : Option ToolCall) (toolName : String)
    (m : ScoredProductMatch) (b c : Backend) : Prop where
  response : ∃ arguments, NamesProduct m arguments ∧
    c.env.generate c.tick (opening dep messageText prior) = .ok ⟨[⟨toolName, arguments⟩]⟩
  alike : Alike Eq b { c with tick := c.tick + 1 }

theorem run_of_ends (hnil : m.id ≠ UUID.nil) (hid : dep.validators.uuid (.str m.id.text) = .ok m.id)
    (hnames : NamesProduct m fields) {b b' : Backend} (h : Ends tool m result)
    (hx : execute dep tool.val fields shopId b = .ok result b') {messageText : String}
    {prior : Option ToolCall} {c : Backend} (hasked : Asked dep messageText prior tool.val m b c) :
    ∃ c', run dep messageText shopId prior c = .ok (outcomeFor tool m result) c' := by
  obtain ⟨⟨arguments, harguments, hresponse⟩, halike⟩ := hasked
  let c₁ : Backend := Backend.noted { c with tick := c.tick + 1 }
    (.generated (opening dep messageText prior) (.ok ⟨[⟨tool.val, arguments⟩]⟩))
  have hgenerate : generate (opening dep messageText prior) c =
      .ok (.ok ⟨[⟨tool.val, arguments⟩]⟩) c₁ := by
    unfold generate
    rw [bind_of_ok (ask_apply _ _), hresponse]
    rfl
  have halike₁ : Alike Eq b c₁ :=
    ⟨halike.env, halike.tick, halike.began, halike.aborted, halike.working⟩
  have hagree : Agree (Alike Eq) (execute dep tool.val fields shopId)
      (execute dep tool.val arguments shopId) := executeWith_same hnil hid hnames harguments
  have hsame := hagree b c₁ halike₁
  obtain ⟨result', c', hx'⟩ := execute_returns dep tool.val arguments shopId c₁
  rw [hx, hx'] at hsame
  obtain ⟨rfl, -⟩ := hsame
  refine ⟨c', ?_⟩
  have hattempt : attempt (handler dep) dep shopId false (opening dep messageText prior) c =
      .ok (.inl (outcomeFor tool m result)) c' := by
    unfold attempt
    rw [bind_of_ok hgenerate]
    exact respond_of_ends h hx'
  unfold run runWith
  rw [bind_of_ok hattempt]
  rfl

end Analytics

/-! ## The choice -/

theorem resolveProductChoice_of_index {u : Unicode} {candidates : List ScoredProductMatch}
    {text : String} {i : ℕ} {m : ScoredProductMatch}
    (hi : Text.readInt u (Text.strip text) = some ((i : ℤ) + 1)) (hm : candidates[i]? = some m) :
    resolveProductChoice u candidates text = .ok m := by
  have hne : candidates.isEmpty = false := by
    cases candidates with
    | nil => cases hm
    | cons first others => rfl
  have hpos : ¬ ((i : ℤ) + 1 < 1) := by omega
  have hindex : ((i : ℤ) + 1 - 1).toNat = i := by omega
  unfold resolveProductChoice
  rw [hne, hi]
  dsimp only
  rw [if_neg hpos, hindex, hm]
  rfl

namespace AnalyticsFlow

open FlowM Analytics Dialogue

variable {dep : Deployment} {text : String} {t : Turn} {tool : ProductTool} {m : ScoredProductMatch}

/-- The call that succeeded is remembered, and otherwise the last one is kept. -/
def Stored (last : Option PriorCallContext) (call : Option ToolCall)
    (stored : Option PriorCallContext) : Prop :=
  (call = none ∧ stored = last) ∨
    ∃ made now, call = some made ∧ stored = some ⟨made.name, made.arguments, now⟩

theorem remember_stores (call : Option ToolCall) (t : Turn) :
    ∃ t', remember call t = .ok () t' ∧ t'.backend.journal = t.backend.journal ∧
      Stored t.session.context.lastAnalyticsCall call t'.session.context.lastAnalyticsCall := by
  cases call with
  | none => exact ⟨t, rfl, rfl, .inl ⟨rfl, rfl⟩⟩
  | some call => exact ⟨_, rfl, rfl, .inr ⟨call, _, rfl, rfl⟩⟩

/-- A choice resumes the call, and the reply is that of its outcome. -/
theorem handleProductSelection_of_ends {pending : PendingCallContext} {shopId : UUID}
    {b₁ b₂ : Backend} {result : ToolExecutionResult}
    (hpending : t.session.context.pendingAnalyticsCall = some pending)
    (htool : pending.toolName = tool.val)
    (hchoice : resolveProductChoice dep.unicode t.session.context.productCandidates text = .ok m)
    (hshop : getShopId t.session.phone t.backend = .ok shopId b₁)
    (hx : execute dep tool.val (chosenArguments pending m) shopId b₁ = .ok result b₂)
    (h : Ends tool m result) :
    ∃ r t', handleProductSelection dep text t = .ok r t' ∧
      formatOutcome dep (outcomeFor tool m result) = .ok r.reply ∧ t'.backend.journal = b₂.journal ∧
      Stored t.session.context.lastAnalyticsCall (callOf (outcomeFor tool m result))
        t'.session.context.lastAnalyticsCall := by
  have hshop' : onDb (getShopId t.session.phone) t = .ok shopId { t with backend := b₁ } :=
    zoom_eq_ok.mpr ⟨b₁, hshop, rfl⟩
  have hx' : onDb (execute dep tool.val (chosenArguments pending m) shopId) { t with backend := b₁ } =
      .ok result { t with backend := b₂ } := zoom_eq_ok.mpr ⟨b₂, hx, rfl⟩
  obtain ⟨t₁, hremember, hjournal, hstored⟩ :=
    remember_stores (callOf (outcomeFor tool m result)) { t with backend := b₂ }
  have hpresentable : (outcomeFor tool m result).Presentable := by
    have hp := resumed_presentable hx
    rwa [resumed_of_ends h] at hp
  rw [handleProductSelection_eq, session_bind, bind_of_ok (ofExcept_eq_ok.mpr ⟨hchoice, rfl⟩),
    hpending]
  dsimp only
  rw [bind_of_ok hshop', htool, bind_of_ok hx', resumed_of_ends h]
  dsimp only
  rw [bind_of_ok hremember, editContext_bind, transition_bind]
  exact ⟨_, _, rfl, formatOutcome_of_presentable hpresentable, hjournal, hstored⟩

end AnalyticsFlow

/-! ## The call that waits -/

namespace Analytics

variable {dep : Deployment} {shopId : UUID} {b b' : Backend}

theorem onlyProduct_of_valid {toolName : String} {fields : Json.Object} {input : ToolInput}
    (h : validateCall dep toolName fields = .ok input)
    (htool : input.tool = .getStockLevel ∨ input.tool = .getProductPrice) : OnlyProduct fields := by
  obtain ⟨tool, -, hv⟩ := validateCall_eq_ok.mp h
  obtain ⟨rfl, -, hextra⟩ := modelValidate_eq_ok.mp (validateSchema_eq_ok.mp hv).2
  rcases htool with htool | htool
  · rw [htool] at hextra
    exact hextra
  · rw [htool] at hextra
    exact hextra

/-- A selection is asked for with a call that takes nothing but the product. -/
def Poses (outcome : AnalyticsOutcome) : Prop :=
  ∀ candidates pending tool, outcome = .needsSelection candidates pending tool →
    ∃ call, pending = some call ∧ OnlyProduct call.arguments

theorem outcomeOfFailure_selects {call : NormalizedToolCall} {error : ToolExecutionError}
    {candidates : List ScoredProductMatch} {pending : Option ToolCall} {tool : Option String}
    (h : outcomeOfFailure call error = .needsSelection candidates pending tool) :
    error.errorType = "ProductAmbiguousError" ∧ pending = some ⟨call.name, call.arguments⟩ := by
  unfold outcomeOfFailure at h
  split at h
  · cases h
  · split at h
    · rename_i hambiguous
      cases h
      exact ⟨hambiguous, rfl⟩
    · split at h <;> cases h

theorem Exchange.poses {last : Bool} {response : Except Exc LLMResponse} {events : List Event}
    {outcome : AnalyticsOutcome}
    (h : Exchange (handler dep) dep shopId last response events (.inl outcome)) : Poses outcome := by
  rintro candidates pending tool rfl
  generalize hr : (Sum.inl (AnalyticsOutcome.needsSelection candidates pending tool) :
    AnalyticsOutcome ⊕ List LLMMessage) = r at h
  cases h with
  | unanswered e =>
      unfold outcomeOfProviderError at hr
      split at hr <;> cases hr
  | silent _ => cases hr
  | several _ => cases last <;> cases hr
  | unknown _ _ => cases last <;> cases hr
  | rejected _ hv =>
      obtain ⟨hambiguous, -⟩ := outcomeOfFailure_selects (afterFailure_inl hr.symm).symm
      exact absurd hambiguous (validateCall_error hv)
  | returned data _ _ =>
      unfold answer at hr
      dsimp only at hr
      split at hr <;> cases hr
  | @raised _ call input e _ hv he =>
      obtain ⟨hambiguous, rfl⟩ := outcomeOfFailure_selects (afterFailure_inl hr.symm).symm
      obtain ⟨b, b', hraise⟩ := he
      have honly : AmbiguousOnlyFor input.tool e := (handler_queries dep shopId input).raises _ _ _ hraise
      have hclass := className_of_errorType (by decide) hambiguous
      exact ⟨_, rfl, onlyProduct_of_valid hv (honly.2 hclass).1⟩

theorem run_poses {messageText : String} {prior : Option ToolCall} {outcome : AnalyticsOutcome}
    (h : run dep messageText shopId prior b = .ok outcome b') : Poses outcome := by
  obtain ⟨events, -, hcourse⟩ := runWith_course (lawful_default dep) h
  cases hcourse with
  | once hx => exact Exchange.poses hx
  | twice _ hx => exact Exchange.poses hx

end Analytics

/-- The call that waits takes nothing but the product. -/
def Posed (s : UserSession) : Prop :=
  ∀ call ∈ s.context.pendingAnalyticsCall, Analytics.OnlyProduct call.arguments

theorem posed_of_none {s : UserSession} (h : s.context.pendingAnalyticsCall = none) : Posed s := by
  intro call hcall
  rw [h] at hcall
  cases hcall

section Posed

open FlowM Analytics Dialogue FSMEngine

variable {dep : Deployment} {text : String} {t t' : Turn} {r : FSMResult}

theorem settle_posed {outcome : AnalyticsOutcome} (hnone : t.session.context.pendingAnalyticsCall = none)
    (ho : Poses outcome) (h : AnalyticsFlow.settle outcome t = .ok () t') : Posed t'.session := by
  cases outcome with
  | needsSelection candidates pending tool =>
      obtain ⟨call, rfl, hcall⟩ := ho _ _ _ rfl
      cases h
      intro waiting hwaiting
      cases hwaiting
      exact hcall
  | answered answer call =>
      cases call <;> cases h
      · exact posed_of_none hnone
      · exact posed_of_none hnone
  | answeredEmpty answer call =>
      cases call <;> cases h
      · exact posed_of_none hnone
      · exact posed_of_none hnone
  | _ =>
      cases h
      exact posed_of_none hnone

theorem handleQuery_posed (hnone : t.session.context.pendingAnalyticsCall = none)
    (h : AnalyticsFlow.handleQuery dep text t = .ok r t') : Posed t'.session := by
  rw [AnalyticsFlow.handleQuery_eq] at h
  rw [session_bind] at h
  obtain ⟨shopId, b₁, _, h⟩ := onDb_bind_ok h
  rw [editContext_bind] at h
  obtain ⟨fresh, b₂, _, h⟩ := onDb_bind_ok h
  obtain ⟨outcome, b₃, hrun, h⟩ := onDb_bind_ok h
  obtain ⟨_, t₄, hsettle, h⟩ := bind_eq_ok.mp h
  cases h
  refine settle_posed ?_ (run_poses hrun) hsettle
  exact hnone

theorem handleIdle_posed (hnone : t.session.context.pendingAnalyticsCall = none)
    (h : handleIdle dep text t = .ok r t') : Posed t'.session := by
  unfold handleIdle at h
  rw [session_bind] at h
  cases hi : IntentResolver.resolve dep.unicode text with
  | UNKNOWN =>
      rw [hi] at h
      obtain ⟨routed, b₁, _, h⟩ := onDb_bind_ok h
      cases routed with
      | false => cases h
      | true =>
          rw [if_pos rfl] at h
          exact handleQuery_posed (t := ⟨t.session, b₁⟩) hnone h
  | GENERATE_REPORT =>
      rw [hi] at h
      obtain ⟨_, t₁, h₁, h⟩ := bind_eq_ok.mp h
      cases h₁
      rw [transition_bind] at h
      obtain ⟨_, t₂, h₂, h⟩ := bind_eq_ok.mp h
      cases h
      obtain ⟨shopId, hs₂⟩ := handleDailyReport_ok h₂
      apply posed_of_none
      dsimp only
      rw [hs₂]
      exact hnone
  | _ =>
      rw [hi] at h
      cases h
      exact posed_of_none hnone

theorem pending_of_shows {s : UserSession} {p : Phase} (hs : Shows s p) :
    s.context.pendingAnalyticsCall = p.content.pendingAnalyticsCall :=
  congrArg (·.pendingAnalyticsCall) hs.content

/-- In a flow no call is parked: the one that waits stays or goes. -/
theorem posed_of_step {products : List Product} {p p' : Phase} {reply : MessageKey × Params}
    {s s' : UserSession} (hp : p ≠ .idle) (hs : Shows s p) (hs' : Shows s' p') (hposed : Posed s)
    (h : Step dep products text p reply p') : Posed s' := by
  have hsame := pending_of_shows hs'
  cases h with
  | stay =>
      intro call hcall
      rw [hsame, ← pending_of_shows hs] at hcall
      exact hposed call hcall
  | analytics => exact absurd rfl hp
  | _ => exact posed_of_none hsame

theorem processMessage_posed {p : Phase} (hs : Shows t.session p) (hposed : Posed t.session)
    (h : processMessage dep text t = .ok r t') : Posed t'.session := by
  obtain ⟨p', hstep, hs'⟩ := processMessage_follows hs h
  by_cases hp : p = .idle
  · subst hp
    have hnone : t.session.context.pendingAnalyticsCall = none := pending_of_shows hs
    have hreset {t₁ : Turn} {key : MessageKey} (h : reset t.session.state key t₁ = .ok r t') :
        Posed t'.session := by
      cases h
      exact posed_of_none rfl
    rcases processMessage_ok h with ⟨-, hk⟩ | ⟨-, t₁, hk, rfl⟩ | ⟨-, _, _, _, t₁, -, hsame, -, hk⟩
    · exact hreset hk
    · rw [hs.state] at hk
      intro call hcall
      exact handleIdle_posed hnone hk call hcall
    · rcases onInvalidInput_ok hk with ⟨-, hk⟩ | ⟨-, rfl⟩
      · exact hreset hk
      · apply posed_of_none
        dsimp only
        rw [hsame]
        exact hnone
  · exact posed_of_step hp hs hs' hposed hstep

theorem hear_posed {s : UserSession} (hs : ∃ p, Shows s p) (hposed : Posed s)
    (visit : Backend × String) : Posed (hear dep s visit) := by
  obtain ⟨p, hs⟩ := hs
  unfold hear
  split
  · rename_i h
    exact processMessage_posed (t := ⟨s, visit.1⟩) hs hposed h
  · exact hposed

theorem talk_posed {s : UserSession} (hs : ∃ p, Shows s p) (hposed : Posed s)
    (visits : List (Backend × String)) : Posed (talk dep s visits) := by
  induction visits generalizing s with
  | nil => exact hposed
  | cons visit visits ih => exact ih (hear_shows hs visit) (hear_posed hs hposed visit)

/-- In any reachable session that waits for a choice, choosing a candidate ends
like a run in which the model proposes the call for that candidate: same outcome,
so same data and reply, and same call to remember; one handler is started, for the
candidate, and it fails on neither the schema nor an ambiguity. -/
theorem resumed_as_asked (dep : Deployment) (phone : String) (visits : List (Backend × String))
    {text : String} {i : ℕ} {m : ScoredProductMatch} :
    let s := talk dep (UserSession.fresh phone) visits
    s.state = .ANALYTICS_PRODUCT_SELECTION →
    Text.readInt dep.unicode (Text.strip text) = some ((i : ℤ) + 1) →
    s.context.productCandidates[i]? = some m →
    m.id ≠ UUID.nil → dep.validators.uuid (.str m.id.text) = .ok m.id →
    ∃ pending, s.context.pendingAnalyticsCall = some pending ∧
      ∀ b shopId b₁, getShopId s.phone b = .ok shopId b₁ →
        ∃ outcome r t' events, AnalyticsFlow.handleProductSelection dep text ⟨s, b⟩ = .ok r t' ∧
          formatOutcome dep outcome = .ok r.reply ∧
          AnalyticsFlow.Stored s.context.lastAnalyticsCall (callOf outcome)
            t'.session.context.lastAnalyticsCall ∧
          t'.backend.journal = b.journal ++ events ∧
          events.filter Event.isHandled = [.handled pending.toolName shopId (productArguments m)] ∧
          Settled outcome ∧
          ∀ messageText prior c, Asked dep messageText prior pending.toolName m b₁ c →
            ∃ c', run dep messageText shopId prior c = .ok outcome c' := by
  intro s hstate hi hm hnil hid
  have hshows : ∃ p, Shows s p := talk_shows ⟨.idle, Shows.fresh phone⟩ visits
  have hposed : Posed s := talk_posed ⟨.idle, Shows.fresh phone⟩ (posed_of_none rfl) visits
  obtain ⟨p, hs⟩ := hshows
  have hp : p.state = .ANALYTICS_PRODUCT_SELECTION := hs.state.symm.trans hstate
  cases p with
  | analyticsChoice choices tool arguments =>
      have hpending : s.context.pendingAnalyticsCall = some ⟨tool.val, arguments, choices.val⟩ :=
        pending_of_shows hs
      have hnames : NamesProduct m (AnalyticsFlow.chosenArguments ⟨tool.val, arguments, choices.val⟩ m) :=
        chosenArguments_names (hposed _ hpending)
      refine ⟨_, hpending, fun b shopId b₁ hshop ↦ ?_⟩
      obtain ⟨result, b₂, events, hx, hends, hjournal, hhandled⟩ : ∃ result b₂ events,
          execute dep tool.val _ shopId b₁ = .ok result b₂ ∧ Ends tool m result ∧ _ :=
        execute_ends hnil hid hnames b₁
      have hchoice := resolveProductChoice_of_index hi hm
      obtain ⟨r, t', hflow, hreply, hkept, hstored⟩ :=
        AnalyticsFlow.handleProductSelection_of_ends (t := ⟨s, b⟩) hpending rfl hchoice hshop hx hends
      have hquiet : b₁.journal = b.journal := (getShopId_sameJournal s.phone).of_ok hshop
      refine ⟨outcomeFor tool m result, r, t', events, hflow, hreply, hstored, ?_, hhandled,
        outcomeFor_settled hends, ?_⟩
      · rw [hkept, hjournal, hquiet]
      · intro messageText prior c hasked
        exact run_of_ends hnil hid hnames hends hx hasked
  | _ => cases hp

end Posed

/-! The merchant who asked about milk chooses the second kind. -/

section Milk

open Analytics FSMEngine

def milkVisits : List (Backend × String) :=
  [(proposes "get_stock_level" [("product_name", .str "milk")], "how is milk")]

def twoLitres : ScoredProductMatch :=
  ProductRepository.scored curious "milk" ⟨⟨4⟩, ⟨1⟩, "Milk 2L", "M-BBBBBB", 110⟩

/-- The model proposes the call for the second kind. -/
def informed : Backend := proposes "get_stock_level" (productArguments twoLitres)

theorem resumed_as_asked_milk :
    let s := talk curious (UserSession.fresh "254700000001") milkVisits
    ∃ outcome r t' c', AnalyticsFlow.handleProductSelection curious "2" ⟨s, informed⟩ = .ok r t' ∧
      formatOutcome curious outcome = .ok r.reply ∧
      run curious "how is milk 2L" ⟨1⟩ none { informed.served with tick := 1 } = .ok outcome c' := by
  intro s
  have hs : s.state = .ANALYTICS_PRODUCT_SELECTION ∧
      s.context.productCandidates[1]? = some twoLitres ∧ s.phone = "254700000001" ∧
      s.context.pendingAnalyticsCall.map (·.toolName) = some "get_stock_level" := by decide +kernel
  obtain ⟨hstate, hchosen, hphone, hname⟩ := hs
  have hread : Text.readInt curious.unicode (Text.strip "2") = some (((1 : ℕ) : ℤ) + 1) := by
    decide +kernel
  have hnil : twoLitres.id ≠ UUID.nil := by decide
  have hid : curious.validators.uuid (.str twoLitres.id.text) = .ok twoLitres.id := by decide +kernel
  obtain ⟨pending, hpending, hresumed⟩ := resumed_as_asked curious "254700000001" milkVisits
    hstate hread hchosen hnil hid
  have htool : pending.toolName = "get_stock_level" := by
    have hsame := congrArg (Option.map PendingCallContext.toolName) hpending
    exact Option.some.inj (hsame.symm.trans hname)
  have hshop : getShopId s.phone informed = .ok ⟨1⟩ informed.served := by
    rw [hphone]
    rfl
  obtain ⟨outcome, r, t', events, hflow, hreply, -, -, -, -, hrun⟩ := hresumed informed ⟨1⟩ _ hshop
  have hasked : Asked curious "how is milk 2L" none pending.toolName twoLitres informed.served
      { informed.served with tick := 1 } := by
    refine ⟨⟨productArguments twoLitres, productArguments_names, ?_⟩, rfl, rfl, rfl, rfl, rfl⟩
    rw [htool]
    rfl
  obtain ⟨c', hc⟩ := hrun _ _ _ hasked
  exact ⟨outcome, r, t', c', hflow, hreply, hc⟩

end Milk

end SokoFlow
