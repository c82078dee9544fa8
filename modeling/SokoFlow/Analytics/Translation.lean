import SokoFlow.Analytics.Acceptance
import SokoFlow.Analytics.Provider

/-!
# What becomes of the body of an answer

An entry of the tool calls is skipped when it has another shape, refused when
its arguments are a text but not the text of an object, and emptied when its
arguments are neither a text nor an object.  The list is read from its head, so
the first refused entry decides, unless `json.loads` fails on an earlier one in
a way the client does not expect.
-/

namespace SokoFlow.LLMClient

open Analytics Validated

variable {dep : Deployment} {lib : Libraries} {payload : Json.Object}

/-! ## The shape of a proposal -/

/-- An entry of the tool calls with a function object that has a name. -/
def Named (tc : Json) (func : Json.Object) (name : String) : Prop :=
  ∃ call, tc = .obj call ∧ Json.Object.get? call "function" = some (.obj func) ∧
    toolName func = some name

/-- The provider supplies these arguments: as an object, as the text of one, or not at all. -/
def Supplies (lib : Libraries) (raw : Json) (arguments : Json.Object) : Prop :=
  raw = .obj arguments ∨ ∃ s, raw = .str s ∧
    ((Text.strip s = "" ∧ arguments = []) ∨ lib.loads s = .ok (.obj arguments))

/-- A text of arguments that is not JSON, or not the text of an object. -/
def Refused (lib : Libraries) (raw : Json) : Prop :=
  ∃ s, raw = .str s ∧ Text.strip s ≠ "" ∧ ((∃ msg, lib.loads s = .error (.decode msg)) ∨
    ∃ value, lib.loads s = .ok value ∧ ∀ arguments, value ≠ .obj arguments)

/-- A text on which `json.loads` raises something else than its own error. -/
def Crashes (lib : Libraries) (raw : Json) : Prop :=
  ∃ s className text, raw = .str s ∧ Text.strip s ≠ "" ∧
    lib.loads s = .error (.other className text)

/-- An entry of the tool calls and the call it proposes. -/
def Proposes (lib : Libraries) (tc : Json) (call : Call) : Prop :=
  ∃ func, Named tc func call.name ∧ Supplies lib (rawArguments func) call.arguments

def RefusedCall (lib : Libraries) (tc : Json) : Prop :=
  ∃ func name, Named tc func name ∧ Refused lib (rawArguments func)

def CrashingCall (lib : Libraries) (tc : Json) : Prop :=
  ∃ func name, Named tc func name ∧ Crashes lib (rawArguments func)

/-- A refused entry comes before any on which `json.loads` crashes. -/
inductive RefusedFirst (lib : Libraries) : List Json → Prop
  | here {tc : Json} {rest : List Json} (h : RefusedCall lib tc) : RefusedFirst lib (tc :: rest)
  | later {tc : Json} {rest : List Json} (hc : ¬ CrashingCall lib tc) (h : RefusedFirst lib rest) :
      RefusedFirst lib (tc :: rest)

/-- An entry on which `json.loads` crashes comes before any refused one. -/
inductive CrashFirst (lib : Libraries) : List Json → Prop
  | here {tc : Json} {rest : List Json} (h : CrashingCall lib tc) : CrashFirst lib (tc :: rest)
  | later {tc : Json} {rest : List Json} (hr : ¬ RefusedCall lib tc) (h : CrashFirst lib rest) :
      CrashFirst lib (tc :: rest)

/-! ## Arguments -/

theorem named_unique {tc : Json} {func func' : Json.Object} {name name' : String}
    (h : Named tc func name) (h' : Named tc func' name') : func' = func ∧ name' = name := by
  obtain ⟨call, rfl, hfunc, hname⟩ := h
  obtain ⟨_, heq, hfunc', hname'⟩ := h'
  cases heq
  rw [hfunc] at hfunc'
  cases hfunc'
  rw [hname] at hname'
  cases hname'
  exact ⟨rfl, rfl⟩

/-- The arguments an entry is run with, if they are read. -/
inductive Arguments (lib : Libraries) (raw : Json) : Except Exc Json.Object → Prop
  | supplied {arguments : Json.Object} (h : Supplies lib raw arguments) : Arguments lib raw (.ok arguments)
  | emptied (hs : ∀ s, raw ≠ .str s) (ho : ∀ fields, raw ≠ .obj fields) : Arguments lib raw (.ok [])
  | refused (h : Refused lib raw) (message : String) : Arguments lib raw (.error (.llmResponseFormat message))
  | crashed (h : Crashes lib raw) (className text : String) :
      Arguments lib raw (.error (.other className text))

theorem parseArguments_spec (lib : Libraries) (name : String) (raw : Json) :
    Arguments lib raw (parseArguments lib name raw) := by
  cases raw with
  | str s =>
      simp only [parseArguments]
      by_cases hblank : Text.strip s = ""
      · rw [if_pos hblank]
        exact .supplied (.inr ⟨s, rfl, .inl ⟨hblank, rfl⟩⟩)
      · rw [if_neg hblank]
        cases hl : lib.loads s with
        | ok value =>
            cases value with
            | obj arguments => exact .supplied (.inr ⟨s, rfl, .inr hl⟩)
            | _ => exact .refused ⟨s, rfl, hblank, .inr ⟨_, hl, nofun⟩⟩ _
        | error e =>
            cases e with
            | decode msg => exact .refused ⟨s, rfl, hblank, .inl ⟨msg, hl⟩⟩ _
            | other className text => exact .crashed ⟨s, className, text, rfl, hblank, hl⟩ _ _
  | obj arguments => exact .supplied (.inl rfl)
  | _ => exact .emptied nofun nofun

theorem parseArguments_of_supplies {raw : Json} {arguments : Json.Object}
    (h : Supplies lib raw arguments) (name : String) :
    parseArguments lib name raw = .ok arguments := by
  rcases h with rfl | ⟨s, rfl, ⟨hblank, rfl⟩ | hloads⟩
  · rfl
  · simp [parseArguments, hblank]
  · have hblank : Text.strip s ≠ "" := by
      intro hb
      obtain ⟨msg, hmsg⟩ := lib.loads_blank s hb
      rw [hloads] at hmsg
      cases hmsg
    simp [parseArguments, hblank, hloads]

theorem parseArguments_of_refused {raw : Json} (h : Refused lib raw) (name : String) :
    ∃ message, parseArguments lib name raw = .error (.llmResponseFormat message) := by
  obtain ⟨s, rfl, hblank, ⟨msg, hloads⟩ | ⟨value, hloads, hvalue⟩⟩ := h
  · simp [parseArguments, hblank, hloads]
  · cases value with
    | obj arguments => exact absurd rfl (hvalue arguments)
    | _ => simp [parseArguments, hblank, hloads]

theorem parseArguments_of_crashes {raw : Json} (h : Crashes lib raw) (name : String) :
    ∃ className text, parseArguments lib name raw = .error (.other className text) := by
  obtain ⟨s, className, text, rfl, hblank, hloads⟩ := h
  simp [parseArguments, hblank, hloads]

/-! ## Entries -/

/-- What becomes of an entry. -/
inductive Entry (lib : Libraries) (tc : Json) : Except Exc (Option Call) → Prop
  | skipped (h : ∀ func name, ¬ Named tc func name) : Entry lib tc (.ok none)
  | proposed {call : Call} (h : Proposes lib tc call) : Entry lib tc (.ok (some call))
  | emptied {call : Call} (h : ¬ ∃ call, Proposes lib tc call) : Entry lib tc (.ok (some call))
  | refused (h : RefusedCall lib tc) (message : String) :
      Entry lib tc (.error (.llmResponseFormat message))
  | crashed (h : CrashingCall lib tc) (className text : String) :
      Entry lib tc (.error (.other className text))

theorem parseCall_of_named (lib : Libraries) {tc : Json} {func : Json.Object} {name : String}
    (h : Named tc func name) : ∃ id, parseCall lib tc =
      (parseArguments lib name (rawArguments func)).map fun arguments ↦ some ⟨⟨name, arguments⟩, id⟩ := by
  obtain ⟨call, rfl, hfunc, hname⟩ := h
  refine ⟨if (Json.Object.field call "id").truthy then some (lib.str (Json.Object.field call "id"))
    else none, ?_⟩
  simp only [parseCall, hfunc, hname]
  cases parseArguments lib name (rawArguments func) <;> rfl

theorem parseCall_of_unnamed {tc : Json} (h : ∀ func name, ¬ Named tc func name) :
    parseCall lib tc = .ok none := by
  cases tc with
  | obj call =>
      simp only [parseCall]
      cases hf : Json.Object.get? call "function" with
      | none => rfl
      | some value =>
          cases value with
          | obj func =>
              cases hn : toolName func with
              | none => simp [hn]
              | some name => exact absurd ⟨call, rfl, hf, hn⟩ (h func name)
          | _ => rfl
  | _ => rfl

theorem parseCall_spec (lib : Libraries) (tc : Json) : Entry lib tc (parseCall lib tc) := by
  by_cases hnamed : ∃ func name, Named tc func name
  · obtain ⟨func, name, hn⟩ := hnamed
    obtain ⟨id, hcall⟩ := parseCall_of_named lib hn
    have hargs := parseArguments_spec lib name (rawArguments func)
    rw [hcall]
    generalize hr : parseArguments lib name (rawArguments func) = r at hargs
    cases hargs with
    | supplied h => exact .proposed ⟨func, hn, h⟩
    | emptied hs ho =>
        apply Entry.emptied
        rintro ⟨call, func', hn', hsup⟩
        obtain ⟨rfl, -⟩ := named_unique hn hn'
        rcases hsup with h | ⟨s, h, -⟩
        · exact ho _ h
        · exact hs s h
    | refused h message => exact .refused ⟨func, name, hn, h⟩ message
    | crashed h className text => exact .crashed ⟨func, name, hn, h⟩ className text
  · have hn : ∀ func name, ¬ Named tc func name := fun func name h ↦ hnamed ⟨func, name, h⟩
    rw [parseCall_of_unnamed hn]
    exact .skipped hn

theorem parseCall_of_proposes {tc : Json} {call : Call} (h : Proposes lib tc call) :
    ∃ call', parseCall lib tc = .ok (some call') ∧ Proposes lib tc call' := by
  obtain ⟨func, hn, hs⟩ := h
  obtain ⟨id, hcall⟩ := parseCall_of_named lib hn
  rw [parseArguments_of_supplies hs] at hcall
  exact ⟨_, hcall, func, hn, hs⟩

theorem parseCall_of_refused {tc : Json} (h : RefusedCall lib tc) :
    ∃ message, parseCall lib tc = .error (.llmResponseFormat message) := by
  obtain ⟨func, name, hn, hr⟩ := h
  obtain ⟨id, hcall⟩ := parseCall_of_named lib hn
  obtain ⟨message, hm⟩ := parseArguments_of_refused hr name
  rw [hm] at hcall
  exact ⟨message, hcall⟩

theorem parseCall_of_crashing {tc : Json} (h : CrashingCall lib tc) :
    ∃ className text, parseCall lib tc = .error (.other className text) := by
  obtain ⟨func, name, hn, hc⟩ := h
  obtain ⟨id, hcall⟩ := parseCall_of_named lib hn
  obtain ⟨className, text, hm⟩ := parseArguments_of_crashes hc name
  rw [hm] at hcall
  exact ⟨className, text, hcall⟩

theorem not_crashing_of_refused {tc : Json} (h : RefusedCall lib tc) : ¬ CrashingCall lib tc := by
  intro hc
  obtain ⟨message, hm⟩ := parseCall_of_refused h
  obtain ⟨className, text, hx⟩ := parseCall_of_crashing hc
  rw [hm] at hx
  cases hx

/-! ## The list of tool calls -/

theorem parseCalls_cons_error {tc : Json} {rest : List Json} {e : Exc}
    (h : parseCall lib tc = .error e) : parseCalls lib (tc :: rest) = .error e := by
  simp only [parseCalls, h]
  rfl

theorem parseCalls_cons_ok {tc : Json} {rest : List Json} {call : Option Call}
    (h : parseCall lib tc = .ok call) :
    parseCalls lib (tc :: rest) = (parseCalls lib rest).map (call.toList ++ ·) := by
  simp only [parseCalls, h]
  cases parseCalls lib rest <;> rfl

/-- What becomes of the list. -/
inductive Entries (lib : Libraries) (entries : List Json) : Except Exc (List Call) → Prop
  | read (calls : List Call) (hr : ¬ RefusedFirst lib entries) (hc : ¬ CrashFirst lib entries) :
      Entries lib entries (.ok calls)
  | refused (h : RefusedFirst lib entries) (message : String) :
      Entries lib entries (.error (.llmResponseFormat message))
  | crashed (h : CrashFirst lib entries) (className text : String) :
      Entries lib entries (.error (.other className text))

theorem parseCalls_spec (lib : Libraries) (entries : List Json) : Entries lib entries (parseCalls lib entries) := by
  induction entries with
  | nil => exact .read [] nofun nofun
  | cons tc rest ih =>
      have hentry := parseCall_spec lib tc
      generalize hp : parseCall lib tc = r at hentry
      have read {call : Option Call} (hcall : parseCall lib tc = .ok call) :
          Entries lib (tc :: rest) (parseCalls lib (tc :: rest)) := by
        have hr : ¬ RefusedCall lib tc := by
          intro h
          obtain ⟨message, hm⟩ := parseCall_of_refused h
          rw [hcall] at hm
          cases hm
        have hc : ¬ CrashingCall lib tc := by
          intro h
          obtain ⟨className, text, hx⟩ := parseCall_of_crashing h
          rw [hcall] at hx
          cases hx
        rw [parseCalls_cons_ok hcall]
        generalize parseCalls lib rest = calls at ih
        cases ih with
        | read calls hrest hcrest =>
            apply Entries.read
            · rintro (h | ⟨-, h⟩)
              · exact hr h
              · exact hrest h
            · rintro (h | ⟨-, h⟩)
              · exact hc h
              · exact hcrest h
        | refused h message => exact .refused (.later hc h) message
        | crashed h className text => exact .crashed (.later hr h) className text
      cases hentry with
      | skipped _ => exact read hp
      | proposed _ => exact read hp
      | emptied _ => exact read hp
      | refused h message =>
          rw [parseCalls_cons_error hp]
          exact .refused (.here h) message
      | crashed h className text =>
          rw [parseCalls_cons_error hp]
          exact .crashed (.here h) className text

theorem not_crashFirst_of_refusedFirst {entries : List Json} (h : RefusedFirst lib entries) :
    ¬ CrashFirst lib entries := by
  induction h with
  | here h =>
      rintro (hc | ⟨hr, -⟩)
      · exact not_crashing_of_refused h hc
      · exact hr h
  | later hc _ ih =>
      rintro (h | ⟨-, h⟩)
      · exact hc h
      · exact ih h

theorem parseCalls_of_proposes {entries : List Json} (h : ∀ tc ∈ entries, ∃ call, Proposes lib tc call) :
    ∃ calls, parseCalls lib entries = .ok calls ∧ List.Forall₂ (Proposes lib) entries calls := by
  induction entries with
  | nil => exact ⟨[], rfl, .nil⟩
  | cons tc rest ih =>
      obtain ⟨call, hcall⟩ := h tc List.mem_cons_self
      obtain ⟨call', hparse, hproposes⟩ := parseCall_of_proposes hcall
      obtain ⟨calls, hcalls, hall⟩ := ih fun x hx ↦ h x (List.mem_cons_of_mem tc hx)
      refine ⟨call' :: calls, ?_, .cons hproposes hall⟩
      rw [parseCalls_cons_ok hparse, hcalls]
      rfl

/-- No call comes of the list only if all its entries are skipped. -/
theorem parseCalls_eq_nil {entries : List Json} : parseCalls lib entries = .ok [] ↔
    ∀ tc ∈ entries, ∀ func name, ¬ Named tc func name := by
  induction entries with
  | nil => simp [parseCalls]
  | cons tc rest ih =>
      rw [List.forall_mem_cons, ← ih]
      constructor
      · intro h
        have hentry := parseCall_spec lib tc
        generalize hp : parseCall lib tc = r at hentry
        cases hentry with
        | skipped hs =>
            refine ⟨hs, ?_⟩
            rw [parseCalls_cons_ok hp] at h
            cases hrest : parseCalls lib rest with
            | error e => simp [hrest, Except.map] at h
            | ok calls => simpa [hrest, Except.map] using h
        | proposed _ =>
            rw [parseCalls_cons_ok hp] at h
            cases hrest : parseCalls lib rest <;> simp [hrest, Except.map] at h
        | emptied _ =>
            rw [parseCalls_cons_ok hp] at h
            cases hrest : parseCalls lib rest <;> simp [hrest, Except.map] at h
        | refused _ message => simp [parseCalls_cons_error hp] at h
        | crashed _ className text => simp [parseCalls_cons_error hp] at h
      · rintro ⟨hs, hrest⟩
        rw [parseCalls_cons_ok (parseCall_of_unnamed hs), hrest]
        rfl

/-! ## A rejected generation -/

/-- The object the provider gives as the generation it rejected, itself or as a text. -/
def FailedGeneration (lib : Libraries) (payload func : Json.Object) : Prop :=
  (failedGeneration payload).truthy = true ∧ (failedGeneration payload = .obj func ∨
    ∃ s, failedGeneration payload = .str s ∧ lib.loads s = .ok (.obj func))

/-- A rejected generation and the call it proposes. -/
def FailedProposes (lib : Libraries) (func : Json.Object) (call : Call) : Prop :=
  toolName func = some call.name ∧ Supplies lib (rawArguments func) call.arguments

/-- `json.loads` crashes on the rejected generation, or on the arguments in it. -/
inductive FailedCrash (lib : Libraries) (payload : Json.Object) : Prop
  | generation {s className text : String} (hg : failedGeneration payload = .str s)
      (hs : lib.loads s = .error (.other className text)) : FailedCrash lib payload
  | arguments {func : Json.Object} {name s className text : String}
      (hg : FailedGeneration lib payload func) (hname : toolName func = some name)
      (hraw : rawArguments func = .str s) (hs : lib.loads s = .error (.other className text)) :
      FailedCrash lib payload

theorem failedGeneration_unique {func func' : Json.Object} (h : FailedGeneration lib payload func)
    (h' : FailedGeneration lib payload func') : func' = func := by
  obtain ⟨-, h⟩ := h
  obtain ⟨-, h'⟩ := h'
  rcases h with h | ⟨s, h, hs⟩
  · rcases h' with h' | ⟨s', h', -⟩
    · rw [h] at h'
      cases h'
      rfl
    · rw [h] at h'
      cases h'
  · rcases h' with h' | ⟨s', h', hs'⟩
    · rw [h] at h'
      cases h'
    · rw [h] at h'
      cases h'
      rw [hs] at hs'
      cases hs'
      rfl

/-- What `failed_generation` holds. -/
inductive Failed (lib : Libraries) (payload : Json.Object) : Except Exc (Option Json.Object) → Prop
  | absent (h : ∀ func, ¬ FailedGeneration lib payload func)
      (hc : ∀ s, failedGeneration payload = .str s → ∀ className text,
        lib.loads s ≠ .error (.other className text)) : Failed lib payload (.ok none)
  | func {func : Json.Object} (h : FailedGeneration lib payload func) :
      Failed lib payload (.ok (some func))
  | crashed {s className text : String} (h : failedGeneration payload = .str s)
      (hs : lib.loads s = .error (.other className text)) :
      Failed lib payload (.error (.other className text))

theorem failedFunction_spec (lib : Libraries) (payload : Json.Object) :
    Failed lib payload (failedFunction lib payload) := by
  unfold failedFunction
  dsimp only
  cases hg : failedGeneration payload with
  | str s =>
      by_cases hs : s = ""
      · subst hs
        obtain ⟨msg, hmsg⟩ := lib.loads_blank "" (by decide)
        apply Failed.absent
        · rintro func ⟨htrue, -⟩
          simp [hg, Json.truthy] at htrue
        · intro s hs
          rw [hg] at hs
          cases hs
          simp [hmsg]
      · have htrue : (Json.str s).truthy = true := by simpa [Json.truthy] using hs
        rw [if_pos htrue]
        dsimp only
        have absent {r : Except LoadsError Json} (hl : lib.loads s = r)
            (hr : ∀ func, r ≠ .ok (.obj func)) (hc : ∀ className text, r ≠ .error (.other className text)) :
            Failed lib payload (.ok none) := by
          apply Failed.absent
          · rintro func ⟨-, h | ⟨s', h, hs'⟩⟩
            · rw [hg] at h
              cases h
            · rw [hg] at h
              cases h
              exact hr func (hl ▸ hs')
          · intro s' hs'
            rw [hg] at hs'
            cases hs'
            rw [hl]
            exact hc
        cases hl : lib.loads s with
        | ok value =>
            cases value with
            | obj func => exact .func ⟨hg ▸ htrue, .inr ⟨s, hg, hl⟩⟩
            | _ => exact absent hl (fun _ h ↦ by cases h) fun _ _ h ↦ by cases h
        | error e =>
            cases e with
            | decode msg => exact absent hl (fun _ h ↦ by cases h) fun _ _ h ↦ by cases h
            | other className text => exact .crashed hg hl
  | obj func =>
      by_cases htrue : (Json.obj func).truthy = true
      · rw [if_pos htrue]
        exact .func ⟨hg ▸ htrue, .inl hg⟩
      · rw [if_neg htrue]
        apply Failed.absent
        · rintro func' ⟨h, -⟩
          exact htrue (hg ▸ h)
        · intro s hs
          rw [hg] at hs
          cases hs
  | _ =>
      have hnone : Failed lib payload (.ok none) := by
        apply Failed.absent
        · rintro func ⟨-, h | ⟨s, h, -⟩⟩
          · rw [hg] at h
            cases h
          · rw [hg] at h
            cases h
        · intro s hs
          rw [hg] at hs
          cases hs
      split
      · exact hnone
      · exact hnone

theorem failedArguments_of_supplies {raw : Json} {arguments : Json.Object}
    (h : Supplies lib raw arguments) : failedArguments lib raw = .ok (some arguments) := by
  rcases h with rfl | ⟨s, rfl, ⟨hblank, rfl⟩ | hloads⟩
  · rfl
  · obtain ⟨msg, hmsg⟩ := lib.loads_blank s hblank
    simp [failedArguments, hmsg]
  · simp [failedArguments, hloads]

theorem failedArguments_error {raw : Json} {e : Exc} : failedArguments lib raw = .error e ↔
    ∃ s className text, raw = .str s ∧ lib.loads s = .error (.other className text) ∧
      e = .other className text := by
  cases raw with
  | str s =>
      simp only [failedArguments]
      cases hl : lib.loads s with
      | ok value => cases value <;> simp [hl]
      | error err => cases err <;> simp [hl, eq_comm]
  | _ => simp [failedArguments]

/-- What becomes of a rejected generation. -/
inductive FailedEntry (lib : Libraries) (payload : Json.Object) : Except Exc (Option Call) → Prop
  | none (hc : ¬ FailedCrash lib payload) : FailedEntry lib payload (.ok none)
  | call {func : Json.Object} {call : Call} (hc : ¬ FailedCrash lib payload)
      (hg : FailedGeneration lib payload func) (hname : toolName func = some call.name)
      (hargs : failedArguments lib (rawArguments func) = .ok (some call.arguments)) :
      FailedEntry lib payload (.ok (some call))
  | crashed (h : FailedCrash lib payload) (className text : String) :
      FailedEntry lib payload (.error (.other className text))

theorem failedCall_spec (lib : Libraries) (payload : Json.Object) :
    FailedEntry lib payload (failedCall lib payload) := by
  have hfailed := failedFunction_spec lib payload
  unfold failedCall
  generalize failedFunction lib payload = r at hfailed
  cases hfailed with
  | absent h hc =>
      apply FailedEntry.none
      rintro (⟨hg, hs⟩ | ⟨hg, -, -, -⟩)
      · exact hc _ hg _ _ hs
      · exact h _ hg
  | @func func hg =>
      have hgen {s className text : String} (h : failedGeneration payload = .str s) :
          lib.loads s ≠ .error (.other className text) := by
        intro hs
        obtain ⟨-, h' | ⟨s', h', hs'⟩⟩ := hg
        · rw [h] at h'
          cases h'
        · rw [h] at h'
          cases h'
          rw [hs] at hs'
          cases hs'
      have hcrash (h : FailedCrash lib payload) : ∃ name s className text, toolName func = some name ∧
          rawArguments func = .str s ∧ lib.loads s = .error (.other className text) := by
        cases h with
        | generation h hs => exact absurd hs (hgen h)
        | arguments hg' hname hraw hs =>
            obtain rfl := failedGeneration_unique hg hg'
            exact ⟨_, _, _, _, hname, hraw, hs⟩
      dsimp only [bind, Except.bind]
      cases hname : toolName func with
      | none =>
          apply FailedEntry.none
          intro h
          obtain ⟨name, -, -, -, h, -⟩ := hcrash h
          rw [hname] at h
          cases h
      | some name =>
          cases hargs : failedArguments lib (rawArguments func) with
          | error e =>
              obtain ⟨s, className, text, hraw, hs, rfl⟩ := failedArguments_error.mp hargs
              exact .crashed (.arguments hg hname hraw hs) className text
          | ok arguments =>
              have hc : ¬ FailedCrash lib payload := by
                intro h
                obtain ⟨-, s, className, text, -, hraw, hs⟩ := hcrash h
                have := failedArguments_error.mpr ⟨s, className, text, hraw, hs, rfl⟩
                rw [hargs] at this
                cases this
              cases arguments with
              | none => exact .none hc
              | some arguments => exact .call hc hg hname hargs
  | crashed h hs => exact .crashed (.generation h hs) _ _

/-! ## The response -/

/-- `json.loads` crashes where the code reads it. -/
def Crash (lib : Libraries) (payload : Json.Object) : Prop :=
  CrashFirst lib (proposals payload) ∨
    ((∀ tc ∈ proposals payload, ∀ func name, ¬ Named tc func name) ∧ FailedCrash lib payload)

/-- Where the tool calls of a response come from. -/
inductive Calls (lib : Libraries) (payload : Json.Object) : Except Exc (List Call) → Prop
  | listed {calls : List Call} (hr : ¬ RefusedFirst lib (proposals payload)) (hc : ¬ Crash lib payload)
      (h : parseCalls lib (proposals payload) = .ok calls) (hne : calls ≠ []) :
      Calls lib payload (.ok calls)
  | failed {call : Option Call} (hr : ¬ RefusedFirst lib (proposals payload))
      (hc : ¬ Crash lib payload) (h : parseCalls lib (proposals payload) = .ok [])
      (hf : failedCall lib payload = .ok call) : Calls lib payload (.ok call.toList)
  | refused (h : RefusedFirst lib (proposals payload)) (message : String) :
      Calls lib payload (.error (.llmResponseFormat message))
  | crashed (hr : ¬ RefusedFirst lib (proposals payload)) (h : Crash lib payload)
      (className text : String) : Calls lib payload (.error (.other className text))

theorem toolCalls_spec (lib : Libraries) (payload : Json.Object) :
    Calls lib payload (toolCalls lib payload) := by
  have hentries := parseCalls_spec lib (proposals payload)
  generalize hp : parseCalls lib (proposals payload) = r at hentries
  have hstart : toolCalls lib payload = r.bind fun calls ↦
      if calls.isEmpty then (failedCall lib payload).map (·.toList) else .ok calls := by
    simp only [toolCalls, hp]
    cases r with
    | error e => rfl
    | ok calls =>
        simp only [Except.bind, bind]
        split
        · cases failedCall lib payload <;> rfl
        · rfl
  rw [hstart]
  cases hentries with
  | refused h message => exact .refused h message
  | crashed h className text =>
      exact .crashed (fun hr ↦ not_crashFirst_of_refusedFirst hr h) (.inl h) className text
  | read calls hr hc =>
      cases calls with
      | cons call calls =>
          refine .listed hr ?_ hp nofun
          rintro (h | ⟨h, -⟩)
          · exact hc h
          · rw [parseCalls_eq_nil.mpr h] at hp
            cases hp
      | nil =>
          have hfailed := failedCall_spec lib payload
          have hcrash (h : ¬ FailedCrash lib payload) : ¬ Crash lib payload := by
            rintro (h' | ⟨-, h'⟩)
            · exact hc h'
            · exact h h'
          simp only [Except.bind, List.isEmpty_nil, if_true]
          generalize hf : failedCall lib payload = r at hfailed
          cases hfailed with
          | none hn => exact .failed hr (hcrash hn) hp hf
          | call hn _ _ _ => exact .failed hr (hcrash hn) hp hf
          | crashed h className text =>
              exact .crashed hr (.inr ⟨parseCalls_eq_nil.mp hp, h⟩) className text

/-- The fields pydantic checks have the types it accepts. -/
def Typed (dep : Deployment) (payload : Json.Object) : Prop :=
  (content payload = .null ∨ ∃ s, content payload = .str s) ∧
  ∀ name ∈ ["prompt_tokens", "completion_tokens"],
    usage payload name = .null ∨ ∃ n, dep.validators.int (usage payload name) = .ok n

/-- The cost is no integer that is too large for a float. -/
def Priced (payload : Json.Object) : Prop :=
  ∀ n, usage payload "cost" = .int n → n.natAbs < floatOverflow

theorem nullable_spec {α : Type} (parse : Json → Validated α) (value : Json)
    (hplain : ∀ m, parse value ≠ .invalidDateRange m) :
    ((value = .null ∨ ∃ a, parse value = .ok a) ∧ ∃ o, nullable parse value = .ok o) ∨
      (¬ (value = .null ∨ ∃ a, parse value = .ok a) ∧ ∃ l, nullable parse value = .issues l) := by
  by_cases hnull : value = .null
  · subst hnull
    exact .inl ⟨.inl rfl, none, rfl⟩
  · have heq : nullable parse value = (parse value).map some := by
      cases value with
      | null => exact absurd rfl hnull
      | _ => rfl
    rw [heq]
    cases hv : parse value with
    | ok a => exact .inl ⟨.inr ⟨a, rfl⟩, some a, rfl⟩
    | issues l =>
        refine .inr ⟨?_, l, rfl⟩
        rintro (h | ⟨a, h⟩)
        · exact hnull h
        · cases h
    | invalidDateRange m => exact absurd hv (hplain m)

theorem validateResponse_spec :
    (Typed dep payload ∧ ∃ text prompt completion,
      validateResponse dep payload = .ok ((text, prompt), completion)) ∨
    (¬ Typed dep payload ∧ ∃ list, validateResponse dep payload = .issues list) := by
  have htext := nullable_spec parseStr (content payload) (by
    cases content payload <;> exact fun _ ↦ nofun)
  have htokens (name : String) := nullable_spec (fun v ↦ ofExcept (dep.validators.int v))
    (usage payload name) (by
      cases dep.validators.int (usage payload name) <;> exact fun _ ↦ nofun)
  have htyped : Typed dep payload ↔ (content payload = .null ∨ ∃ s, parseStr (content payload) = .ok s) ∧
      (usage payload "prompt_tokens" = .null ∨
        ∃ n, ofExcept (dep.validators.int (usage payload "prompt_tokens")) = .ok n) ∧
      (usage payload "completion_tokens" = .null ∨
        ∃ n, ofExcept (dep.validators.int (usage payload "completion_tokens")) = .ok n) := by
    simp only [Typed, parseStr_eq_ok, ofExcept_eq_ok, List.forall_mem_cons, List.not_mem_nil,
      false_imp_iff, implies_true, and_true]
  rw [htyped]
  unfold validateResponse
  dsimp only
  rcases htext with ⟨ht, o, ho⟩ | ⟨ht, o, ho⟩ <;>
    rcases htokens "prompt_tokens" with ⟨hp, n, hn⟩ | ⟨hp, n, hn⟩ <;>
    rcases htokens "completion_tokens" with ⟨hc, m, hm⟩ | ⟨hc, m, hm⟩ <;>
    simp [ho, hn, hm, both, under, ht, hp, hc]

theorem costUsd_spec (lib : Libraries) (payload : Json.Object) :
    (Priced payload ∧ ∃ cost, costUsd lib payload = .ok cost) ∨
    (¬ Priced payload ∧ ∃ text, costUsd lib payload = .error (.other "OverflowError" text)) := by
  unfold costUsd Priced
  cases usage payload "cost" with
  | int n =>
      dsimp only
      by_cases hn : floatOverflow ≤ n.natAbs
      · rw [if_pos hn]
        refine .inr ⟨fun h ↦ ?_, _, rfl⟩
        exact absurd (h n rfl) (Nat.not_lt.mpr hn)
      · rw [if_neg hn]
        refine .inl ⟨?_, _, rfl⟩
        intro m hm
        cases hm
        exact Nat.lt_of_not_le hn
  | _ => exact .inl ⟨nofun, _, rfl⟩

theorem normalizeResponse_of_error {e : Exc} (h : toolCalls lib payload = .error e) :
    normalizeResponse dep lib payload = .error e := by
  simp only [normalizeResponse, h]
  rfl

/-- The calls are in the response, unless a field besides them stops it. -/
theorem normalizeResponse_of_calls (dep : Deployment) {calls : List Call}
    (h : toolCalls lib payload = .ok calls) :
    (Typed dep payload ∧ Priced payload ∧
      ∃ r, normalizeResponse dep lib payload = .ok r ∧ r.toolCalls = calls) ∨
    (¬ (Typed dep payload ∧ Priced payload) ∧
      ∃ className text, normalizeResponse dep lib payload = .error (.other className text)) := by
  simp only [normalizeResponse, h]
  rcases costUsd_spec lib payload with ⟨hpriced, cost, hcost⟩ | ⟨hpriced, text, hcost⟩
  · rw [hcost]
    rcases validateResponse_spec with ⟨htyped, _, _, _, hv⟩ | ⟨htyped, list, hv⟩
    · rw [hv]
      exact .inl ⟨htyped, hpriced, _, rfl, rfl⟩
    · rw [hv]
      exact .inr ⟨fun h ↦ htyped h.1, _, _, rfl⟩
  · rw [hcost]
    exact .inr ⟨fun h ↦ hpriced h.2, _, _, rfl⟩

theorem toolCalls_of_normalized {r : Response} (h : normalizeResponse dep lib payload = .ok r) :
    toolCalls lib payload = .ok r.toolCalls := by
  cases ht : toolCalls lib payload with
  | error e =>
      rw [normalizeResponse_of_error ht] at h
      cases h
  | ok calls =>
      rcases normalizeResponse_of_calls dep ht with ⟨-, -, r', hn, hr⟩ | ⟨-, _, _, hn⟩
      · rw [hn] at h
        cases h
        rw [hr]
      · rw [hn] at h
        cases h

/-- The only format error of the normalisation is a refused entry. -/
theorem formatError_iff :
    (∃ message, normalizeResponse dep lib payload = .error (.llmResponseFormat message)) ↔
      RefusedFirst lib (proposals payload) := by
  have hcalls := toolCalls_spec lib payload
  generalize ht : toolCalls lib payload = r at hcalls
  have other (hr : ¬ RefusedFirst lib (proposals payload)) {calls : List Call}
      (h : toolCalls lib payload = .ok calls) :
      (∃ message, normalizeResponse dep lib payload = .error (.llmResponseFormat message)) ↔
        RefusedFirst lib (proposals payload) := by
    rcases normalizeResponse_of_calls dep h with ⟨-, -, r, hn, -⟩ | ⟨-, _, _, hn⟩
    · simp [hn, hr]
    · simp [hn, hr]
  cases hcalls with
  | listed hr _ _ _ => exact other hr ht
  | failed hr _ _ _ => exact other hr ht
  | refused h message => simp [normalizeResponse_of_error ht, h]
  | crashed hr _ className text => simp [normalizeResponse_of_error ht, hr]

/-! ## Calls as the provider proposed them -/

/-- The tool calls of a response are the entries of the message, or else the
rejected generation; an entry that proposes no call raises the format error. -/
structure Faithful (dep : Deployment) (lib : Libraries) (payload : Json.Object) : Prop where
  calls : ∀ r, normalizeResponse dep lib payload = .ok r → r.toolCalls ≠ [] →
    (proposals payload ≠ [] ∧ List.Forall₂ (Proposes lib) (proposals payload) r.toolCalls) ∨
      (proposals payload = [] ∧ ∃ func call, FailedGeneration lib payload func ∧
        r.toolCalls = [call] ∧ FailedProposes lib func call)
  malformed : ((∃ tc ∈ proposals payload, ¬ ∃ call, Proposes lib tc call) ∨
      (proposals payload = [] ∧ ∃ func, FailedGeneration lib payload func ∧
        ¬ ∃ call, FailedProposes lib func call)) →
    ∃ message, normalizeResponse dep lib payload = .error (.llmResponseFormat message)

/-- The calls are those of the provider exactly if every entry proposes one or
the first that is not let pass is refused; and without entries, if the rejected
generation proposes one. -/
theorem calls_faithful_iff (dep : Deployment) (lib : Libraries) (payload : Json.Object) :
    Faithful dep lib payload ↔
      (proposals payload ≠ [] → (∀ tc ∈ proposals payload, ∃ call, Proposes lib tc call) ∨
        RefusedFirst lib (proposals payload)) ∧
      (proposals payload = [] → ∀ func, FailedGeneration lib payload func →
        ∃ call, FailedProposes lib func call) := by
  constructor
  · intro h
    constructor
    · intro _
      by_cases hall : ∀ tc ∈ proposals payload, ∃ call, Proposes lib tc call
      · exact .inl hall
      · push Not at hall
        obtain ⟨tc, htc, hnone⟩ := hall
        exact .inr (formatError_iff.mp (h.malformed (.inl ⟨tc, htc, not_exists.mpr hnone⟩)))
    · intro hnil func hfunc
      by_contra hnone
      have hrefused := formatError_iff.mp (h.malformed (.inr ⟨hnil, func, hfunc, hnone⟩))
      rw [hnil] at hrefused
      cases hrefused
  · rintro ⟨hentries, hfailed⟩
    constructor
    · intro r hr hne
      have hcalls := toolCalls_spec lib payload
      rw [toolCalls_of_normalized hr] at hcalls
      generalize hc : r.toolCalls = calls at hcalls hne
      by_cases hnil : proposals payload = []
      · right
        cases hcalls with
        | listed _ _ hp _ =>
            rw [hnil] at hp
            cases hp
            exact absurd rfl hne
        | @failed call _ _ _ hf =>
            have hentry := failedCall_spec lib payload
            rw [hf] at hentry
            cases hentry with
            | none _ => exact absurd rfl hne
            | @call func call _ hg hname hargs =>
                obtain ⟨call', -, hsupplies⟩ := hfailed hnil _ hg
                rw [failedArguments_of_supplies hsupplies] at hargs
                have heq : call'.arguments = call.arguments := Option.some.inj (Except.ok.inj hargs)
                exact ⟨hnil, func, call, hg, rfl, hname, heq ▸ hsupplies⟩
      · left
        refine ⟨hnil, ?_⟩
        have hr' : ¬ RefusedFirst lib (proposals payload) := by
          intro hrefused
          obtain ⟨message, hm⟩ := formatError_iff.mpr hrefused
          rw [hr] at hm
          cases hm
        obtain ⟨calls', hp, hall⟩ := parseCalls_of_proposes ((hentries hnil).resolve_right hr')
        cases hcalls with
        | listed _ _ hp' _ =>
            rw [hp] at hp'
            cases hp'
            exact hall
        | failed _ _ hp' _ =>
            rw [hp] at hp'
            cases hp'
            exact absurd (List.forall₂_nil_right_iff.mp hall) hnil
    · rintro (⟨tc, htc, hnone⟩ | ⟨hnil, func, hfunc, hnone⟩)
      · rcases hentries (List.ne_nil_of_mem htc) with hall | hrefused
        · exact absurd (hall tc htc) hnone
        · exact formatError_iff.mpr hrefused
      · exact absurd (hfailed hnil func hfunc) hnone

/-- A body with one tool call. -/
def bodyWith (function : Json.Object) : Json.Object :=
  [("choices", .arr [.obj [("message", .obj [("tool_calls",
    .arr [.obj [("function", .obj function)]])])]])]

/-- Arguments that are a list are replaced by the empty object. -/
theorem list_arguments_emptied : ¬ Faithful .sample .sample
    (bodyWith [("name", .str "get_low_stock_items"), ("arguments", .arr [.int 1])]) := by
  intro h
  have hnone : ¬ ∃ call, Proposes .sample (.obj [("function", .obj
      [("name", .str "get_low_stock_items"), ("arguments", .arr [.int 1])])]) call := by
    rintro ⟨call, func, ⟨_, heq, hfunc, -⟩, hsupplies⟩
    cases heq
    cases hfunc
    rcases hsupplies with h | ⟨s, h, -⟩
    · cases h
    · cases h
  obtain ⟨message, hm⟩ := h.malformed (.inl ⟨_, List.mem_singleton.mpr rfl, hnone⟩)
  cases hm

/-! ## Every body is translated -/

/-- Whatever the normalisation raises ends as a malformed response. -/
def Translated (dep : Deployment) (lib : Libraries) (payload : Json.Object) : Prop :=
  ∀ e, normalizeResponse dep lib payload = .error e →
    ∃ message, e = .llmResponseFormat message ∧
      outcomeOfProviderError e = .malformedResponse message

theorem translated_iff (dep : Deployment) (lib : Libraries) (payload : Json.Object) :
    Translated dep lib payload ↔ RefusedFirst lib (proposals payload) ∨
      (¬ Crash lib payload ∧ Typed dep payload ∧ Priced payload) := by
  have hcalls := toolCalls_spec lib payload
  generalize ht : toolCalls lib payload = r at hcalls
  have other (hr : ¬ RefusedFirst lib (proposals payload)) (hc : ¬ Crash lib payload)
      {calls : List Call} (h : toolCalls lib payload = .ok calls) :
      Translated dep lib payload ↔ RefusedFirst lib (proposals payload) ∨
        (¬ Crash lib payload ∧ Typed dep payload ∧ Priced payload) := by
    rcases normalizeResponse_of_calls dep h with ⟨htyped, hpriced, r, hn, -⟩ | ⟨hnot, _, _, hn⟩
    · refine iff_of_true ?_ (.inr ⟨hc, htyped, hpriced⟩)
      intro e he
      rw [hn] at he
      cases he
    · refine iff_of_false ?_ (not_or.mpr ⟨hr, fun h ↦ hnot h.2⟩)
      intro h
      obtain ⟨_, h, -⟩ := h _ hn
      cases h
  cases hcalls with
  | listed hr hc _ _ => exact other hr hc ht
  | failed hr hc _ _ => exact other hr hc ht
  | refused h message =>
      refine iff_of_true ?_ (.inl h)
      intro e he
      rw [normalizeResponse_of_error ht] at he
      cases he
      exact ⟨message, rfl, rfl⟩
  | crashed hr hc className text =>
      refine iff_of_false ?_ (not_or.mpr ⟨hr, fun h ↦ h.1 hc⟩)
      intro h
      obtain ⟨_, h, -⟩ := h _ (normalizeResponse_of_error ht)
      cases h

/-- A content that is a list of parts fails in pydantic. -/
theorem content_parts_escape : ¬ Translated .sample .sample
    [("choices", .arr [.obj [("message", .obj [("content", .arr [])])]])] := by
  intro h
  obtain ⟨message, hm, -⟩ := h _ rfl
  cases hm

end SokoFlow.LLMClient
