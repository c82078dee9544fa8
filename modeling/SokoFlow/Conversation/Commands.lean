import SokoFlow.Conversation.Parsing

/-!
# Commands

What makes a text of several words an intent is a verb and a noun that stand in
it as words of their own, or one of a few phrases.  The intents are tried in a
fixed order, so a command gives way to an earlier intent whose verb and noun
stand in the text around it.
-/

namespace SokoFlow.IntentResolver

open Pattern

/-! ## Words in a text -/

variable {u : Unicode} {s : List Char}

/-- Between `pre` and `post`, `mid` begins and ends at the edge of a word. -/
def StandsAlone (u : Unicode) (pre mid post : List Char) : Prop :=
  pre.getLast?.any (isWord u) ≠ (mid ++ post).head?.any (isWord u) ∧
    (pre ++ mid).getLast?.any (isWord u) ≠ post.head?.any (isWord u)

/-- One of these stands in the text. -/
def Has (u : Unicode) (phrases : List String) (s : List Char) : Prop :=
  ∃ w ∈ phrases, ∃ pre post, s = pre ++ (w.toList ++ post) ∧ StandsAlone u pre w.toList post

/-- One of the first words stands somewhere before one of the second. -/
def Precedes (u : Unicode) (first second : List String) (s : List Char) : Prop :=
  ∃ v ∈ first, ∃ w ∈ second, ∃ pre between post,
    s = pre ++ (v.toList ++ (between ++ (w.toList ++ post))) ∧
    StandsAlone u pre v.toList (between ++ (w.toList ++ post)) ∧
    StandsAlone u (pre ++ v.toList ++ between) w.toList post

theorem spans_word (choices : Pattern) (pre mid post : List Char) :
    (word u choices).Spans pre mid post ↔ choices.Spans pre mid post ∧ StandsAlone u pre mid post := by
  constructor
  · rintro ⟨_, _, rfl, ⟨rfl, hstart⟩, m, _, rfl, h, _, _, rfl, ⟨rfl, hstop⟩, rfl⟩
    simp only [List.nil_append, List.append_nil] at *
    exact ⟨h, hstart, hstop⟩
  · rintro ⟨h, hstart, hstop⟩
    refine ⟨[], mid, rfl, ⟨rfl, hstart⟩, mid, [], by simp, ?_, [], [], rfl, ⟨rfl, ?_⟩, rfl⟩
    · simpa using h
    · simpa using hstop

theorem search_word (phrases : List String) (s : List Char) :
    (word u (oneOf phrases)).search s = true ↔ Has u phrases s := by
  rw [search_iff]
  constructor
  · rintro ⟨pre, mid, post, rfl, h⟩
    obtain ⟨h, halone⟩ := (spans_word _ _ _ _).mp h
    obtain ⟨w, hw, rfl⟩ := (spans_oneOf _ _ _ _).mp h
    exact ⟨w, hw, pre, post, rfl, halone⟩
  · rintro ⟨w, hw, pre, post, rfl, halone⟩
    exact ⟨pre, w.toList, post, rfl, (spans_word _ _ _ _).mpr
      ⟨(spans_oneOf _ _ _ _).mpr ⟨w, hw, rfl⟩, halone⟩⟩

/-- On one line, a verb and a noun match when the one stands before the other. -/
theorem search_wordThenWord (first second : List String) (hs : '\n' ∉ s) :
    (wordThenWord u (oneOf first) (oneOf second)).search s = true ↔ Precedes u first second s := by
  rw [search_iff]
  constructor
  · rintro ⟨pre, mid, post, rfl, m₁, m₂, rfl, h₁, m₃, m₄, rfl, h₂, m₅, m₆, rfl, h₃, rfl⟩
    obtain ⟨h₁, hfirst⟩ := (spans_word _ _ _ _).mp h₁
    obtain ⟨h₃, hsecond⟩ := (spans_word _ _ _ _).mp h₃
    obtain ⟨v, hv, rfl⟩ := (spans_oneOf _ _ _ _).mp h₁
    obtain ⟨w, hw, rfl⟩ := (spans_oneOf _ _ _ _).mp h₃
    refine ⟨v, hv, w, hw, pre, m₃, post, by simp, ?_, ?_⟩
    · simpa using hfirst
    · simpa using hsecond
  · rintro ⟨v, hv, w, hw, pre, between, post, rfl, hfirst, hsecond⟩
    refine ⟨pre, v.toList ++ (between ++ w.toList), post, by simp, v.toList, between ++ w.toList, rfl,
      ?_, between, w.toList, rfl, ?_, w.toList, [], by simp, ?_, rfl⟩
    · refine (spans_word _ _ _ _).mpr ⟨(spans_oneOf _ _ _ _).mpr ⟨v, hv, rfl⟩, ?_⟩
      simpa using hfirst
    · intro c hc
      have hne : c ≠ '\n' := by
        rintro rfl
        exact hs (by simp [hc])
      simpa using hne
    · refine (spans_word _ _ _ _).mpr ⟨(spans_oneOf _ _ _ _).mpr ⟨w, hw, rfl⟩, ?_⟩
      simpa using hsecond

/-- A word of ASCII letters. -/
def Plain (w : String) : Prop :=
  w.toList ≠ [] ∧ w.toList.all (fun c ↦ decide (c.toNat < 128) && c.isAlphanum) = true

instance (w : String) : Decidable (Plain w) := inferInstanceAs (Decidable (_ ∧ _))

theorem isWord_of_plain {w : String} (h : Plain w) : ∀ c ∈ w.toList, isWord u c = true := by
  intro c hc
  have hboth := List.all_eq_true.mp h.2 c hc
  rw [Bool.and_eq_true, decide_eq_true_eq] at hboth
  rw [isWord, u.isAlnum_ascii c hboth.1, hboth.2, Bool.true_or]

theorem isWord_blank : isWord u ' ' = false := by
  have hblank : u.isAlnum ' ' = false := u.isAlnum_ascii ' ' (by decide)
  rw [isWord, hblank]
  decide

theorem head_plain {w : String} (h : Plain w) (post : List Char) :
    (w.toList ++ post).head?.any (isWord u) = true := by
  have hword := isWord_of_plain (u := u) h
  cases hw : w.toList with
  | nil => exact absurd hw h.1
  | cons c cs =>
      rw [hw] at hword
      exact hword c List.mem_cons_self

theorem last_plain {w : String} (h : Plain w) (pre : List Char) :
    (pre ++ w.toList).getLast?.any (isWord u) = true := by
  rw [List.getLast?_append_of_ne_nil _ h.1, List.getLast?_eq_some_getLast h.1]
  exact isWord_of_plain h _ (List.getLast_mem h.1)

/-- Two words with a blank between them are one before the other. -/
theorem precedes_of_phrase {first second : String} (hfirst : Plain first) (hsecond : Plain second)
    (hs : ∀ c ∈ s, Text.isSpace c = true → c = ' ') (h : (phrase u first second).search s = true) :
    Precedes u [first] [second] s := by
  obtain ⟨pre, mid, post, rfl, hspans⟩ := (search_iff _ _).mp h
  obtain ⟨_, m, rfl, ⟨rfl, hstart⟩, v, m₁, rfl, hv, between, m₂, rfl, hbetween, w, m₃, rfl, hw, _,
    _, rfl, ⟨rfl, hstop⟩, rfl⟩ := hspans
  rw [spans_literal] at hv hw
  subst hv hw
  obtain ⟨hne, hspace⟩ := (spans_atLeastOne _ _ _ _).mp hbetween
  have hblank : ∀ c ∈ between, c = ' ' := by
    intro c hc
    exact hs c (by simp [hc]) (hspace c hc)
  have hnext : (between ++ (second.toList ++ post)).head?.any (isWord u) = false := by
    obtain ⟨c, cs, rfl⟩ := List.exists_cons_of_ne_nil hne
    rw [hblank c List.mem_cons_self]
    exact isWord_blank
  have hlast : (pre ++ first.toList ++ between).getLast?.any (isWord u) = false := by
    rw [List.getLast?_append_of_ne_nil _ hne, List.getLast?_eq_some_getLast hne,
      hblank _ (List.getLast_mem hne)]
    exact isWord_blank
  refine ⟨first, List.mem_singleton_self _, second, List.mem_singleton_self _, pre, between, post,
    by simp, ⟨?_, ?_⟩, ?_, ?_⟩
  · simpa using hstart
  · rw [last_plain hfirst, hnext]
    simp
  · rw [hlast, head_plain hsecond]
    simp
  · simpa using hstop

theorem Precedes.mono {first second first' second' : List String} (hfirst : first ⊆ first')
    (hsecond : second ⊆ second') (h : Precedes u first second s) : Precedes u first' second' s := by
  obtain ⟨v, hv, w, hw, h⟩ := h
  exact ⟨v, hfirst hv, w, hsecond hw, h⟩

theorem search_phrase {first second : String} (hfirst : Plain first) (hsecond : Plain second)
    {rest : List Char} (hrest : rest.head?.any (isWord u) = false) :
    (phrase u first second).search (first.toList ++ ' ' :: (second.toList ++ rest)) = true := by
  apply (search_iff _ _).mpr
  refine ⟨[], first.toList ++ ([' '] ++ second.toList), rest, by simp, ?_⟩
  refine ⟨[], _, rfl, ⟨rfl, ?_⟩, first.toList, _, rfl, (spans_literal _ _ _ _).mpr rfl, [' '],
    second.toList, rfl, (spans_atLeastOne _ _ _ _).mpr ⟨by simp, by simp; decide⟩, second.toList, [],
    by simp, (spans_literal _ _ _ _).mpr rfl, [], [], rfl, ⟨rfl, ?_⟩, rfl⟩
  · have hbegin := head_plain (u := u) hfirst (([' '] ++ second.toList) ++ rest)
    rw [← List.append_assoc] at hbegin
    intro heq
    cases heq.trans hbegin
  · have hend := last_plain (u := u) hsecond ([] ++ [] ++ first.toList ++ [' '])
    rw [hend, List.nil_append, hrest]
    simp

/-! ## The intents in a text -/

/-- The text has a verb and a noun, in either order. -/
def Mentions (u : Unicode) (verbs nouns : List String) (s : List Char) : Prop :=
  Precedes u verbs nouns s ∨ Precedes u nouns verbs s

def addVerbs : List String := ["add", "create", "new", "register", "enter", "stock"]

def addNouns : List String := ["product", "item"]

def saleVerbs : List String :=
  ["add", "record", "create", "new", "log", "capture", "sell", "sold"]

def saleNouns : List String := ["sale", "transaction", "payment"]

def reportVerbs : List String :=
  ["generate", "create", "get", "send", "show", "view", "nataka", "nipe"]

/-- A summary is a report only after its verb. -/
def MentionsReport (u : Unicode) (s : List Char) : Prop :=
  Precedes u reportVerbs ["report", "ripoti", "summary"] s ∨
    Precedes u ["report", "ripoti"] reportVerbs s ∨
    Has u ["daily report", "sales report", "summary report"] s

/-- White space stands in the text as single blanks. -/
def Collapsed (s : List Char) : Prop := ∀ c ∈ s, Text.isSpace c = true → c = ' '

theorem Collapsed.notMem_newline (h : Collapsed s) : '\n' ∉ s := by
  intro hmem
  have heq := h '\n' hmem (by decide)
  exact absurd heq (by decide)

theorem search_pair {first second : String} (hfirst : Plain first) (hsecond : Plain second)
    {verbs nouns : List String} (hverb : first ∈ verbs) (hnoun : second ∈ nouns) (hs : Collapsed s)
    (h : (phrase u first second).search s = true) : Precedes u verbs nouns s := by
  apply (precedes_of_phrase hfirst hsecond hs h).mono
  · exact List.cons_subset.mpr ⟨hverb, List.nil_subset verbs⟩
  · exact List.cons_subset.mpr ⟨hnoun, List.nil_subset nouns⟩

/-- The patterns of adding and of selling: the phrase is one of the pairs. -/
theorem matchesAny_pair {first second : String} (hfirst : Plain first) (hsecond : Plain second)
    {verbs nouns : List String} (hverb : first ∈ verbs) (hnoun : second ∈ nouns) {text : String}
    (hs : Collapsed text.toList) :
    matchesAny text [phrase u first second, wordThenWord u (oneOf verbs) (oneOf nouns),
        wordThenWord u (oneOf nouns) (oneOf verbs)] = true ↔
      Mentions u verbs nouns text.toList := by
  simp only [matchesAny, List.any_cons, List.any_nil, Bool.or_eq_true, Bool.or_false,
    search_wordThenWord _ _ hs.notMem_newline]
  constructor
  · rintro (h | h)
    · exact .inl (search_pair hfirst hsecond hverb hnoun hs h)
    · exact h
  · intro h
    exact .inr h

theorem matchesAny_addProduct {text : String} (hs : Collapsed text.toList) :
    matchesAny text (addProductPatterns u) = true ↔ Mentions u addVerbs addNouns text.toList :=
  matchesAny_pair (by decide) (by decide) (by decide) (by decide) hs

theorem matchesAny_recordSale {text : String} (hs : Collapsed text.toList) :
    matchesAny text (recordSalePatterns u) = true ↔ Mentions u saleVerbs saleNouns text.toList :=
  matchesAny_pair (by decide) (by decide) (by decide) (by decide) hs

theorem matchesAny_generateReport {text : String} (hs : Collapsed text.toList) :
    matchesAny text (generateReportPatterns u) = true ↔ MentionsReport u text.toList := by
  have hpatterns : generateReportPatterns u = [phrase u "generate" "report",
      wordThenWord u (oneOf reportVerbs) (oneOf ["report", "ripoti", "summary"]),
      wordThenWord u (oneOf ["report", "ripoti"]) (oneOf reportVerbs),
      word u (oneOf ["daily report", "sales report", "summary report"])] := rfl
  simp only [hpatterns, matchesAny, List.any_cons, List.any_nil, Bool.or_eq_true, Bool.or_false,
    search_wordThenWord _ _ hs.notMem_newline, search_word]
  constructor
  · rintro (h | h)
    · exact .inl (search_pair (by decide) (by decide) (by decide) (by decide) hs h)
    · exact h
  · intro h
    exact .inr h

/-! ## Commands -/

inductive Command
  | addProduct
  | recordSale
  | generateReport
  | checkStock

namespace Command

/-- The two words of a command. -/
def words : Command → String × String
  | addProduct => ("add", "product")
  | recordSale => ("record", "sale")
  | generateReport => ("generate", "report")
  | checkStock => ("check", "stock")

def intent : Command → Intent
  | addProduct => .ADD_PRODUCT
  | recordSale => .RECORD_SALE
  | generateReport => .GENERATE_REPORT
  | checkStock => .CHECK_STOCK

def patterns (u : Unicode) : Command → List Pattern
  | addProduct => addProductPatterns u
  | recordSale => recordSalePatterns u
  | generateReport => generateReportPatterns u
  | checkStock => checkStockPatterns u

/-- The text mentions an intent that is tried before that of the command. -/
def Preempted (u : Unicode) (s : List Char) : Command → Prop
  | addProduct => False
  | recordSale => Mentions u addVerbs addNouns s
  | generateReport => Mentions u addVerbs addNouns s ∨ Mentions u saleVerbs saleNouns s
  | checkStock => (Mentions u addVerbs addNouns s ∨ Mentions u saleVerbs saleNouns s) ∨
      MentionsReport u s

end Command

def normalize (u : Unicode) (text : String) : String := Text.collapse (Text.lower u text)

theorem collapsed_normalize (u : Unicode) (text : String) : Collapsed (normalize u text).toList :=
  fun _ hc hspace ↦ Text.eq_blank_of_mem_collapse hc hspace

/-- An intent whose patterns match is resolved if none that is tried before is mentioned. -/
theorem resolve_eq_iff {c : Command} {text : String} (hne : normalize u text ≠ "")
    (h : matchesAny (normalize u text) (c.patterns u) = true) :
    resolve u text = c.intent ↔ ¬ c.Preempted u (normalize u text).toList := by
  have hs := collapsed_normalize u text
  have hadd := matchesAny_addProduct (u := u) hs
  have hsale := matchesAny_recordSale (u := u) hs
  have hreport := matchesAny_generateReport (u := u) hs
  have hresolve : resolve u text =
      if matchesAny (normalize u text) (addProductPatterns u) then .ADD_PRODUCT
      else if matchesAny (normalize u text) (recordSalePatterns u) then .RECORD_SALE
      else if matchesAny (normalize u text) (generateReportPatterns u) then .GENERATE_REPORT
      else if matchesAny (normalize u text) (checkStockPatterns u) then .CHECK_STOCK
      else .UNKNOWN := if_neg hne
  rw [hresolve]
  cases c with
  | addProduct =>
      have hown : matchesAny (normalize u text) (addProductPatterns u) = true := h
      rw [if_pos hown]
      exact iff_of_true rfl not_false
  | recordSale =>
      have hown : matchesAny (normalize u text) (recordSalePatterns u) = true := h
      unfold Command.Preempted
      rw [← hadd, hown]
      cases matchesAny (normalize u text) (addProductPatterns u) <;> simp [Command.intent]
  | generateReport =>
      have hown : matchesAny (normalize u text) (generateReportPatterns u) = true := h
      unfold Command.Preempted
      rw [← hadd, ← hsale, hown]
      cases matchesAny (normalize u text) (addProductPatterns u) <;>
      cases matchesAny (normalize u text) (recordSalePatterns u) <;> simp [Command.intent]
  | checkStock =>
      have hown : matchesAny (normalize u text) (checkStockPatterns u) = true := h
      unfold Command.Preempted
      rw [← hadd, ← hsale, ← hreport, hown]
      cases matchesAny (normalize u text) (addProductPatterns u) <;>
      cases matchesAny (normalize u text) (recordSalePatterns u) <;>
      cases matchesAny (normalize u text) (generateReportPatterns u) <;> simp [Command.intent]

/-! ## Typing a command -/

/-- What follows does not lengthen the last word. -/
def Apart (u : Unicode) (rest : List Char) : Prop :=
  ∀ x ∈ rest.head?, Text.isSpace x = true ∨ isWord u x = false

theorem apart_cons {x : Char} {rest : List Char} (h : Text.isSpace x = true ∨ isWord u x = false) :
    Apart u (x :: rest) := by
  intro y hy
  cases hy
  exact h

/-- `str.lower` maps ASCII and white space character by character, whatever
follows, and makes no letter out of what is none. -/
def LowersInPlace (u : Unicode) : Prop :=
  ∀ typed rest, (∀ c ∈ typed, c.toNat < 128 ∨ Text.isSpace c = true) →
    ∃ rest', u.lower (typed ++ rest) = typed.map Char.toLower ++ rest' ∧
      (Apart u rest → Apart u rest')

/-- A command in any letter case with white space around and between its words. -/
structure TypedCommand (u : Unicode) (c : Command) where
  before : Text.WhiteSpace
  first : List Char
  first_letters : first.map Char.toLower = c.words.1.toList
  between : Text.WhiteSpace
  between_nonempty : between.val ≠ []
  second : List Char
  second_letters : second.map Char.toLower = c.words.2.toList
  rest : List Char
  rest_apart : Apart u rest

namespace TypedCommand

variable {c : Command}

/-- The command without what follows. -/
def typed (t : TypedCommand u c) : List Char :=
  t.before.val ++ (t.first ++ (t.between.val ++ t.second))

def text (t : TypedCommand u c) : String := String.ofList (t.typed ++ t.rest)

theorem plain_words (c : Command) : Plain c.words.1 ∧ Plain c.words.2 := by
  cases c <;> decide

theorem ascii_of_toLower {x : Char} (h : x.toLower.toNat < 128) : x.toNat < 128 := by
  unfold Char.toLower at h
  split at h
  · rename_i hrange
    have hle : x.toNat ≤ 90 := hrange.2
    omega
  · exact h

theorem ascii_letters {letters : List Char} {w : String} (hw : Plain w)
    (h : letters.map Char.toLower = w.toList) : ∀ x ∈ letters, x.toNat < 128 := by
  intro x hx
  apply ascii_of_toLower
  have hmem : x.toLower ∈ w.toList := by
    rw [← h]
    exact List.mem_map_of_mem hx
  have hboth := List.all_eq_true.mp hw.2 _ hmem
  rw [Bool.and_eq_true, decide_eq_true_eq] at hboth
  exact hboth.1

theorem toLower_space {x : Char} (h : Text.isSpace x = true) : x.toLower = x := by
  unfold Char.toLower
  rw [dif_neg]
  rintro ⟨hlow, hhigh⟩
  have hlow : 65 ≤ x.toNat := hlow
  have hhigh : x.toNat ≤ 90 := hhigh
  simp only [Text.isSpace, Bool.or_eq_true, Bool.and_eq_true, decide_eq_true_eq, beq_iff_eq] at h
  omega

theorem toLower_whiteSpace (spaces : Text.WhiteSpace) : spaces.val.map Char.toLower = spaces.val := by
  rw [List.map_congr_left fun x hx ↦ toLower_space (spaces.property x hx), List.map_id']

theorem typed_inPlace (t : TypedCommand u c) :
    ∀ x ∈ t.typed, x.toNat < 128 ∨ Text.isSpace x = true := by
  obtain ⟨hfirst, hsecond⟩ := plain_words c
  intro x hx
  rcases List.mem_append.mp hx with hx | hx
  · exact .inr (t.before.property x hx)
  · rcases List.mem_append.mp hx with hx | hx
    · exact .inl (ascii_letters hfirst t.first_letters x hx)
    · rcases List.mem_append.mp hx with hx | hx
      · exact .inr (t.between.property x hx)
      · exact .inl (ascii_letters hsecond t.second_letters x hx)

theorem map_toLower_typed (t : TypedCommand u c) : t.typed.map Char.toLower =
    t.before.val ++ (c.words.1.toList ++ (t.between.val ++ c.words.2.toList)) := by
  rw [typed, List.map_append, List.map_append, List.map_append, toLower_whiteSpace,
    toLower_whiteSpace, t.first_letters, t.second_letters]

theorem lower_text (hl : LowersInPlace u) (t : TypedCommand u c) : ∃ rest',
    u.lower t.text.toList = t.before.val ++ (c.words.1.toList ++ (t.between.val ++
      (c.words.2.toList ++ rest'))) ∧ Apart u rest' := by
  obtain ⟨rest', hlower, hapart⟩ := hl t.typed t.rest t.typed_inPlace
  rw [text, String.toList_ofList, hlower, map_toLower_typed]
  exact ⟨rest', by simp, hapart t.rest_apart⟩

theorem splitChars_second {w : String} (hw : Plain w) (hspace : ∀ c ∈ w.toList, Text.isSpace c = false)
    {rest : List Char} (hrest : Apart u rest) :
    ∃ run more, Text.splitChars (w.toList ++ rest) = (w.toList ++ run) :: more ∧
      run.head?.any (isWord u) = false := by
  have hrun : ∀ c ∈ rest.takeWhile (!Text.isSpace ·), Text.isSpace c = false := by
    intro c hc
    simpa using List.mem_takeWhile_imp hc
  have hword : ∀ c ∈ w.toList ++ rest.takeWhile (!Text.isSpace ·), Text.isSpace c = false :=
    List.forall_mem_append.mpr ⟨hspace, hrun⟩
  have hne : w.toList ++ rest.takeWhile (!Text.isSpace ·) ≠ [] :=
    List.append_ne_nil_of_left_ne_nil hw.1 _
  have hhead : (rest.takeWhile (!Text.isSpace ·)).head?.any (isWord u) = false := by
    cases rest with
    | nil => rfl
    | cons x rest =>
        by_cases hx : Text.isSpace x = true
        · rw [List.takeWhile_cons_of_neg (by simp [hx])]
          rfl
        · rw [List.takeWhile_cons_of_pos (by simp [hx])]
          exact (hrest x rfl).resolve_left hx
  have hsplit := List.takeWhile_append_dropWhile (p := (!Text.isSpace ·)) (l := rest)
  cases htail : rest.dropWhile (!Text.isSpace ·) with
  | nil =>
      refine ⟨rest.takeWhile (!Text.isSpace ·), [], ?_, hhead⟩
      rw [htail, List.append_nil] at hsplit
      rw [← Text.splitChars_word hne hword, hsplit]
  | cons c tail =>
      have hc : Text.isSpace c = true := by
        have hnot := List.head_dropWhile_not (!Text.isSpace ·) (l := rest) (by simp [htail])
        simpa [htail] using hnot
      refine ⟨rest.takeWhile (!Text.isSpace ·), Text.splitChars tail, ?_, hhead⟩
      have hcut := Text.splitChars_append_space hword hc tail
      rw [if_neg hne, List.append_assoc, ← htail, hsplit] at hcut
      exact hcut

theorem notSpace_words (c : Command) : (∀ x ∈ c.words.1.toList, Text.isSpace x = false) ∧
    ∀ x ∈ c.words.2.toList, Text.isSpace x = false := by
  have hall : c.words.1.toList.all (!Text.isSpace ·) = true ∧
      c.words.2.toList.all (!Text.isSpace ·) = true := by
    cases c <;> decide
  simpa using hall

theorem normalize_text (hl : LowersInPlace u) (t : TypedCommand u c) : ∃ rest',
    (normalize u t.text).toList = c.words.1.toList ++ ' ' :: (c.words.2.toList ++ rest') ∧
      rest'.head?.any (isWord u) = false := by
  obtain ⟨hfirst, hsecond⟩ := plain_words c
  obtain ⟨hspace, hspace'⟩ := notSpace_words c
  obtain ⟨rest, hlower, hrest⟩ := t.lower_text hl
  obtain ⟨run, more, hsplit, hrun⟩ := splitChars_second hsecond hspace' hrest
  have hwords : Text.splitChars (Text.lower u t.text).toList =
      c.words.1.toList :: (c.words.2.toList ++ run) :: more := by
    obtain ⟨b, bs, hbetween⟩ := List.exists_cons_of_ne_nil t.between_nonempty
    have hspaces := t.between.property
    rw [hbetween] at hlower hspaces
    obtain ⟨hb, hbs⟩ := List.forall_mem_cons.mp hspaces
    rw [Text.lower, String.toList_ofList, hlower, Text.splitChars_spaces t.before.property,
      List.cons_append, Text.splitChars_append_space hspace hb, if_neg hfirst.1,
      Text.splitChars_spaces hbs, hsplit]
  have htext : (normalize u t.text).toList = c.words.1.toList ++ [' '] ++
      [' '].intercalate ((c.words.2.toList ++ run) :: more) := by
    rw [normalize, Text.collapse, String.toList_ofList, hwords, List.intercalate_cons_cons]
  rw [htext]
  cases more with
  | nil =>
      rw [List.intercalate_singleton]
      exact ⟨run, by simp, hrun⟩
  | cons next more =>
      rw [List.intercalate_cons_cons]
      refine ⟨run ++ ' ' :: [' '].intercalate (next :: more), by simp, ?_⟩
      cases run with
      | nil => exact isWord_blank
      | cons x run => exact hrun

/-- A typed command is resolved to its intent exactly when no intent that is
tried before it is mentioned in the whole text. -/
theorem resolve_text_iff (hl : LowersInPlace u) (t : TypedCommand u c) :
    resolve u t.text = c.intent ↔ ¬ c.Preempted u (normalize u t.text).toList := by
  obtain ⟨hfirst, hsecond⟩ := plain_words c
  obtain ⟨rest, hnormal, hrest⟩ := t.normalize_text hl
  apply resolve_eq_iff
  · intro hempty
    rw [hempty] at hnormal
    exact absurd hnormal (by simp)
  · have hphrase := search_phrase hfirst hsecond hrest
    rw [← hnormal] at hphrase
    have hmem : phrase u c.words.1 c.words.2 ∈ c.patterns u := by
      cases c <;> exact List.mem_cons_self
    exact List.any_eq_true.mpr ⟨_, hmem, hphrase⟩

/-! ### In ASCII -/

theorem toLower_of_notAlphanum {x : Char} (h : x.isAlphanum = false) : x.toLower = x := by
  unfold Char.toLower
  rw [dif_neg]
  intro hrange
  have hupper : x.isUpper = true := decide_eq_true hrange
  have hnot : ((x.isUpper || x.isLower) || x.isDigit) = false := h
  rw [hupper] at hnot
  cases hnot

theorem lowersInPlace_ascii : LowersInPlace .ascii := by
  intro typed rest _
  refine ⟨rest.map Char.toLower, List.map_append, ?_⟩
  intro hrest
  cases rest with
  | nil => exact hrest
  | cons y rest =>
      have hy := hrest y rfl
      apply apart_cons
      have hsame : y.toLower = y := by
        rcases hy with hspace | hword
        · exact toLower_space hspace
        · exact toLower_of_notAlphanum (Bool.or_eq_false_iff.mp hword).1
      rw [hsame]
      exact hy

def twoSodas : TypedCommand .ascii .recordSale where
  before := Text.oneBlank
  first := "Record".toList
  first_letters := by decide
  between := ⟨[' ', '\t'], List.all_eq_true.mp (by decide)⟩
  between_nonempty := by decide
  second := "SALE".toList
  second_letters := by decide
  rest := ',' :: " 2 sodas".toList
  rest_apart := apart_cons (by decide)

theorem resolve_twoSodas : resolve .ascii twoSodas.text = .RECORD_SALE := by
  apply (resolve_text_iff lowersInPlace_ascii twoSodas).mpr
  intro hmentions
  have hmatches := (matchesAny_addProduct (collapsed_normalize .ascii twoSodas.text)).mpr hmentions
  exact absurd hmatches (by decide)

/-- A sale of something that is called new. -/
def newProduct : TypedCommand .ascii .recordSale where
  before := Text.noSpace
  first := "record".toList
  first_letters := by decide
  between := Text.oneBlank
  between_nonempty := by decide
  second := "sale".toList
  second_letters := by decide
  rest := ' ' :: "of a new product".toList
  rest_apart := apart_cons (by decide)

theorem newProduct_preempted : newProduct.text = "record sale of a new product" ∧
    (∀ c ∈ [Command.addProduct, .generateReport, .checkStock],
      (phrase .ascii c.words.1 c.words.2).search newProduct.rest = false) ∧
    resolve .ascii newProduct.text = .ADD_PRODUCT ∧ resolve .ascii "record sales" = .UNKNOWN := by
  decide +kernel

end TypedCommand

end SokoFlow.IntentResolver
