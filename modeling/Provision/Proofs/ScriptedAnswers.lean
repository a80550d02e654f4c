/-
  Provision.Proofs.ScriptedAnswers
  ────────────────────────────────
  **A RECORDER ANSWERS BY ITS RULES.**

  The rules of a recorder are kept as a map: of several rules for one word the
  last one is in force, and the map may be gone through in any order.  A
  command fails iff it mentions the word of a rule, with the code of such a
  rule.  Neither the order of rules for different words nor the order of the
  map matters to what fails; to the code of a failure both do where words of
  one command have different codes.

  Main results:

    `lookup_ofRules_failures`   of the rules for one word the last is in force
    `failureOf?_eq_none_iff`    a command fails iff it mentions the word of a rule
    `holds_answer`              the rules stay as they are, whatever is asked
    `account_eq_of_unanimous`   where the codes agree, no order matters to a run
    `answers_by_rules`          what calls one after the other are answered
    `answers_by_order`          where they do not agree, the order decides
-/
import Provision.Host.Recorder
import Provision.Proofs.Account

namespace Provision

/-! ## §1. Calls one after the other. -/

/-- Make the requests one after the other, whatever is answered. -/
def Procedure.askAll : List Request → Procedure Unit
  | [] => .done ()
  | q :: qs => .ask q fun _ => askAll qs

/-- The command of a call to the runner. -/
def Request.command? : Request → Option Command
  | .run c => some c
  | .capture c => some c
  | _ => none

/-- Did the call fail: was its result a failure, or its command unsuccessful? -/
def Exchange.isFailure (x : Exchange) : Bool :=
  match x with
  | ⟨.run _, .error _⟩ => true
  | ⟨.capture _, .ok result⟩ => !result.succeeded
  | ⟨.capture _, .error _⟩ => true
  | _ => false

namespace Recorder

/-! ## §2. Rules. -/

/-- A rule that is given to a recorder. -/
inductive Rule where
  /-- Commands that mention the word fail with the code. -/
  | failOn (word : String) (code : Int)
  /-- Captured runs of the program print the text. -/
  | withOutput (program stdout : String)
  deriving DecidableEq, Repr

namespace Rule

/-- The code that the rule lays down for a word. -/
def code? (word : String) : Rule → Option Int
  | .failOn w code => if w = word then some code else none
  | .withOutput _ _ => none

/-- The text that the rule lays down for a program. -/
def stdout? (program : String) : Rule → Option String
  | .failOn _ _ => none
  | .withOutput p text => if p = program then some text else none

end Rule

/-- The recorder with one more rule. -/
def give (r : Recorder) : Rule → Recorder
  | .failOn word code => r.failOn word code
  | .withOutput program stdout => r.withOutput program stdout

/-- The recorder that was given these rules, one after the other. -/
def ofRules (rules : List Rule) : Recorder := rules.foldl give {}

/-- The code that is in force for a word: the one that was laid down last. -/
def codeOf? (rules : List Rule) (word : String) : Option Int :=
  (rules.filterMap (Rule.code? word)).getLast?

/-- The text that is in force for a program. -/
def stdoutOf? (rules : List Rule) (program : String) : Option String :=
  (rules.filterMap (Rule.stdout? program)).getLast?

/-- The same rules in another order: those for one word, or for one program,
stay in theirs. -/
structure Reordered (rules rules' : List Rule) : Prop where
  codes : ∀ word, rules.filterMap (Rule.code? word) = rules'.filterMap (Rule.code? word)
  outputs : ∀ program,
    rules.filterMap (Rule.stdout? program) = rules'.filterMap (Rule.stdout? program)

/-- A recorder that was given these rules.  Its maps are gone through in any
order. -/
structure Holds (r : Recorder) (rules : List Rule) : Prop where
  failures : r.failures.Perm (ofRules rules).failures
  outputs : r.outputs.Perm (ofRules rules).outputs

/-- A rule in force gives the code to a word of the command. -/
def Lays (rules : List Rule) (c : Command) (code : Int) : Prop :=
  ∃ word, codeOf? rules word = some code ∧ c.mentions word = true

/-- All words of the command that have a code have the same. -/
def Unanimous (rules : List Rule) (c : Command) : Prop :=
  ∀ code code', Lays rules c code → Lays rules c code' → code = code'

/-- What a recorder answers to calls, one after the other. -/
def answers (r : Recorder) (calls : List Request) : Account :=
  (Procedure.askAll calls).account host r

/-- The recorder after these calls. -/
def after (r : Recorder) (calls : List Request) : Recorder :=
  ((Procedure.askAll calls).perform host r).2

/-- A call that is answered by the rules. -/
inductive ByRules (rules : List Rule) : Exchange → Prop
  | ran {c : Command} (h : ∀ code, ¬ Lays rules c code) : ByRules rules ⟨.run c, .ok ()⟩
  | failed {c : Command} {code : Int} (h : Lays rules c code) :
      ByRules rules ⟨.run c, .error (.commandFailed c.line (some code))⟩
  | captured {c : Command} (h : ∀ code, ¬ Lays rules c code) :
      ByRules rules ⟨.capture c, .ok ⟨some 0, (stdoutOf? rules c.program).getD "", "", true⟩⟩
  | unsuccessful {c : Command} {code : Int} (h : Lays rules c code) :
      ByRules rules ⟨.capture c, .ok ⟨some code, "", "", false⟩⟩

/-! ## §3. Rules as a map. -/

section Maps

variable {α : Type}

/-- Assigning gives a key its value and leaves all others as they are. -/
theorem lookup_assign (key : String) (value : α) (xs : List (String × α)) (k : String) :
    (assign key value xs).lookup k = if k = key then some value else xs.lookup k := by
  induction xs with
  | nil =>
      unfold assign
      rw [List.lookup_cons]
      by_cases hk : k = key
      · simp [hk]
      · simp [hk, beq_eq_false_iff_ne.mpr hk]
  | cons x xs ih =>
      obtain ⟨k', v⟩ := x
      unfold assign
      by_cases hkey : k' = key
      · subst hkey
        rw [if_pos rfl, List.lookup_cons, List.lookup_cons]
        by_cases hk : k = k'
        · simp [hk]
        · simp [hk, beq_eq_false_iff_ne.mpr hk]
      · rw [if_neg hkey, List.lookup_cons, List.lookup_cons, ih]
        by_cases hk : k = k'
        · subst hk
          simp [hkey]
        · simp [beq_eq_false_iff_ne.mpr hk]

theorem mem_keys_assign {key : String} {value : α} {xs : List (String × α)} {k : String} :
    k ∈ (assign key value xs).map Prod.fst ↔ k = key ∨ k ∈ xs.map Prod.fst := by
  induction xs with
  | nil => simp [assign]
  | cons x xs ih =>
      unfold assign
      by_cases hkey : x.1 = key
      · rw [if_pos hkey, List.map_cons, List.map_cons, hkey]
        simp
      · rw [if_neg hkey, List.map_cons, List.map_cons, List.mem_cons, List.mem_cons, ih]
        exact or_left_comm

/-- A map keeps one value for a key. -/
theorem nodup_assign (key : String) (value : α) {xs : List (String × α)}
    (h : (xs.map Prod.fst).Nodup) : ((assign key value xs).map Prod.fst).Nodup := by
  induction xs with
  | nil => simp [assign]
  | cons x xs ih =>
      obtain ⟨hnew, hrest⟩ := List.nodup_cons.mp h
      unfold assign
      by_cases hkey : x.1 = key
      · rw [if_pos hkey]
        exact h
      · rw [if_neg hkey]
        refine List.nodup_cons.mpr ⟨fun hmem => ?_, ih hrest⟩
        rcases mem_keys_assign.mp hmem with heq | hmem
        · exact hkey heq
        · exact hnew hmem

/-- With distinct keys an entry is found iff it is there. -/
theorem mem_iff_lookup {xs : List (String × α)} (h : (xs.map Prod.fst).Nodup) {k : String} {v : α} :
    (k, v) ∈ xs ↔ xs.lookup k = some v := by
  induction xs with
  | nil => simp
  | cons x xs ih =>
      obtain ⟨k', v'⟩ := x
      obtain ⟨hnew, hrest⟩ := List.nodup_cons.mp h
      rw [List.mem_cons, List.lookup_cons, ih hrest]
      by_cases hk : k = k'
      · subst hk
        have hnone : xs.lookup k ≠ some v := fun hsome =>
          hnew (List.mem_map.mpr ⟨(k, v), (ih hrest).mpr hsome, rfl⟩)
        simp [hnone, eq_comm]
      · simp [hk, beq_eq_false_iff_ne.mpr hk]

/-- The order of a map does not matter to what is looked up in it. -/
theorem lookup_perm {xs ys : List (String × α)} (h : xs.Perm ys) (hkeys : (ys.map Prod.fst).Nodup)
    (k : String) : xs.lookup k = ys.lookup k := by
  -- With distinct keys a lookup is membership, and that knows no order.
  have hkeys' : (xs.map Prod.fst).Nodup := (h.map Prod.fst).nodup_iff.mpr hkeys
  refine Option.ext fun v => ?_
  rw [← mem_iff_lookup hkeys, ← mem_iff_lookup hkeys', h.mem_iff]

end Maps

/-- The last rule for a word, or what was there before. -/
theorem lookup_foldl_failures (rules : List Rule) (r : Recorder) (word : String) :
    (rules.foldl give r).failures.lookup word
      = (codeOf? rules word).or (r.failures.lookup word) := by
  induction rules generalizing r with
  | nil => rfl
  | cons rule rules ih =>
      rw [List.foldl_cons, ih]
      unfold codeOf?
      cases rule with
      | withOutput program stdout => rfl
      | failOn w code =>
          show Option.or _ ((assign w code r.failures).lookup word) = _
          rw [lookup_assign, List.filterMap_cons]
          by_cases hw : w = word
          · subst hw
            simp [Rule.code?, List.getLast?_cons]
          · simp [Rule.code?, hw, Ne.symm hw]

/-- Of several rules for the output of a program the last one holds. -/
theorem lookup_foldl_outputs (rules : List Rule) (r : Recorder) (program : String) :
    (rules.foldl give r).outputs.lookup program
      = (stdoutOf? rules program).or (r.outputs.lookup program) := by
  induction rules generalizing r with
  | nil => rfl
  | cons rule rules ih =>
      rw [List.foldl_cons, ih]
      unfold stdoutOf?
      cases rule with
      | failOn w code => rfl
      | withOutput p text =>
          show Option.or _ ((assign p text r.outputs).lookup program) = _
          rw [lookup_assign, List.filterMap_cons]
          by_cases hp : p = program
          · subst hp
            simp [Rule.stdout?, List.getLast?_cons]
          · simp [Rule.stdout?, hp, Ne.symm hp]

/-- Each key has one value. -/
structure SingleValued (r : Recorder) : Prop where
  failures : (r.failures.map Prod.fst).Nodup
  outputs : (r.outputs.map Prod.fst).Nodup

theorem singleValued_give {r : Recorder} (h : r.SingleValued) (rule : Rule) :
    (r.give rule).SingleValued := by
  cases rule with
  | failOn word code => exact ⟨nodup_assign word code h.failures, h.outputs⟩
  | withOutput program stdout => exact ⟨h.failures, nodup_assign program stdout h.outputs⟩

section Given

variable (rules : List Rule)

theorem singleValued_ofRules : (ofRules rules).SingleValued :=
  List.foldlRecOn (motive := SingleValued) rules give ⟨List.nodup_nil, List.nodup_nil⟩
    fun _ h rule _ => singleValued_give h rule

/-- **Of the rules for one word the last is in force.** -/
theorem lookup_ofRules_failures (word : String) :
    (ofRules rules).failures.lookup word = codeOf? rules word := by
  unfold ofRules
  rw [lookup_foldl_failures]
  exact Option.or_none

theorem lookup_ofRules_outputs (program : String) :
    (ofRules rules).outputs.lookup program = stdoutOf? rules program := by
  unfold ofRules
  rw [lookup_foldl_outputs]
  exact Option.or_none

/-- A code in force is the code of a rule for the word. -/
theorem mem_of_codeOf? {word : String} {code : Int} (h : codeOf? rules word = some code) :
    Rule.failOn word code ∈ rules := by
  obtain ⟨rule, hrule, hlaid⟩ := List.mem_filterMap.mp (List.mem_of_getLast? h)
  cases rule with
  | withOutput program stdout => cases hlaid
  | failOn w code' =>
      have hif : (if w = word then some code' else none) = some code := hlaid
      obtain ⟨rfl, hcode⟩ := Option.ite_none_right_eq_some.mp hif
      cases hcode
      exact hrule

/-- A word has a code iff some rule is for the word. -/
theorem exists_codeOf?_iff {word : String} :
    (∃ code, codeOf? rules word = some code) ↔ ∃ code, Rule.failOn word code ∈ rules := by
  constructor
  · rintro ⟨code, hcode⟩
    exact ⟨code, mem_of_codeOf? rules hcode⟩
  · rintro ⟨code, hrule⟩
    have hlaid : code ∈ rules.filterMap (Rule.code? word) :=
      List.mem_filterMap.mpr ⟨_, hrule, if_pos rfl⟩
    unfold codeOf?
    rw [← Option.isSome_iff_exists, List.getLast?_isSome]
    exact List.ne_nil_of_mem hlaid

/-- A command has a code iff it mentions the word of a rule. -/
theorem exists_lays_iff {c : Command} :
    (∃ code, Lays rules c code) ↔
      ∃ word code, Rule.failOn word code ∈ rules ∧ c.mentions word = true := by
  constructor
  · rintro ⟨code, word, hcode, hc⟩
    obtain ⟨code', hrule⟩ := (exists_codeOf?_iff rules).mp ⟨code, hcode⟩
    exact ⟨word, code', hrule, hc⟩
  · rintro ⟨word, code, hrule, hc⟩
    obtain ⟨code', hcode⟩ := (exists_codeOf?_iff rules).mpr ⟨code, hrule⟩
    exact ⟨code', word, hcode, hc⟩

/-- The words of a command agree where all rules for them have one code. -/
theorem unanimous_of_rules {c : Command} (code : Int)
    (h : ∀ word code', Rule.failOn word code' ∈ rules → c.mentions word = true → code' = code) :
    Unanimous rules c := by
  have hcode : ∀ code', Lays rules c code' → code' = code := by
    rintro code' ⟨word, hlaid, hc⟩
    exact h word code' (mem_of_codeOf? rules hlaid) hc
  intro code₁ code₂ h₁ h₂
  rw [hcode code₁ h₁, hcode code₂ h₂]

end Given

/-! ## §4. One call. -/

section Call

variable {rules rules' : List Rule} {r r' : Recorder}

/-- A recorder that holds rules fails as they say, word by word. -/
theorem Holds.mem_failures_iff (hr : r.Holds rules) {word : String} {code : Int} :
    (word, code) ∈ r.failures ↔ codeOf? rules word = some code := by
  rw [hr.failures.mem_iff, mem_iff_lookup (singleValued_ofRules rules).failures,
    lookup_ofRules_failures]

theorem Holds.lookup_outputs (hr : r.Holds rules) (program : String) :
    r.outputs.lookup program = stdoutOf? rules program := by
  rw [lookup_perm hr.outputs (singleValued_ofRules rules).outputs, lookup_ofRules_outputs]

/-- A command fails with the code of a word that it mentions. -/
theorem Holds.lays_of_failureOf? (hr : r.Holds rules) {c : Command} {code : Int}
    (h : r.failureOf? c = some code) : Lays rules c code := by
  unfold failureOf? at h
  obtain ⟨⟨word, code'⟩, hfind, hcode⟩ := Option.map_eq_some_iff.mp h
  have hmem := hr.mem_failures_iff.mp (List.mem_of_find?_eq_some hfind)
  have hc : c.mentions word = true :=
    List.find?_some (p := fun rule : String × Int => c.mentions rule.1) hfind
  exact ⟨word, hcode ▸ hmem, hc⟩

/-- **A command fails iff it mentions the word of a rule.** -/
theorem Holds.failureOf?_eq_none_iff (hr : r.Holds rules) {c : Command} :
    r.failureOf? c = none ↔ ∀ code, ¬ Lays rules c code := by
  constructor
  · rintro hnone code ⟨word, hcode, hc⟩
    unfold failureOf? at hnone
    rw [Option.map_eq_none_iff, List.find?_eq_none] at hnone
    exact hnone _ (hr.mem_failures_iff.mpr hcode) hc
  · intro hfree
    cases hfailure : r.failureOf? c with
    | none => rfl
    | some code => exact absurd (hr.lays_of_failureOf? hfailure) (hfree code)

/-- **A call is answered by the rules.** -/
theorem Holds.byRules (hr : r.Holds rules) {q : Request} (hq : q.toRunner = true) :
    ByRules rules ⟨q, (host q r).1⟩ := by
  cases q with
  | run c =>
      show ByRules rules ⟨.run c, r.runResult c⟩
      unfold runResult
      cases hfailure : r.failureOf? c with
      | none => exact .ran (hr.failureOf?_eq_none_iff.mp hfailure)
      | some code => exact .failed (hr.lays_of_failureOf? hfailure)
  | capture c =>
      show ByRules rules ⟨.capture c, .ok (r.captureResult c)⟩
      unfold captureResult
      cases hfailure : r.failureOf? c with
      | none =>
          rw [hr.lookup_outputs]
          exact .captured (hr.failureOf?_eq_none_iff.mp hfailure)
      | some code => exact .unsuccessful (hr.lays_of_failureOf? hfailure)
  | _ => cases hq

/-- A call that is answered by the rules fails iff its command mentions the
word of a rule. -/
theorem ByRules.isFailure_iff {x : Exchange} (h : ByRules rules x) :
    x.isFailure = true ↔ ∃ c, x.request.command? = some c ∧
      ∃ word code, Rule.failOn word code ∈ rules ∧ c.mentions word = true := by
  cases h with
  | @ran c hfree =>
      refine iff_of_false Bool.false_ne_true ?_
      rintro ⟨c', hc, hrule⟩
      cases hc
      obtain ⟨code, hcode⟩ := (exists_lays_iff rules).mpr hrule
      exact hfree code hcode
  | @captured c hfree =>
      refine iff_of_false Bool.false_ne_true ?_
      rintro ⟨c', hc, hrule⟩
      cases hc
      obtain ⟨code, hcode⟩ := (exists_lays_iff rules).mpr hrule
      exact hfree code hcode
  | @failed c code hcode =>
      exact iff_of_true rfl ⟨c, rfl, (exists_lays_iff rules).mp ⟨code, hcode⟩⟩
  | @unsuccessful c code hcode =>
      exact iff_of_true rfl ⟨c, rfl, (exists_lays_iff rules).mp ⟨code, hcode⟩⟩

/-- **The rules stay as they are, whatever is asked.** -/
theorem holds_answer (hr : r.Holds rules) (q : Request) : (host q r).2.Holds rules := by
  cases q <;> exact ⟨hr.failures, hr.outputs⟩

/-- A command is recorded, one that fails too, and nothing else is. -/
theorem commands_host (q : Request) (r : Recorder) :
    (host q r).2.commands = r.commands ++ q.command?.toList := by
  cases q with
  | run c => exact (commands_answer r c).1
  | capture c => exact (commands_answer r c).2
  | _ => exact (List.append_nil _).symm

/-- Rules for different words may change places. -/
theorem reordered_swap {word word' : String} (h : word ≠ word') (code code' : Int)
    (front back : List Rule) :
    Reordered (front ++ .failOn word code :: .failOn word' code' :: back)
      (front ++ .failOn word' code' :: .failOn word code :: back) := by
  refine ⟨fun w => ?_, fun program => ?_⟩
  · simp only [List.filterMap_append, List.filterMap_cons, Rule.code?]
    by_cases hw : word = w
    · have hw' : word' ≠ w := fun hw' => h (hw.trans hw'.symm)
      simp [hw, hw']
    · simp [hw]
  · simp only [List.filterMap_append, List.filterMap_cons, Rule.stdout?]

theorem Reordered.codeOf? (h : Reordered rules rules') (word : String) :
    codeOf? rules word = Recorder.codeOf? rules' word := by
  unfold Recorder.codeOf?
  rw [h.codes]

theorem Reordered.stdoutOf? (h : Reordered rules rules') (program : String) :
    stdoutOf? rules program = Recorder.stdoutOf? rules' program := by
  unfold Recorder.stdoutOf?
  rw [h.outputs]

/-- Reordered rules lay the same codes on a command. -/
theorem Reordered.lays_iff (h : Reordered rules rules') {c : Command} {code : Int} :
    Lays rules c code ↔ Lays rules' c code := by
  unfold Lays
  simp only [h.codeOf?]

/-- Two recorders with the same rules let the same commands fail. -/
theorem Holds.failureOf?_isSome_eq (hrules : Reordered rules rules') (hr : r.Holds rules)
    (hr' : r'.Holds rules') (c : Command) :
    (r.failureOf? c).isSome = (r'.failureOf? c).isSome := by
  have hnone : r.failureOf? c = none ↔ r'.failureOf? c = none := by
    rw [hr.failureOf?_eq_none_iff, hr'.failureOf?_eq_none_iff]
    exact forall_congr' fun code => not_congr hrules.lays_iff
  rw [Bool.eq_iff_iff, Option.isSome_iff_ne_none, Option.isSome_iff_ne_none]
  exact not_congr hnone

/-- Where the codes agree, they let it fail with the same code. -/
theorem Holds.failureOf?_eq (hrules : Reordered rules rules') (hr : r.Holds rules)
    (hr' : r'.Holds rules') {c : Command} (hc : Unanimous rules c) :
    r.failureOf? c = r'.failureOf? c := by
  have hsome := hr.failureOf?_isSome_eq hrules hr' c
  cases hfailure : r.failureOf? c with
  | none =>
      rw [hfailure] at hsome
      exact (Option.isNone_iff_eq_none.mp (by rw [← Option.not_isSome, ← hsome]; rfl)).symm
  | some code =>
      rw [hfailure] at hsome
      obtain ⟨code', hfailure'⟩ := Option.isSome_iff_exists.mp hsome.symm
      rw [hfailure', hc code code' (hr.lays_of_failureOf? hfailure)
        (hrules.lays_iff.mpr (hr'.lays_of_failureOf? hfailure'))]

/-- Where the codes agree, a request gets the same answer. -/
theorem Holds.answer_eq (hrules : Reordered rules rules') (hr : r.Holds rules)
    (hr' : r'.Holds rules') {q : Request} (hq : ∀ c, q.command? = some c → Unanimous rules c) :
    (host q r).1 = (host q r').1 := by
  cases q with
  | run c =>
      show r.runResult c = r'.runResult c
      unfold runResult
      rw [hr.failureOf?_eq hrules hr' (hq c rfl)]
  | capture c =>
      show Except.ok (r.captureResult c) = Except.ok (r'.captureResult c)
      unfold captureResult
      rw [hr.failureOf?_eq hrules hr' (hq c rfl), hr.lookup_outputs, hr'.lookup_outputs,
        hrules.stdoutOf?]
  | _ => rfl

/-- A call fails for both or for none. -/
theorem Holds.isFailure_eq (hrules : Reordered rules rules') (hr : r.Holds rules)
    (hr' : r'.Holds rules') (q : Request) :
    Exchange.isFailure ⟨q, (host q r).1⟩ = Exchange.isFailure ⟨q, (host q r').1⟩ := by
  have hfails : ∀ (r : Recorder) (c : Command),
      Exchange.isFailure ⟨.run c, r.runResult c⟩ = (r.failureOf? c).isSome ∧
        Exchange.isFailure ⟨.capture c, .ok (r.captureResult c)⟩ = (r.failureOf? c).isSome := by
    intro r c
    unfold runResult captureResult
    cases r.failureOf? c <;> exact ⟨rfl, rfl⟩
  cases q with
  | run c =>
      rw [show (host (.run c) r).1 = r.runResult c from rfl,
        show (host (.run c) r').1 = r'.runResult c from rfl, (hfails r c).1, (hfails r' c).1]
      exact hr.failureOf?_isSome_eq hrules hr' c
  | capture c =>
      rw [show (host (.capture c) r).1 = .ok (r.captureResult c) from rfl,
        show (host (.capture c) r').1 = .ok (r'.captureResult c) from rfl, (hfails r c).2,
        (hfails r' c).2]
      exact hr.failureOf?_isSome_eq hrules hr' c
  | _ => rfl

end Call

/-! ## §5. Whole runs. -/

section Runs

variable {rules rules' : List Rule}

/-- **Where the codes agree, no order matters to a run.**  The procedure may
choose its next request by the answers before. -/
theorem account_eq_of_unanimous {α : Type} (hrules : Reordered rules rules') (p : Procedure α)
    {r r' : Recorder} (hr : r.Holds rules) (hr' : r'.Holds rules')
    (hp : ∀ x ∈ p.account host r, ∀ c, x.request.command? = some c → Unanimous rules c) :
    p.account host r = p.account host r' := by
  induction p generalizing r r' with
  | done a => rfl
  | fail e => rfl
  | ask q k ih =>
      -- The answer is the same, so both runs go on with the same procedure.
      have hanswer : (host q r).1 = (host q r').1 :=
        hr.answer_eq hrules hr' (hp _ List.mem_cons_self)
      unfold Procedure.account
      rw [← hanswer]
      congr 1
      exact ih _ (holds_answer hr q) (holds_answer hr' q)
        fun x hx => hp x (List.mem_cons_of_mem _ hx)

theorem answers_cons (r : Recorder) (q : Request) (calls : List Request) :
    r.answers (q :: calls) = ⟨q, (host q r).1⟩ :: (host q r).2.answers calls := rfl

theorem after_cons (r : Recorder) (q : Request) (calls : List Request) :
    r.after (q :: calls) = (host q r).2.after calls := rfl

/-- Each call gets one answer. -/
theorem requests_answers (r : Recorder) (calls : List Request) :
    (r.answers calls).map Exchange.request = calls := by
  induction calls generalizing r with
  | nil => rfl
  | cons q calls ih => rw [answers_cons, List.map_cons, ih]

/-- **The commands so far are recorded in their order.** -/
theorem commands_after (r : Recorder) (calls : List Request) :
    (r.after calls).commands = r.commands ++ calls.filterMap Request.command? := by
  induction calls generalizing r with
  | nil => exact (List.append_nil _).symm
  | cons q calls ih =>
      rw [after_cons, ih, commands_host, List.append_assoc]
      cases hq : q.command? with
      | none => rw [List.filterMap_cons_none hq]; rfl
      | some c => rw [List.filterMap_cons_some hq]; rfl

/-- **Every answer of a recorder follows from its rules.** -/
theorem Holds.byRules_answers {r : Recorder} (hr : r.Holds rules) {calls : List Request}
    (hcalls : ∀ q ∈ calls, q.toRunner = true) : ∀ x ∈ r.answers calls, ByRules rules x := by
  induction calls generalizing r with
  | nil => exact fun x hx => absurd hx List.not_mem_nil
  | cons q calls ih =>
      rw [answers_cons, List.forall_mem_cons]
      exact ⟨hr.byRules (hcalls q List.mem_cons_self),
        ih (holds_answer hr q) fun q' hq' => hcalls q' (List.mem_cons_of_mem _ hq')⟩

/-- Whether a call fails does not depend on the order of the rules. -/
theorem Holds.map_isFailure_eq (hrules : Reordered rules rules') {r r' : Recorder}
    (hr : r.Holds rules) (hr' : r'.Holds rules') (calls : List Request) :
    (r.answers calls).map Exchange.isFailure = (r'.answers calls).map Exchange.isFailure := by
  induction calls generalizing r r' with
  | nil => rfl
  | cons q calls ih =>
      rw [answers_cons, answers_cons, List.map_cons, List.map_cons,
        hr.isFailure_eq hrules hr' q, ih (holds_answer hr q) (holds_answer hr' q)]

/-- **A recorder is a script.**  Two recorders have the same rules, given in
another order, with their maps in any order.  Each call gets one answer, by
the rules; it fails iff its command mentions the word of a rule; every command
is recorded, in the order of the calls; the same calls fail for both, and both
give the same answers where the words of each command agree on the code. -/
theorem answers_by_rules (hrules : Reordered rules rules') {r r' : Recorder}
    (hr : r.Holds rules) (hr' : r'.Holds rules') {calls : List Request}
    (hcalls : ∀ q ∈ calls, q.toRunner = true) :
    (r.answers calls).map Exchange.request = calls ∧
      (∀ x ∈ r.answers calls, ByRules rules x ∧
        (x.isFailure = true ↔ ∃ c, x.request.command? = some c ∧
          ∃ word code, Rule.failOn word code ∈ rules ∧ c.mentions word = true)) ∧
      (r.after calls).commands = r.commands ++ calls.filterMap Request.command? ∧
      (r'.after calls).commands = r'.commands ++ calls.filterMap Request.command? ∧
      (r.answers calls).map Exchange.isFailure = (r'.answers calls).map Exchange.isFailure ∧
      ((∀ c ∈ calls.filterMap Request.command?, Unanimous rules c) →
        r.answers calls = r'.answers calls) := by
  have hby := hr.byRules_answers hcalls
  refine ⟨requests_answers r calls, fun x hx => ⟨hby x hx, (hby x hx).isFailure_iff⟩,
    commands_after r calls, commands_after r' calls, hr.map_isFailure_eq hrules hr' calls,
    fun hagree => account_eq_of_unanimous hrules _ hr hr' fun x hx c hc => ?_⟩
  have hcall : x.request ∈ calls := by
    rw [← requests_answers r calls]
    exact List.mem_map_of_mem hx
  exact hagree c (List.mem_filterMap.mpr ⟨x.request, hcall, hc⟩)

/-- Two words with codes and a program with output, the words in either order. -/
theorem answers_by_rules_brew :
    let rules : List Rule :=
      [.failOn "make" 2, .failOn "wget" 4, .withOutput "brew" "Homebrew 4.1.0\n"]
    let rules' : List Rule :=
      [.failOn "wget" 4, .failOn "make" 2, .withOutput "brew" "Homebrew 4.1.0\n"]
    let calls : List Request :=
      [.run ⟨"sudo", ["make", "install"], none⟩, .capture ⟨"brew", ["--version"], none⟩]
    Reordered rules rules' ∧ (∀ q ∈ calls, q.toRunner = true) ∧
      (∀ c ∈ calls.filterMap Request.command?, Unanimous rules c) ∧
      (ofRules rules).answers calls = (ofRules rules').answers calls ∧
      (ofRules rules).answers calls =
        [⟨.run ⟨"sudo", ["make", "install"], none⟩,
            .error (.commandFailed "sudo make install" (some 2))⟩,
          ⟨.capture ⟨"brew", ["--version"], none⟩,
            .ok ⟨some 0, "Homebrew 4.1.0\n", "", true⟩⟩] := by
  intro rules rules' calls
  have hrules : Reordered rules rules' := reordered_swap (by decide) 2 4 [] _
  have hcalls : ∀ q ∈ calls, q.toRunner = true := by simp [calls, Request.toRunner]
  have hagree : ∀ c ∈ calls.filterMap Request.command?, Unanimous rules c := by
    intro c hc
    -- of the words with a code only `make` stands in these commands
    refine unanimous_of_rules rules 2 fun word code hrule hword => ?_
    simp only [rules, List.mem_cons, Rule.failOn.injEq, reduceCtorEq, List.not_mem_nil,
      or_false] at hrule
    rcases hrule with ⟨-, rfl⟩ | ⟨rfl, -⟩
    · rfl
    · have hnone : ∀ c ∈ calls.filterMap Request.command?, c.mentions "wget" = false := by
        decide
      rw [hnone c hc] at hword
      cases hword
  obtain ⟨-, -, -, -, -, hanswers⟩ :=
    answers_by_rules hrules ⟨.refl _, .refl _⟩ ⟨.refl _, .refl _⟩ hcalls
  exact ⟨hrules, hcalls, hagree, hanswers hagree, rfl⟩

/-- **Where the words of a command do not agree, the order decides.**  Two
rules for different words are given in either order, or the map of one recorder
is gone through in either order: one command fails with another code. -/
theorem answers_by_order :
    let rules : List Rule := [.failOn "make" 2, .failOn "install" 3]
    let rules' : List Rule := [.failOn "install" 3, .failOn "make" 2]
    let c : Command := ⟨"sudo", ["make", "install"], none⟩
    Reordered rules rules' ∧ (ofRules rules').Holds rules ∧
      (ofRules rules).answers [.run c]
        = [⟨.run c, .error (.commandFailed "sudo make install" (some 2))⟩] ∧
      (ofRules rules').answers [.run c]
        = [⟨.run c, .error (.commandFailed "sudo make install" (some 3))⟩] ∧
      (ofRules rules).answers [.run c] ≠ (ofRules rules').answers [.run c] := by
  intro rules rules' c
  refine ⟨reordered_swap (by decide) 2 3 [] [], ⟨.swap _ _ _, .refl _⟩, rfl, rfl, ?_⟩
  intro heq
  have hcodes : ([⟨.run c, .error (.commandFailed "sudo make install" (some 2))⟩] : Account)
      = [⟨.run c, .error (.commandFailed "sudo make install" (some 3))⟩] := heq
  simp at hcodes

end Runs

end Recorder

end Provision
