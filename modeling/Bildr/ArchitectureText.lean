import Bildr.Json
import Bildr.Offsets
import Bildr.PlanContract
import Bildr.SortedSet
import Mathlib.Data.String.Basic
/-!
# ArchitectureText — the JSON in what an agent answers

`parse_json_text` reads the trimmed answer, and when that is no JSON the text from the first opening brace to the last
closing one.  It panics when the last closing brace comes before the first opening one with a text between the two
(`structured_text_extracts_iff`).  `serde_json` and the derived readers are outside the repository.
-/
namespace Bildr
namespace Architecture

open Json (Value insertField)
open Plan (Packet PacketPlan packetUsesGovernor)

inductive OrchestratorError
  | protocol (why : String)
  | validation (why : String)
  | json (why : String)
deriving DecidableEq, Repr

/-! ## Structured responses -/

def parseJsonText {α : Type} (fromStr : String → Except String α) (text : String) :
    Option (Except OrchestratorError α) :=
  match fromStr (Session.trim text) with
  | .ok value => some (.ok value)
  | .error _  =>
    match Offsets.find '{' text.toList with
    | none       => some (.error (.protocol "structured response has no JSON object"))
    | some start =>
      match Offsets.rfind '}' text.toList with
      | none      => some (.error (.protocol "structured response has no closing brace"))
      | some stop =>
        (Offsets.slice text.toList start (stop + 1)).map
          (fun part => (fromStr (String.ofList part)).mapError OrchestratorError.json)

/-! ## The architecture plan -/

structure RunSummary where
  id : String
  baseSha : String

structure RepositoryProfile where
  profileId : String
  instructionSources : List String
  requiredGlobalAuthorities : List String
  forbiddenGeneratedRuntimePaths : List String

abbrev Fields : Type := List (String × Value)

def asObject : Value → Option Fields
  | .obj fields => some fields
  | _           => none

def texts (l : List String) : Value := .arr (l.map Value.str)

def architectTaskOutputFields : List String :=
  ["task_id", "title", "execution_mode", "owner_profile", "priority", "depends_on", "execution_kind",
    "investigation_scope", "owned_paths", "reserved_serial_paths", "objective", "milestones", "non_goals",
    "success_criteria", "required_evidence", "proof_limits", "diff_budget", "risk_flags"]

def rejectUnexpectedArchitectureFields (object : Fields) (allowed : List String) (label : String) :
    Except OrchestratorError Unit :=
  match (object.map Prod.fst).find? (fun key => !allowed.contains key) with
  | some key => .error (.validation (label ++ " supplied controller-owned or unknown field " ++ key))
  | none     =>
    match allowed.find? (fun key => (object.lookup key).isNone) with
    | some key => .error (.validation (label ++ " is missing required architectural field " ++ key))
    | none     => .ok ()

def fieldText (object : Fields) (key : String) : Option String := (object.lookup key).bind Value.asStr

def fieldItems (object : Fields) (key : String) : List Value := ((object.lookup key).bind Value.asArray).getD []

def authorityRefs (profile : RepositoryProfile) (investigation : Bool) : List String :=
  if investigation then []
  else
    let authorities := SortedSet.ofList (profile.instructionSources ++ profile.requiredGlobalAuthorities)
    if authorities.isEmpty then ["controller://run-objective"] else authorities

/-- `"{id}: {title}"` for a milestone that has both. -/
def checklistRow (milestone : Value) : Option String := do
  let id ← (milestone.get "id").bind Value.asStr
  let title ← (milestone.get "title").bind Value.asStr
  return id ++ ": " ++ title

def controllerFacts (run : RunSummary) (defaultTokenBudget : Nat) (task : Fields) : Fields :=
  [("reviewer_profile", Value.str "verifier"), ("state", .str "proposed"), ("dependency_shas", .obj []),
    ("required_positive_tests", .arr []), ("required_negative_tests", .arr []), ("required_metrics", .arr []),
    ("tool_budget", .null), ("token_budget", .num (.pos defaultTokenBudget)),
    ("lease_expires_at", .str "controller-managed"), ("handoff_path", .str "controller://governor-checkpoint")].foldl
    (fun task fact => insertField fact.1 fact.2 task)
    (insertField "base_sha" (.str run.baseSha) (insertField "program_id" (.str run.id)
      (insertField "schema" (.str "harness.orchestration.task.v1") task)))

def canonicalizeArchitectureTask (run : RunSummary) (profile : RepositoryProfile) (defaultTokenBudget : Nat)
    (task : Value) : Except OrchestratorError Value := do
  let task ← okOr (asObject task) (.protocol "architecture task is not a JSON object")
  rejectUnexpectedArchitectureFields task architectTaskOutputFields "architecture task"
  ensure (!(profile.profileId == "general" && (fieldText task "execution_mode" != some "controller" ||
      fieldText task "owner_profile" != some "governor")))
    (.validation
      "general-profile architecture tasks must explicitly use controller execution and governor ownership")
  let task := controllerFacts run defaultTokenBudget task
  let kind ← okOr (fieldText task "execution_kind")
    (.protocol "architecture task is missing its explicit execution kind")
  ensure (task.lookup "investigation_scope").isSome
    (.protocol "architecture task is missing its explicit investigation scope value")
  let task := insertField "authority_refs" (texts (authorityRefs profile (kind == "investigation"))) task
  let forbidden := SortedSet.ofList ((fieldItems task "forbidden_paths").filterMap Value.asStr ++
    profile.forbiddenGeneratedRuntimePaths)
  let task := insertField "forbidden_paths" (texts forbidden) task
  let checklist := (fieldItems task "milestones").filterMap checklistRow
  let task := if checklist.isEmpty then task else insertField "checklist_rows" (texts checklist) task
  return .obj (insertField "stop_conditions" (texts [
    "A genuine external, policy, authority, credential, or approval boundary prevents further progress"]) task)

def highRiskWorkerSessionTokenBudget : Nat := 140000

def controllerTaskTokenBudget (task : Packet) (defaultTokenBudget : Nat) : Nat :=
  if !packetUsesGovernor task && (task.isHighRisk || task.ownerProfile == "worker_escalation") then
    max defaultTokenBudget highRiskWorkerSessionTokenBudget
  else defaultTokenBudget

def settleTask (defaultTokenBudget : Nat) (task : Packet) : Except OrchestratorError Packet := do
  let task := { task with tokenBudget := controllerTaskTokenBudget task defaultTokenBudget }
  (task.validateExecutionContract).mapError (fun e => OrchestratorError.validation e.text)
  return task

section Plan
variable (fromStr : String → Except String Value) (fromValue : Value → Except String PacketPlan) (run : RunSummary)
  (profile : RepositoryProfile) (defaultTokenBudget : Nat)

/-- `parse_architecture_plan` after the text is read. -/
def architecturePlan (value : Value) : Except OrchestratorError PacketPlan := do
  let plan ← okOr (asObject value) (.protocol "architecture response is not a JSON object")
  rejectUnexpectedArchitectureFields plan ["schema", "summary", "tasks"] "architecture plan"
  ensure (fieldText plan "schema" == some "harness.orchestration.plan.v1")
    (.validation "architecture response did not use harness.orchestration.plan.v1")
  let tasks ← okOr ((plan.lookup "tasks").bind Value.asArray)
    (.protocol "architecture response has no controller task array")
  let tasks ← tasks.mapM (canonicalizeArchitectureTask run profile defaultTokenBudget)
  let plan ← (fromValue (.obj (insertField "tasks" (.arr tasks) plan))).mapError OrchestratorError.json
  let tasks ← plan.tasks.mapM (settleTask defaultTokenBudget)
  return { plan with tasks := tasks }

def parseArchitecturePlan (text : String) : Option (Except OrchestratorError PacketPlan) :=
  (parseJsonText fromStr text).map (fun read => do
    let value ← read
    architecturePlan fromValue run profile defaultTokenBudget value)

end Plan

/-! ## What is extracted -/

section Extraction
variable {α : Type} (fromStr : String → Except String α)

def BraceFree (text : List Char) : Prop := '{' ∉ text ∧ '}' ∉ text

/-- The text is read without a panic: as a whole when it is JSON, and else as the object in it. -/
structure Extracts (text : String) : Prop where
  total : parseJsonText fromStr text ≠ none
  whole : ∀ value, fromStr (Session.trim text) = .ok value → parseJsonText fromStr text = some (.ok value)
  object : ∀ before body after value, text.toList = before ++ ('{' :: body ++ ['}']) ++ after → BraceFree before →
    BraceFree after → (∀ other, fromStr (Session.trim text) ≠ .ok other) →
    fromStr (String.ofList ('{' :: body ++ ['}'])) = .ok value → parseJsonText fromStr text = some (.ok value)

/-- The text is JSON, or no text stands between its last closing brace and a first opening one after that. -/
def InOrder (text : String) : Prop :=
  (∃ value, fromStr (Session.trim text) = .ok value) ∨
    ∀ before between after, text.toList = before ++ '}' :: (between ++ '{' :: after) → '{' ∉ before → BraceFree between →
      '}' ∉ after → between = []

variable {fromStr}

theorem last_of_mem {c : Char} {text : List Char} (h : c ∈ text) :
    ∃ before after, text = before ++ c :: after ∧ c ∉ after := by
  obtain ⟨after, before, hsplit, hno⟩ := List.eq_append_cons_of_mem (List.mem_reverse.2 h)
  refine ⟨before.reverse, after.reverse, ?_, fun hmem => hno (List.mem_reverse.1 hmem)⟩
  rw [← List.reverse_reverse text, hsplit, List.reverse_append, List.reverse_cons, List.append_assoc]
  rfl

theorem braces_cases {text : List Char} (hopen : '{' ∈ text) (hclose : '}' ∈ text) :
    (∃ before body after, text = before ++ ('{' :: body ++ ['}']) ++ after ∧ '{' ∉ before ∧ '}' ∉ after) ∨
      ∃ before between after, text = before ++ '}' :: (between ++ '{' :: after) ∧ '{' ∉ before ∧ BraceFree between ∧
        '}' ∉ after := by
  obtain ⟨before, rest, hfirst, hbefore⟩ := List.eq_append_cons_of_mem hopen
  obtain ⟨before', after, hlast, hafter⟩ := last_of_mem hclose
  have heq := hfirst.symm.trans hlast
  rcases List.append_eq_append_iff.1 heq with ⟨part, hpart, hrest⟩ | ⟨part, hpart, hrest⟩
  · cases part with
    | nil => exact absurd (List.cons.inj hrest).1 (by decide)
    | cons c body =>
      obtain ⟨rfl, rfl⟩ := List.cons.inj hrest
      exact .inl ⟨before, body, after, by rw [hfirst]; simp, hbefore, hafter⟩
  · cases part with
    | nil => exact absurd (List.cons.inj hrest).1 (by decide)
    | cons c between =>
      obtain rfl : '}' = c := (List.cons.inj hrest).1
      have hrest : after = between ++ '{' :: rest := (List.cons.inj hrest).2
      rw [hrest] at hlast hafter
      rw [hpart, List.mem_append, List.mem_cons, not_or, not_or] at hbefore
      rw [List.mem_append, List.mem_cons, not_or, not_or] at hafter
      exact .inr ⟨before', between, rest, hlast, hbefore.1, ⟨hbefore.2.2, hafter.1⟩, hafter.2.2⟩

variable {text : String}

theorem parse_whole {value : α} (h : fromStr (Session.trim text) = .ok value) :
    parseJsonText fromStr text = some (.ok value) := by
  unfold parseJsonText
  rw [h]

theorem parse_slice {why : String} (h : fromStr (Session.trim text) = .error why) {start stop : Nat}
    (hstart : Offsets.find '{' text.toList = some start) (hstop : Offsets.rfind '}' text.toList = some stop) :
    parseJsonText fromStr text = (Offsets.slice text.toList start (stop + 1)).map
      (fun part => (fromStr (String.ofList part)).mapError OrchestratorError.json) := by
  unfold parseJsonText
  rw [h, hstart, hstop]

theorem parse_object {why : String} (h : fromStr (Session.trim text) = .error why) {before body after : List Char}
    (htext : text.toList = before ++ ('{' :: body ++ ['}']) ++ after) (hbefore : '{' ∉ before) (hafter : '}' ∉ after) :
    parseJsonText fromStr text =
      some ((fromStr (String.ofList ('{' :: body ++ ['}']))).mapError OrchestratorError.json) := by
  have hopen : text.toList = before ++ '{' :: (body ++ '}' :: after) := by rw [htext]; simp
  have hclose : text.toList = (before ++ '{' :: body) ++ '}' :: after := by rw [htext]; simp
  have hstart : Offsets.find '{' text.toList = some (Offsets.size before) := by
    rw [hopen]
    exact Offsets.find_some hbefore
  have hstop : Offsets.rfind '}' text.toList = some (Offsets.size (before ++ '{' :: body)) := by
    rw [hclose]
    exact Offsets.rfind_some hafter
  have hend : Offsets.size (before ++ '{' :: body) + 1 = Offsets.size before + Offsets.size ('{' :: body ++ ['}']) := by
    rw [Offsets.size_append, Offsets.size_append, Nat.add_assoc]
    rfl
  rw [parse_slice h hstart hstop, hend, htext, List.append_assoc, Offsets.slice_append, Option.map_some]

theorem parse_backwards {why : String} (h : fromStr (Session.trim text) = .error why) {before between after : List Char}
    (htext : text.toList = before ++ '}' :: (between ++ '{' :: after)) (hbefore : '{' ∉ before)
    (hbetween : BraceFree between) (hafter : '}' ∉ after) : parseJsonText fromStr text ≠ none ↔ between = [] := by
  have hopen : text.toList = (before ++ '}' :: between) ++ '{' :: after := by rw [htext]; simp
  have hstart : Offsets.find '{' text.toList = some (Offsets.size (before ++ '}' :: between)) := by
    rw [hopen]
    refine Offsets.find_some (fun hmem => ?_)
    rcases List.mem_append.1 hmem with hmem | hmem
    · exact hbefore hmem
    · rcases List.mem_cons.1 hmem with hmem | hmem
      · exact absurd hmem (by decide)
      · exact hbetween.1 hmem
  have hstop : Offsets.rfind '}' text.toList = some (Offsets.size before) := by
    rw [htext]
    refine Offsets.rfind_some (fun hmem => ?_)
    rcases List.mem_append.1 hmem with hmem | hmem
    · exact hbetween.2 hmem
    · rcases List.mem_cons.1 hmem with hmem | hmem
      · exact absurd hmem (by decide)
      · exact hafter hmem
  rw [parse_slice h hstart hstop]
  have hsize : Offsets.size (before ++ '}' :: between) = Offsets.size before + 1 + Offsets.size between := by
    rw [Offsets.size_append, Offsets.size_cons, Nat.add_assoc]
    rfl
  cases between with
  | nil =>
    refine iff_of_true ?_ rfl
    rw [hopen, ← show Offsets.size (before ++ ['}']) = Offsets.size before + 1 by rw [Offsets.size_append]; rfl,
      Offsets.slice_same]
    exact Option.some_ne_none _
  | cons c between =>
    refine iff_of_false (fun hne => hne ?_) (List.cons_ne_nil c between)
    have hpos := Char.utf8Size_pos c
    rw [Offsets.slice_backwards _ (by rw [hsize, Offsets.size_cons]; omega)]
    rfl

theorem parse_total_iff : parseJsonText fromStr text ≠ none ↔ InOrder fromStr text := by
  cases hwhole : fromStr (Session.trim text) with
  | ok value =>
    refine iff_of_true ?_ (.inl ⟨value, hwhole⟩)
    rw [parse_whole hwhole]
    exact Option.some_ne_none _
  | error why =>
    constructor
    · intro htotal
      refine .inr (fun before between after htext hbefore hbetween hafter => ?_)
      exact (parse_backwards hwhole htext hbefore hbetween hafter).1 htotal
    · rintro (⟨value, hvalue⟩ | horder)
      · rw [hwhole] at hvalue
        cases hvalue
      · by_cases hopen : '{' ∈ text.toList
        · by_cases hclose : '}' ∈ text.toList
          · rcases braces_cases hopen hclose with ⟨before, body, after, htext, hbefore, hafter⟩ |
              ⟨before, between, after, htext, hbefore, hbetween, hafter⟩
            · rw [parse_object hwhole htext hbefore hafter]
              exact Option.some_ne_none _
            · exact (parse_backwards hwhole htext hbefore hbetween hafter).2
                (horder before between after htext hbefore hbetween hafter)
          · obtain ⟨before, after, htext, hbefore⟩ := List.eq_append_cons_of_mem hopen
            unfold parseJsonText
            rw [hwhole, Offsets.rfind_none hclose, htext, Offsets.find_some hbefore]
            exact Option.some_ne_none _
        · unfold parseJsonText
          rw [hwhole, Offsets.find_none hopen]
          exact Option.some_ne_none _

theorem extracts_iff : Extracts fromStr text ↔ InOrder fromStr text := by
  rw [← parse_total_iff]
  refine ⟨Extracts.total, fun htotal => ⟨htotal, fun value => parse_whole, ?_⟩⟩
  intro before body after value htext hbefore hafter hnone hvalue
  cases hwhole : fromStr (Session.trim text) with
  | ok other => exact absurd hwhole (hnone other)
  | error why =>
    rw [parse_object hwhole htext hbefore.1 hafter.2, hvalue]
    rfl

end Extraction

/-- **When an answer is read without a panic**, whatever is to be read of it, and as an architecture plan. -/
theorem structured_text_extracts_iff {α : Type} (fromStr : String → Except String α)
    (fromJson : String → Except String Value) (fromValue : Value → Except String PacketPlan) (run : RunSummary)
    (profile : RepositoryProfile) (defaultTokenBudget : Nat) (text : String) :
    (Extracts fromStr text ↔ InOrder fromStr text) ∧
      (parseArchitecturePlan fromJson fromValue run profile defaultTokenBudget text ≠ none ↔ InOrder fromJson text) := by
  refine ⟨extracts_iff, ?_⟩
  rw [← parse_total_iff]
  unfold parseArchitecturePlan
  rw [Ne, Ne, Option.map_eq_none_iff]

def noJson : String → Except String Value := fun _ => .error "expected value at line 1 column 1"

/-- The closing brace comes first. -/
theorem backward_braces_panic : parseJsonText noJson "\x7d \x7b" = none ∧ ¬ Extracts noJson "\x7d \x7b" := by
  have hpanic : parseJsonText noJson "\x7d \x7b" = none := by decide
  exact ⟨hpanic, fun h => h.total hpanic⟩

end Architecture
end Bildr
