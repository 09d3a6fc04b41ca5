import Bildr.Dfs
import Bildr.Outcome
import Bildr.Plan
import Bildr.Projection
import Mathlib.Data.List.DropRight
/-!
# PlanContract — the checks a plan passes before it is stored

`validatePlan` checks the packets one by one, then the plan as a whole: every dependency is a task of the plan, no two
tasks own patterns that may overlap, and no walk along the dependencies runs into a cycle.  The overlap test compares
the text before the first special character of each pattern.  The model follows `validate_plan` check by check, with
the texts of its errors.
-/
namespace Bildr
namespace Plan

inductive TaskExecutionKind
  | implementation | investigation | verification | review | integration
deriving DecidableEq, Repr

structure InvestigationScope where
  ownedReadPaths : List String
  forbiddenPaths : List String
  timeBudgetMs : Nat
  tokenBudget : Nat
deriving DecidableEq, Repr

structure TaskMilestone where
  id : String
  title : String
  objective : String
  successCriteria : List String
deriving DecidableEq, Repr

structure DiffBudget where
  files : Nat
  lines : Nat
deriving DecidableEq, Repr

/-- A packet with the fields the validation reads beside those the store reads. -/
structure Packet extends TaskPacket where
  schema : String
  executionMode : String
  executionKind : TaskExecutionKind
  investigationScope : Option InvestigationScope
  authorityRefs : List String
  baseSha : String
  ownedPaths : List String
  forbiddenPaths : List String
  reservedSerialPaths : List String
  milestones : List TaskMilestone
  successCriteria : List String
  requiredEvidence : List String
  proofLimits : List String
  diffBudget : DiffBudget
  tokenBudget : Nat
  riskFlags : List String

structure PacketPlan where
  schema : String
  summary : String
  tasks : List Packet

def PacketPlan.stored (plan : PacketPlan) : RunPlan :=
  ⟨plan.schema, plan.summary, plan.tasks.map Packet.toTaskPacket⟩

structure RepositoryProfile where
  profileId : String
  serialPaths : List String

inductive OrchestratorError
  | validation (why : String)
deriving DecidableEq, Repr

def check (b : Bool) (why : String) : Except OrchestratorError Unit := ensure b (.validation why)

/-! ## The execution contract of a packet -/

inductive OperatorControlError
  | invalidField (field reason : String)
deriving DecidableEq, Repr

def OperatorControlError.text : OperatorControlError → String
  | .invalidField field reason => "invalid " ++ field ++ ": " ++ reason

def field (b : Bool) (name reason : String) : Except OperatorControlError Unit := ensure b (.invalidField name reason)

def relativeRepoPath (value name : String) : Except OperatorControlError Unit :=
  field (!(value.isEmpty || decide (160 < value.utf8ByteSize) || value.toList.head? == some '/' ||
    value.toList.head? == some '\\' ||
    (value.toList.splitOn '/').any (fun s => s.isEmpty || s == ['.'] || s == ['.', '.'])))
    name "must be a bounded relative repository path"

def uniqueStrings (values : List String) (name : String) : Except OperatorControlError Unit :=
  field (decide values.Nodup) name "must not contain duplicate entries"

def InvestigationScope.validate (s : InvestigationScope) : Except OperatorControlError Unit := do
  field (!(s.ownedReadPaths.isEmpty || decide (1000 < s.ownedReadPaths.length) ||
      decide (1000 < s.forbiddenPaths.length) || s.timeBudgetMs == 0 || decide (86400000 < s.timeBudgetMs) ||
      s.tokenBudget == 0 || decide (100000000 < s.tokenBudget)))
    "investigation scope" "must have bounded read paths plus time and token budgets within controller ceilings"
  (s.ownedReadPaths ++ s.forbiddenPaths).forM (fun path => relativeRepoPath path "investigation scope path")
  uniqueStrings s.ownedReadPaths "investigation owned read paths"
  uniqueStrings s.forbiddenPaths "investigation forbidden paths"

def Packet.validateInvestigation (p : Packet) (s : InvestigationScope) : Except OperatorControlError Unit := do
  s.validate
  field (p.ownedPaths.isEmpty && p.reservedSerialPaths.isEmpty) "investigation task custody"
    "investigations cannot request mutable path ownership or serial leases"
  field (p.dependsOn.isEmpty && p.dependencyShas.isEmpty) "investigation task dependencies"
    "investigations must bind directly to the pinned run base"
  field p.authorityRefs.isEmpty "investigation task authority refs"
    "investigations use only their explicit read scope and cannot declare global authority refs"

def Packet.validateExecutionContract (p : Packet) : Except OperatorControlError Unit := do
  field (p.schema == "harness.orchestration.task.v1") "task packet schema" "must be harness.orchestration.task.v1"
  field (["controller", "agent", "subagent_required", "manual_operator"].contains p.executionMode)
    "task execution mode" "must be one current closed execution mode"
  match p.executionKind, p.investigationScope with
  | .investigation, some scope => p.validateInvestigation scope
  | .investigation, none =>
    .error (.invalidField "investigation scope" "investigations require a bounded read-only scope")
  | _, some _ =>
    .error (.invalidField "investigation scope" "only investigation tasks may declare an investigation scope")
  | _, none => .ok ()

/-! ## Patterns -/

def validRepoGlob (value : String) : Bool :=
  !((Session.trim value).isEmpty || value.toList.head? == some '/' || value.toList.head? == some '-' ||
    value.toList.any (fun c => c == '\x00' || c == '\n' || c == '\r') ||
    (value.toList.splitOn '/').any (fun s => s == ['.', '.'] || s.isEmpty))

def validateRepoGlob (value : String) : Except OrchestratorError Unit :=
  check (validRepoGlob value) ("unsafe repository custody pattern: " ++ value)

/-- The characters `repo_globs_may_overlap` cuts a pattern at. -/
def special (c : Char) : Bool := ['*', '?', '[', ']', '{', '}'].contains c

def stretch (value : List Char) : List Char := value.takeWhile (fun c => !special c)

def globPrefix (value : List Char) : List Char := (stretch value).rdropWhile (fun c => c == '/')

/-- `left.strip_prefix(right)` gives a suffix that starts with a separator. -/
def below (left right : List Char) : Bool := right.isPrefixOf left && (left.drop right.length).head? == some '/'

def mayOverlap (left right : List Char) : Bool :=
  let l := globPrefix left
  let r := globPrefix right
  l.isEmpty || r.isEmpty || l == r || below l r || below r l

def repoGlobsMayOverlap (left right : String) : Bool := mayOverlap left.toList right.toList

/-! ## A packet -/

def lowercase (s : String) : List Char := s.toList.map Char.toLower

def contains (text pattern : List Char) : Bool := text.tails.any pattern.isPrefixOf

def packetUsesGovernor (p : Packet) : Bool :=
  contains (lowercase p.ownerProfile) "controller".toList || contains (lowercase p.ownerProfile) "governor".toList

def Packet.isHighRisk (p : Packet) : Bool :=
  p.riskFlags.any (fun flag => ["canonical_contract", "generated_contract", "migration", "tenancy", "authentication",
    "authorization", "privacy", "unsafe_native", "hardware", "ota_release", "ci_required_context",
    "serial_path"].contains flag)

def validateMilestones (task : String) : List String → List TaskMilestone → Except OrchestratorError Unit
  | _, [] => .ok ()
  | seen, m :: ms => do
    check (!(seen.contains m.id || (Session.trim m.title).isEmpty || (Session.trim m.objective).isEmpty ||
      m.successCriteria.isEmpty)) ("task " ++ task ++ " has an invalid or duplicate milestone " ++ m.id)
    validateMilestones task (m.id :: seen) ms

def validateReserved (profile : RepositoryProfile) (p : Packet) (reserved : String) : Except OrchestratorError Unit := do
  check (profile.serialPaths.contains reserved) ("task " ++ p.taskId ++ " reserves serial path " ++ reserved ++
    ", which is not an exact profile serial path")
  check (p.ownedPaths.contains reserved) ("task " ++ p.taskId ++ " reserves serial path " ++ reserved ++
    " without owning the same bounded path")

/-- `starts_with(".omx/") || starts_with(".harness-runtime/")`. -/
def runtimeState (authority : String) : Bool :=
  ".omx/".toList.isPrefixOf authority.toList || ".harness-runtime/".toList.isPrefixOf authority.toList

def requireExactSha (value : String) : Except OrchestratorError Unit :=
  check (Improvement.isLowerHex value 40) ("expected an exact lowercase 40-character Git SHA, observed " ++ value)

def validateDependencySha (p : Packet) (q : String × String) : Except OrchestratorError Unit := do
  check (p.dependsOn.contains q.1) ("task " ++ p.taskId ++ " supplies a SHA for non-dependency " ++ q.1)
  requireExactSha q.2

def validatePacket (baseSha : String) (profile : RepositoryProfile) (p : Packet) : Except OrchestratorError Unit := do
  check (p.baseSha == baseSha) ("task " ++ p.taskId ++ " does not use pinned base " ++ baseSha)
  (p.validateExecutionContract).mapError (fun e => OrchestratorError.validation e.text)
  check (!((decide (p.executionKind ≠ .investigation) && p.ownedPaths.isEmpty) || decide (p.milestones.length < 3) ||
      decide (20 < p.milestones.length) || p.successCriteria.isEmpty || p.requiredEvidence.isEmpty ||
      p.proofLimits.isEmpty || p.tokenBudget == 0 || p.diffBudget.files == 0 || p.diffBudget.lines == 0))
    ("task " ++ p.taskId ++
      " lacks required execution custody, 3-20 milestones, criteria, evidence, proof limits, or budgets")
  validateMilestones p.taskId [] p.milestones
  check (!p.forbiddenPaths.any p.ownedPaths.contains) ("task " ++ p.taskId ++ " owns an exactly forbidden path")
  (p.ownedPaths ++ p.forbiddenPaths ++ p.reservedSerialPaths).forM validateRepoGlob
  p.reservedSerialPaths.forM (validateReserved profile p)
  check (!(p.isHighRisk && p.ownerProfile == "worker"))
    ("high-risk task " ++ p.taskId ++ " must use an escalated owner profile")
  p.authorityRefs.forM (fun authority =>
    check (!runtimeState authority) ("task " ++ p.taskId ++ " treats runtime state as authority"))
  p.dependencyShas.forM (validateDependencySha p)

def validatePackets (baseSha : String) (profile : RepositoryProfile) : List String → List Packet →
    Except OrchestratorError Unit
  | _, [] => .ok ()
  | ids, p :: ps => do
    check (!ids.contains p.taskId) ("duplicate task id " ++ p.taskId)
    validatePacket baseSha profile p
    validatePackets baseSha profile (p.taskId :: ids) ps

/-! ## The plan as a whole -/

def lookup (tasks : List Packet) (id : String) : Option Packet := tasks.find? (fun t => t.taskId == id)

def validateDependencies (tasks : List Packet) (task : Packet) : Except OrchestratorError Unit :=
  task.dependsOn.forM (fun dependency => check (lookup tasks dependency).isSome
    ("task " ++ task.taskId ++ " depends on missing task " ++ dependency))

def validateCustodyPair (left right : Packet) : Except OrchestratorError Unit :=
  left.ownedPaths.forM (fun leftPath => right.ownedPaths.forM (fun rightPath =>
    check (!repoGlobsMayOverlap leftPath rightPath) ("task custody overlaps: " ++ left.taskId ++ " owns " ++ leftPath ++
      ", " ++ right.taskId ++ " owns " ++ rightPath)))

def validateCustody : List Packet → Except OrchestratorError Unit
  | [] => .ok ()
  | left :: rest => do
    rest.forM (validateCustodyPair left)
    validateCustody rest

def dependenciesOf (tasks : List Packet) (id : String) : List String := ((lookup tasks id).map (·.dependsOn)).getD []

def cycleError (id : String) : OrchestratorError := .validation ("task graph contains a dependency cycle at " ++ id)

/-- `detect_cycle` from a task, with empty sets; the walk is never inside of more nodes than there are tasks. -/
def detectCycle (tasks : List Packet) (id : String) : Except OrchestratorError Unit :=
  match Dfs.visit (dependenciesOf tasks) (tasks.length + 1) id Dfs.Marks.none with
  | .ok _             => .ok ()
  | .error (.cycle x) => .error (cycleError x)
  | .error .fuel      => .error (.validation "") -- never taken, see `detectCycle_cases`

/-- The checks of `validate_plan` before the walks. -/
def validateTasks (baseSha : String) (profile : RepositoryProfile) (plan : PacketPlan) :
    Except OrchestratorError Unit := do
  check (plan.schema == "harness.orchestration.plan.v1" && !plan.tasks.isEmpty)
    "plan schema must be harness.orchestration.plan.v1 and contain tasks"
  check (!(profile.profileId == "general" && (plan.tasks.length != 1 || !plan.tasks.head?.any packetUsesGovernor)))
    "general runs require exactly one governor-owned root task"
  validatePackets baseSha profile [] plan.tasks
  plan.tasks.forM (validateDependencies plan.tasks)
  validateCustody plan.tasks

def validatePlan (baseSha : String) (profile : RepositoryProfile) (plan : PacketPlan) :
    Except OrchestratorError Unit := do
  validateTasks baseSha profile plan
  plan.tasks.forM (fun task => detectCycle plan.tasks task.taskId)

/-! ## What the checks before the walks establish -/

theorem check_ok {b : Bool} {why : String} (h : check b why = .ok ()) : b = true := by
  unfold check ensure at h
  split at h
  · assumption
  · cases h

structure Checked (tasks : List Packet) : Prop where
  ids : (tasks.map (fun t => t.taskId)).Nodup
  globs : ∀ t ∈ tasks, ∀ g ∈ t.ownedPaths, validRepoGlob g = true
  closed : ∀ t ∈ tasks, ∀ d ∈ t.dependsOn, (lookup tasks d).isSome = true
  custody : tasks.Pairwise (fun left right => ∀ g ∈ left.ownedPaths, ∀ h ∈ right.ownedPaths,
    repoGlobsMayOverlap g h = false)

theorem validatePacket_globs {baseSha : String} {profile : RepositoryProfile} {p : Packet}
    (h : validatePacket baseSha profile p = .ok ()) : ∀ g ∈ p.ownedPaths, validRepoGlob g = true := by
  intro g hg
  obtain ⟨_, -, h⟩ := bind_ok h
  obtain ⟨_, -, h⟩ := bind_ok h
  obtain ⟨_, -, h⟩ := bind_ok h
  obtain ⟨_, -, h⟩ := bind_ok h
  obtain ⟨_, -, h⟩ := bind_ok h
  obtain ⟨_, hglobs, h⟩ := bind_ok h
  exact check_ok (forM_ok hglobs (by simp [hg]))

theorem validatePackets_ok {baseSha : String} {profile : RepositoryProfile} :
    ∀ {ids : List String} {tasks : List Packet}, validatePackets baseSha profile ids tasks = .ok () →
      (tasks.map (fun t => t.taskId)).Nodup ∧ (∀ t ∈ tasks, t.taskId ∉ ids) ∧
      ∀ t ∈ tasks, ∀ g ∈ t.ownedPaths, validRepoGlob g = true
  | ids, [], _ => ⟨List.nodup_nil, by simp, by simp⟩
  | ids, p :: ps, h => by
    obtain ⟨_, hid, h⟩ := bind_ok h
    obtain ⟨_, hp, h⟩ := bind_ok h
    obtain ⟨hn, hout, hg⟩ := validatePackets_ok h
    have hid : p.taskId ∉ ids := by simpa using check_ok hid
    refine ⟨?_, fun t ht => ?_, fun t ht => ?_⟩
    · rw [List.map_cons, List.nodup_cons]
      refine ⟨fun hm => ?_, hn⟩
      obtain ⟨t, ht, he⟩ := List.mem_map.1 hm
      exact hout t ht (he ▸ List.mem_cons_self)
    · rcases List.mem_cons.1 ht with rfl | ht
      · exact hid
      · exact fun hm => hout t ht (List.mem_cons_of_mem _ hm)
    · rcases List.mem_cons.1 ht with rfl | ht
      · exact validatePacket_globs hp
      · exact hg t ht

theorem validateCustody_ok : ∀ {tasks : List Packet}, validateCustody tasks = .ok () →
    tasks.Pairwise (fun left right => ∀ g ∈ left.ownedPaths, ∀ h ∈ right.ownedPaths, repoGlobsMayOverlap g h = false)
  | [], _ => List.Pairwise.nil
  | left :: rest, h => by
    obtain ⟨_, hleft, h⟩ := bind_ok h
    refine List.pairwise_cons.2 ⟨fun right hr g hg k hk => ?_, validateCustody_ok h⟩
    have hpair := forM_ok (forM_ok (forM_ok hleft hr) hg) hk
    simpa using check_ok hpair

theorem validateTasks_ok {baseSha : String} {profile : RepositoryProfile} {plan : PacketPlan}
    (h : validateTasks baseSha profile plan = .ok ()) : Checked plan.tasks := by
  obtain ⟨_, -, h⟩ := bind_ok h
  obtain ⟨_, -, h⟩ := bind_ok h
  obtain ⟨_, hpackets, h⟩ := bind_ok h
  obtain ⟨_, hdeps, h⟩ := bind_ok h
  obtain ⟨hids, -, hglobs⟩ := validatePackets_ok hpackets
  refine ⟨hids, hglobs, fun t ht d hd => ?_, validateCustody_ok h⟩
  exact check_ok (forM_ok (forM_ok hdeps ht) hd)

theorem validatePlan_ok {baseSha : String} {profile : RepositoryProfile} {plan : PacketPlan}
    (h : validatePlan baseSha profile plan = .ok ()) :
    validateTasks baseSha profile plan = .ok () ∧ ∀ t ∈ plan.tasks, detectCycle plan.tasks t.taskId = .ok () := by
  obtain ⟨_, htasks, h⟩ := bind_ok h
  exact ⟨htasks, fun t ht => forM_ok h ht⟩

end Plan
end Bildr
