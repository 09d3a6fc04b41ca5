import Bildr.FailureLedger
import Bildr.Word
/-!
# FailureWire — an occurrence and its wire form

`harness.failure.v1` carries an observed occurrence without its revisions, with the cost interval as a lower bound and
what is above it.  Reading it derives the class and the fingerprint again and compares them.  An occurrence made by
`from_typed` is what its wire form reads back as, and a wire form that is read is the one of what it reads as.
-/
namespace Bildr
namespace Failure

open Word (checkedAdd checkedSub checkedSub_iff)

/-! ## Occurrences -/

inductive TerminalCode
  | policyBlocked | budgetExhausted | infrastructureUnavailable | protocolError | integrationConflict | sourceFailure
  | inconclusive | cancelledSuperseded
deriving DecidableEq, Repr

inductive FailureScope
  | attemptTerminal | runTerminal | typedOutcome
deriving DecidableEq, Repr

inductive Severity
  | unknown | low | medium | high | critical
deriving DecidableEq, Repr

structure CostAttribution where
  scopeId : Option String
  lowerMicrousd : Option UInt64
  upperMicrousd : Option UInt64
deriving DecidableEq, Repr

/-- `FailureOccurrence` with what was observed; the ledger reads the rest. -/
structure TypedOccurrence extends FailureOccurrence where
  repositoryId : String
  sourceId : String
  scope : FailureScope
  terminalCode : Option TerminalCode
  automaticClass : FailureClass
  severity : Severity
  fingerprint : String
  cost : CostAttribution
deriving DecidableEq, Repr

/-! ## Identifiers -/

/-- A byte of an identifier; every byte of a character outside ASCII is another. -/
def safeByte (c : Char) : Bool := c.isAlphanum || ['_', '-', '.', ':'].contains c

def safeToken (value : String) : Bool :=
  !value.isEmpty && decide (value.utf8ByteSize ≤ 128) && value.toList.all safeByte

def safeControllerIdentifier (value : String) : Bool :=
  !value.isEmpty && decide (value.utf8ByteSize ≤ 160) && value.toList.all safeByte

/-- `strip_prefix` of `run:`. -/
def stripRun (value : String) : Option String :=
  match value.toList with
  | 'r' :: 'u' :: 'n' :: ':' :: rest => some (String.ofList rest)
  | _                                => none

def safeFailureCostScope (value : String) : Bool :=
  safeToken value || (stripRun value).any safeControllerIdentifier

/-! ## The cost -/

def CostAttribution.known (scopeId : String) (lower upper : UInt64) : CostAttribution :=
  ⟨some scopeId, some lower, some upper⟩

def CostAttribution.unknown : CostAttribution := ⟨none, none, none⟩

def CostAttribution.valid (c : CostAttribution) : Bool :=
  match c.scopeId, c.lowerMicrousd, c.upperMicrousd with
  | some scope, some lower, some upper => safeFailureCostScope scope && decide (lower ≤ upper)
  | none, none, none                   => true
  | _, _, _                            => false

inductive FailureWireCost
  | unknown
  | known (scopeId : String) (lowerMicrousd additionalMicrousd : UInt64)
deriving DecidableEq, Repr

def CostAttribution.wire (c : CostAttribution) : Except LearningError FailureWireCost :=
  match c.scopeId, c.lowerMicrousd, c.upperMicrousd with
  | none, none, none                   => .ok .unknown
  | some scope, some lower, some upper =>
    if scope.isEmpty then .error .invalidCost
    else do
      let additional ← okOr (checkedSub upper lower) .invalidCost
      return .known scope lower additional
  | _, _, _                            => .error .invalidCost

def FailureWireCost.attribution : FailureWireCost → Except LearningError CostAttribution
  | .unknown                       => .ok .unknown
  | .known scope lower additional  => do
    let upper ← okOr (checkedAdd lower additional) .invalidCost
    return .known scope lower upper

/-! ## Typed occurrences -/

def TerminalCode.failureClass : TerminalCode → FailureClass
  | .policyBlocked             => .policyBlocked
  | .budgetExhausted           => .budgetExhausted
  | .infrastructureUnavailable => .infrastructureUnavailable
  | .protocolError             => .protocolError
  | .integrationConflict       => .integrationConflict
  | .sourceFailure             => .sourceFailure
  | .inconclusive              => .inconclusive
  | .cancelledSuperseded       => .cancelledSuperseded

def scopeCode : FailureScope → String
  | .attemptTerminal => "attempt_terminal"
  | .runTerminal     => "run_terminal"
  | .typedOutcome    => "typed_outcome"

def classCode : FailureClass → String
  | .unknown                   => "unknown"
  | .policyBlocked             => "policy_blocked"
  | .budgetExhausted           => "budget_exhausted"
  | .infrastructureUnavailable => "infrastructure_unavailable"
  | .protocolError             => "protocol_error"
  | .integrationConflict       => "integration_conflict"
  | .sourceFailure             => "source_failure"
  | .inconclusive              => "inconclusive"
  | .cancelledSuperseded       => "cancelled_superseded"

def failureTaxonomyVersion : String := "harness.failure-taxonomy.v1"

/-- The text `fingerprint` digests; every part ends in a NUL. -/
def fingerprintText (repository : String) (scope : FailureScope) (failureClass : FailureClass) : String :=
  failureTaxonomyVersion ++ "\x00" ++ repository ++ "\x00" ++ scopeCode scope ++ "\x00" ++ classCode failureClass ++ "\x00"

structure FailureInput where
  occurrenceId : String
  repositoryId : String
  sourceId : String
  scope : FailureScope
  terminalCode : Option TerminalCode
  severity : Severity
  cost : CostAttribution
deriving DecidableEq, Repr

/-- `terminal_code.map_or(Unknown, class)`. -/
def expectedClass (code : Option TerminalCode) : FailureClass := (code.map TerminalCode.failureClass).getD .unknown

section Digest
-- the hexadecimal SHA-256 of a text
variable (sha256 : String → String)

def fromTyped (i : FailureInput) : Except LearningError TypedOccurrence := do
  ensure (safeToken i.occurrenceId && safeControllerIdentifier i.repositoryId && safeControllerIdentifier i.sourceId)
    (.invalidOccurrence i.occurrenceId)
  ensure i.cost.valid .invalidCost
  return ⟨⟨i.occurrenceId, []⟩, i.repositoryId, i.sourceId, i.scope, i.terminalCode, expectedClass i.terminalCode,
    i.severity, sha256 (fingerprintText i.repositoryId i.scope (expectedClass i.terminalCode)), i.cost⟩

/-! ## The wire form -/

inductive FailureWireSchema
  | v1
deriving DecidableEq, Repr

inductive FailureTaxonomyVersion
  | v1
deriving DecidableEq, Repr

structure FailureWireSource where
  kind : FailureScope
  id : String
deriving DecidableEq, Repr

structure FailureWireOccurrence where
  schema : FailureWireSchema
  id : String
  repositoryId : String
  source : FailureWireSource
  terminalCode : Option TerminalCode
  automaticClass : FailureClass
  severity : Severity
  taxonomyVersion : FailureTaxonomyVersion
  fingerprintSha256 : String
  cost : FailureWireCost
deriving DecidableEq, Repr

/-- `FailureWireOccurrence::from`, which panics on a cost that has no wire form. -/
def TypedOccurrence.wire (o : TypedOccurrence) : Option FailureWireOccurrence :=
  match o.cost.wire with
  | .error _ => none
  | .ok cost => some ⟨.v1, o.occurrenceId, o.repositoryId, ⟨o.scope, o.sourceId⟩, o.terminalCode, o.automaticClass,
      o.severity, .v1, o.fingerprint, cost⟩

def FailureWireOccurrence.occurrence (w : FailureWireOccurrence) : Except LearningError TypedOccurrence := do
  ensure (w.automaticClass == expectedClass w.terminalCode) (.invalidWire "terminal_code/class pairing")
  let cost ← w.cost.attribution
  let o ← fromTyped sha256 ⟨w.id, w.repositoryId, w.source.id, w.source.kind, w.terminalCode, w.severity, cost⟩
  ensure (o.fingerprint == w.fingerprintSha256) (.invalidWire "fingerprint")
  return o

end Digest

/-! ## The interval, both ways -/

theorem safeToken_some {value : String} (h : safeToken value = true) : value.isEmpty = false := by
  unfold safeToken at h
  simp only [Bool.and_eq_true, Bool.not_eq_true'] at h
  exact h.1.1

theorem safeFailureCostScope_some {value : String} (h : safeFailureCostScope value = true) : value.isEmpty = false := by
  unfold safeFailureCostScope at h
  rw [Bool.or_eq_true] at h
  rcases h with h | h
  · exact safeToken_some h
  · cases hempty : value.isEmpty with
    | false => rfl
    | true =>
      have hnil : value = "" := String.isEmpty_iff.1 hempty
      rw [hnil] at h
      cases h

theorem wire_of_valid {c : CostAttribution} (h : c.valid = true) : ∃ w, c.wire = .ok w ∧ w.attribution = .ok c := by
  obtain ⟨scope, lower, upper⟩ := c
  unfold CostAttribution.valid at h
  cases scope with
  | none =>
    cases lower with
    | some l => cases h
    | none =>
      cases upper with
      | some u => cases h
      | none => exact ⟨.unknown, rfl, rfl⟩
  | some scope =>
    cases lower with
    | none => cases upper <;> cases h
    | some l =>
      cases upper with
      | none => cases h
      | some u =>
        rw [Bool.and_eq_true, decide_eq_true_eq] at h
        have hsub : checkedSub u l = some (u - l) := if_pos h.2
        refine ⟨.known scope l (u - l), ?_, ?_⟩
        · unfold CostAttribution.wire
          simp only [safeFailureCostScope_some h.1, hsub]
          rfl
        · unfold FailureWireCost.attribution
          simp only [checkedSub_iff.1 hsub]
          rfl

theorem wire_of_attribution {w : FailureWireCost} {c : CostAttribution} (h : w.attribution = .ok c)
    (hvalid : c.valid = true) : c.wire = .ok w := by
  cases w with
  | unknown =>
    cases h
    rfl
  | known scope lower additional =>
    unfold FailureWireCost.attribution at h
    obtain ⟨upper, hadd, h⟩ := bind_ok h
    cases h
    have hsub := checkedSub_iff.2 (okOr_ok hadd)
    unfold CostAttribution.valid CostAttribution.known at hvalid
    simp only [Bool.and_eq_true] at hvalid
    unfold CostAttribution.wire CostAttribution.known
    simp only [safeFailureCostScope_some hvalid.1, hsub]
    rfl

/-! ## The occurrence, both ways -/

section RoundTrip
variable {sha256 : String → String}

theorem fromTyped_ok {i : FailureInput} {o : TypedOccurrence} (h : fromTyped sha256 i = .ok o) :
    i.cost.valid = true ∧ o = ⟨⟨i.occurrenceId, []⟩, i.repositoryId, i.sourceId, i.scope, i.terminalCode,
      expectedClass i.terminalCode, i.severity,
      sha256 (fingerprintText i.repositoryId i.scope (expectedClass i.terminalCode)), i.cost⟩ := by
  unfold fromTyped at h
  obtain ⟨u, -, h⟩ := bind_ok h
  obtain ⟨u, hcost, h⟩ := bind_ok h
  cases h
  exact ⟨ensure_ok hcost, rfl⟩

theorem wire_reads {i : FailureInput} {o : TypedOccurrence} (h : fromTyped sha256 i = .ok o) :
    ∃ w, o.wire = some w ∧ w.occurrence sha256 = .ok o := by
  obtain ⟨hcost, ho⟩ := fromTyped_ok h
  obtain ⟨cost, hwire, hback⟩ := wire_of_valid hcost
  refine ⟨⟨.v1, i.occurrenceId, i.repositoryId, ⟨i.scope, i.sourceId⟩, i.terminalCode, expectedClass i.terminalCode,
    i.severity, .v1, sha256 (fingerprintText i.repositoryId i.scope (expectedClass i.terminalCode)), cost⟩, ?_, ?_⟩
  · unfold TypedOccurrence.wire
    rw [ho]
    simp only [hwire]
  · unfold FailureWireOccurrence.occurrence
    simp only [beq_self_eq_true, ensure_true, ok_bind, hback, h]
    rw [ho]
    simp

theorem reads_wire {w : FailureWireOccurrence} {o : TypedOccurrence} (h : w.occurrence sha256 = .ok o) :
    o.wire = some w := by
  unfold FailureWireOccurrence.occurrence at h
  obtain ⟨u, hclass, h⟩ := bind_ok h
  obtain ⟨cost, hcost, h⟩ := bind_ok h
  obtain ⟨p, htyped, h⟩ := bind_ok h
  obtain ⟨u, hfingerprint, h⟩ := bind_ok h
  cases h
  have hclass := beq_iff_eq.1 (ensure_ok hclass)
  have hfingerprint := beq_iff_eq.1 (ensure_ok hfingerprint)
  obtain ⟨hvalid, ho⟩ := fromTyped_ok htyped
  have hwire := wire_of_attribution hcost hvalid
  obtain ⟨schema, id, repository, source, code, automatic, severity, taxonomy, fingerprint, wireCost⟩ := w
  unfold TypedOccurrence.wire
  rw [ho] at hfingerprint ⊢
  simp only [hwire]
  simp only at hclass hfingerprint
  rw [← hclass, ← hfingerprint, ← hclass]

/-- **An occurrence made by `from_typed` has a wire form, which reads back as it; a wire form that is read is the one
of the occurrence it reads as.** -/
theorem failure_wire (sha256 : String → String) :
    (∀ i o, fromTyped sha256 i = .ok o → ∃ w, o.wire = some w ∧ w.occurrence sha256 = .ok o) ∧
    ∀ w o, FailureWireOccurrence.occurrence sha256 w = .ok o → o.wire = some w :=
  ⟨fun _ _ h => wire_reads h, fun _ _ h => reads_wire h⟩

/-- An attempt that ended with its budget, with what it cost. -/
def exhaustedInput : FailureInput :=
  ⟨"occurrence-1", "repository-1", "attempt-1", .attemptTerminal, some .budgetExhausted, .high, .known "run:run-1" 1200 4500⟩

def exhaustedFingerprint : String := "7f9aa2b7144ce8d3a9ae89ff70cc0f69536764b66a3e516222d832ce398be736"

def exhaustedSha256 (text : String) : String :=
  if text = fingerprintText "repository-1" .attemptTerminal .budgetExhausted then exhaustedFingerprint else ""

def exhausted : TypedOccurrence :=
  ⟨⟨"occurrence-1", []⟩, "repository-1", "attempt-1", .attemptTerminal, some .budgetExhausted, .budgetExhausted, .high,
    exhaustedFingerprint, .known "run:run-1" 1200 4500⟩

def exhaustedWire : FailureWireOccurrence :=
  ⟨.v1, "occurrence-1", "repository-1", ⟨.attemptTerminal, "attempt-1"⟩, some .budgetExhausted, .budgetExhausted, .high, .v1,
    exhaustedFingerprint, .known "run:run-1" 1200 3300⟩

theorem failure_wire_exhausted : fromTyped exhaustedSha256 exhaustedInput = .ok exhausted ∧
    exhausted.wire = some exhaustedWire ∧ exhaustedWire.occurrence exhaustedSha256 = .ok exhausted := by
  have hdigest : exhaustedSha256 (fingerprintText "repository-1" .attemptTerminal .budgetExhausted) = exhaustedFingerprint :=
    if_pos rfl
  have htyped : fromTyped exhaustedSha256 exhaustedInput = .ok exhausted := by
    unfold exhausted
    rw [← hdigest]
    rfl
  have hwire : exhausted.wire = some exhaustedWire := by decide
  obtain ⟨w, hw, hread⟩ := (failure_wire exhaustedSha256).1 exhaustedInput exhausted htyped
  obtain rfl : exhaustedWire = w := Option.some.inj (hwire.symm.trans hw)
  exact ⟨htyped, hwire, hread⟩

/-- The widest interval there is, of a run whose name is too long for a token. -/
example : ((CostAttribution.known ("run:" ++ String.ofList (List.replicate 125 'r')) 0 18446744073709551615).wire >>=
      FailureWireCost.attribution).toOption.any CostAttribution.valid = true := by
  decide +kernel

end RoundTrip

end Failure
end Bildr
