import JavaOutline.Proofs.Containment
import JavaOutline.Proofs.OutermostIssues

namespace JavaOutline

open Text (Bytes)

/-!
# The choice of a listener

A listener may keep any state and may end the search for issues at any of
them. What it does decides which issues a failed source is reported with, and
nothing else: whether the source fails is settled by its tree alone.
-/

namespace Listener

variable {State Fault : Type}

/-- The same listener, with the issues it has been told so far kept beside its state. -/
def withHistory (listener : Listener State Fault) : Listener (State × List SyntaxIssue) Fault where
  initial := (listener.initial, [])
  hear known issue :=
    let answer := listener.hear known.1 issue
    ((answer.1, known.2 ++ [issue]), answer.2)

/-- The issues that a listener is told of in a search, one for each call. -/
def heard
    (listener : Listener State Fault)
    (source : Bytes)
    (root : Node) :
    List SyntaxIssue :=
  (findIssues listener.withHistory source root).state.2

/-- A listener ends a search only by turning the source down, for whatever issues. -/
def OnlyRejects (listener : Listener State Fault) : Prop :=
  ∀ state issue fault, (listener.hear state issue).2 ≠ some (.failed fault)

theorem NeverRefuses.onlyRejects
    {listener : Listener State Fault}
    (neverRefuses : listener.NeverRefuses) :
    listener.OnlyRejects := by
  intro state issue fault refused
  simp [neverRefuses state issue] at refused

theorem failFast_onlyRejects : failFast.OnlyRejects := by
  intro state issue fault
  exact fault.elim

end Listener

variable {State Fault : Type}

/--
A history does not change what is told. The invariant is that the history
holds exactly what has been found.
-/
theorem tellIssues_withHistory
    (listener : Listener State Fault)
    (state : State)
    (found issues : List SyntaxIssue) :
    tellIssues listener.withHistory (state, found) found issues =
      let report := tellIssues listener state found issues
      ⟨report.issues, (report.state, report.issues), report.refusal⟩ := by
  induction issues generalizing state found with
  | nil =>
      rfl
  | cons issue rest inductionHypothesis =>
      have sameAnswer :
          (listener.withHistory.hear (state, found) issue).2 =
            (listener.hear state issue).2 :=
        rfl
      simp only [tellIssues, sameAnswer]
      cases answer : (listener.hear state issue).2 with
      | some refusal =>
          rfl
      | none =>
          exact inductionHypothesis (listener.hear state issue).1 (found ++ [issue])

/-- Every call of a listener is an issue that the search has found, and the other way round. -/
theorem Listener.heard_eq
    (listener : Listener State Fault)
    (source : Bytes)
    (root : Node) :
    listener.heard source root = (findIssues listener source root).issues := by
  have sameRun :=
    tellIssues_withHistory listener listener.initial [] (flaggedIssues source [root])
  rw [heard, findIssues_eq_tellIssues, findIssues_eq_tellIssues]
  exact congrArg (fun report => report.state.2) sameRun

/-- A listener that fails fast is told one issue and turns the source down for it. -/
theorem checkTree_failFast
    {source : Bytes}
    {root : Node}
    {issue : SyntaxIssue}
    {rest : List SyntaxIssue}
    (found : flaggedIssues source [root] = issue :: rest) :
    checkTree .failFast source root = .error (.rejected [issue]) := by
  simp only [checkTree, findIssues_eq_tellIssues, found, tellIssues, Listener.failFast]

/-- Whatever it says, a listener that only rejects cannot save a tree with issues. -/
theorem checkTree_of_onlyRejects
    {listener : Listener State Fault}
    (onlyRejects : listener.OnlyRejects)
    {source : Bytes}
    {root : Node}
    (found : flaggedIssues source [root] ≠ []) :
    ∃ issues, checkTree listener source root = .error (.rejected issues) := by
  cases answer : (findIssues listener source root).refusal with
  | none =>
      have counted : (findIssues listener source root).issues ≠ [] :=
        fun clean => found (findIssues_issues_eq_nil_iff.mp clean)
      exact ⟨(findIssues listener source root).issues, by simp [checkTree, answer, counted]⟩
  | some refusal =>
      have told := answer
      rw [findIssues_eq_tellIssues] at told
      obtain ⟨state, issue, given⟩ := exists_hear_of_refusal told
      cases refusal with
      | failed fault =>
          exact (onlyRejects state issue fault given).elim
      | rejected issues =>
          exact ⟨issues, by simp [checkTree, answer]⟩

/-- The outline of an accepted tree ends, and never with a failure of syntax. -/
theorem outlineChecked_status
    (source : Bytes)
    (root : Node)
    (path fallbackPackage : String) :
    ∃ outcome,
      outcome.status ≠ .syntaxError ∧
        ∀ Fault : Type,
          (outlineChecked source root path fallbackPackage : Traced Fault FileOutcome).outcome =
            .ok outcome := by
  cases unit : (outlineUnit source root path fallbackPackage).outcome with
  | ok declarations =>
      refine ⟨.parsed path declarations, by simp [FileOutcome.parsed], fun Fault => ?_⟩
      simp [outlineChecked, unit]
  | error missing =>
      refine ⟨incompleteOutcome path missing,
        by simp [incompleteOutcome, FileOutcome.failed], fun Fault => ?_⟩
      simp [outlineChecked, unit]

/-- Two outcomes of one source differ at most in the issues it is turned down for. -/
structure VerdictsAgree
    {First Second FirstFault SecondFault : Type}
    (source : Bytes)
    (tree : Node)
    (first : Listener First FirstFault)
    (second : Listener Second SecondFault)
    (firstOutcome secondOutcome : FileOutcome) :
    Prop where
  status : firstOutcome.status = secondOutcome.status
  declarations : firstOutcome.declarations = secondOutcome.declarations
  untold :
    firstOutcome.status ≠ .syntaxError →
    firstOutcome = secondOutcome ∧
      first.heard source tree = [] ∧
      second.heard source tree = []

section Runs

variable {parse? : Bytes → Option Node} {text path fallbackPackage : String} {tree : Node}

theorem index_outcome_of_rejected
    {listener : Listener State Fault}
    {issues : List SyntaxIssue}
    (parsed : parse? (Text.encode text) = some tree)
    (rejected : checkTree listener (Text.encode text) tree = .error (.rejected issues)) :
    ((Indexer.mk parse? listener).index text path fallbackPackage).outcome =
      .ok (rejectedOutcome path issues) := by
  have run :
      (Indexer.mk parse? listener).index text path fallbackPackage =
        ⟨[.syntaxRejected path issues], .ok (rejectedOutcome path issues)⟩ :=
    Indexer.index_of_rejected parsed rejected
  rw [run]

/-- A tree without issues comes to one outcome with all listeners, and none is told anything. -/
theorem index_of_no_issues
    (parsed : parse? (Text.encode text) = some tree)
    (clean : flaggedIssues (Text.encode text) [tree] = []) :
    ∃ outcome,
      outcome.status ≠ .syntaxError ∧
        ∀ {State Fault : Type} (listener : Listener State Fault),
          ((Indexer.mk parse? listener).index text path fallbackPackage).outcome =
              .ok outcome ∧
            listener.heard (Text.encode text) tree = [] := by
  obtain ⟨outcome, status, ended⟩ :=
    outlineChecked_status (Text.encode text) tree path fallbackPackage
  refine ⟨outcome, status, fun listener => ⟨?_, ?_⟩⟩
  · have run :
        (Indexer.mk parse? listener).index text path fallbackPackage =
          outlineChecked (Text.encode text) tree path fallbackPackage :=
      Indexer.index_of_accepted parsed (checkTree_of_no_issues clean)
    rw [run]
    exact ended _
  · rw [listener.heard_eq]
    exact findIssues_issues_eq_nil_iff.mpr clean

/-- What listeners that never refuse do with their calls has no part in the outcome. -/
theorem index_outcome_of_neverRefuses
    {listener : Listener State Fault}
    (parsed : parse? (Text.encode text) = some tree)
    (neverRefuses : listener.NeverRefuses) :
    ∃ outcome,
      ((Indexer.mk parse? listener).index text path fallbackPackage).outcome = .ok outcome ∧
        ((Indexer.mk parse? .collecting).index text path fallbackPackage).outcome =
          .ok outcome := by
  by_cases clean : flaggedIssues (Text.encode text) [tree] = []
  · obtain ⟨outcome, -, run⟩ := index_of_no_issues parsed clean
    exact ⟨outcome, (run listener).1, (run .collecting).1⟩
  · have counted : ¬ (flaggedIssues (Text.encode text) [tree]).isEmpty = true :=
      mt List.isEmpty_iff.mp clean
    refine ⟨rejectedOutcome path (flaggedIssues (Text.encode text) [tree]),
      index_outcome_of_rejected parsed ?_, index_outcome_of_rejected parsed ?_⟩
    · rw [checkTree_of_neverRefuses neverRefuses, if_neg counted]
    · rw [checkTree_of_neverRefuses Listener.collecting_neverRefuses, if_neg counted]

/-- Two listeners that only reject come to the same verdict. -/
theorem exists_verdictsAgree
    {First Second FirstFault SecondFault : Type}
    {first : Listener First FirstFault}
    {second : Listener Second SecondFault}
    (parsed : parse? (Text.encode text) = some tree)
    (firstRejects : first.OnlyRejects)
    (secondRejects : second.OnlyRejects) :
    ∃ firstOutcome secondOutcome,
      ((Indexer.mk parse? first).index text path fallbackPackage).outcome =
          .ok firstOutcome ∧
        ((Indexer.mk parse? second).index text path fallbackPackage).outcome =
          .ok secondOutcome ∧
        VerdictsAgree (Text.encode text) tree first second firstOutcome secondOutcome := by
  by_cases clean : flaggedIssues (Text.encode text) [tree] = []
  · obtain ⟨outcome, -, run⟩ := index_of_no_issues parsed clean
    obtain ⟨firstRun, firstUntold⟩ := run first
    obtain ⟨secondRun, secondUntold⟩ := run second
    exact ⟨outcome, outcome, firstRun, secondRun, rfl, rfl,
      fun _ => ⟨rfl, firstUntold, secondUntold⟩⟩
  · obtain ⟨firstIssues, firstRejected⟩ := checkTree_of_onlyRejects firstRejects clean
    obtain ⟨secondIssues, secondRejected⟩ := checkTree_of_onlyRejects secondRejects clean
    exact ⟨rejectedOutcome path firstIssues, rejectedOutcome path secondIssues,
      index_outcome_of_rejected parsed firstRejected,
      index_outcome_of_rejected parsed secondRejected,
      rfl, rfl, fun otherwise => (otherwise rfl).elim⟩

/-- The reports of a listener that collects and of one that fails fast on the same source. -/
theorem index_failFast_shows_first
    {collected failedFast : FileOutcome}
    (parsed : parse? (Text.encode text) = some tree)
    (collectedRun :
      ((Indexer.mk parse? .collecting).index text path fallbackPackage).outcome =
        .ok collected)
    (failedFastRun :
      ((Indexer.mk parse? .failFast).index text path fallbackPackage).outcome =
        .ok failedFast)
    (failed : collected.status = .syntaxError) :
    ∃ issue rest,
      collected.issues = issue :: rest ∧
        collected.message =
          some (toString (rest.length + 1) ++ " syntax error(s): " ++ issue.describe) ∧
        failedFast.issues = [issue] ∧
        failedFast.message = some ("1 syntax error(s): " ++ issue.describe) := by
  cases found : flaggedIssues (Text.encode text) [tree] with
  | nil =>
      obtain ⟨outcome, status, run⟩ := index_of_no_issues parsed found
      have same := (run .collecting).1.symm.trans collectedRun
      cases same
      exact (status failed).elim
  | cons issue rest =>
      have rejected :
          checkTree .collecting (Text.encode text) tree =
            .error (.rejected (issue :: rest)) := by
        simp [checkTree_of_neverRefuses Listener.collecting_neverRefuses, found]
      have sameCollected :=
        (index_outcome_of_rejected parsed rejected).symm.trans collectedRun
      have sameFailedFast :=
        (index_outcome_of_rejected parsed (checkTree_failFast found)).symm.trans failedFastRun
      have oneError : summarizeIssues [issue] = "1 syntax error(s): " ++ issue.describe := by
        have counted : toString 1 ++ " syntax error(s): " = "1 syntax error(s): " := by
          decide
        rw [summarizeIssues_cons, ← counted]
        rfl
      cases sameCollected
      cases sameFailedFast
      exact ⟨issue, rest, rfl, congrArg some (summarizeIssues_cons issue rest), rfl,
        congrArg some oneError⟩

end Runs

/--
Two listeners that end a search only by turning the source down, at any issue
and for any reason of their own, come to outcomes with the same status and the
same declarations. Unless the source is turned down the outcomes are equal and
neither listener is told anything. A listener that never refuses gives the
outcome of the one that collects; the one that fails fast shows the first of
the collected issues.
-/
theorem index_verdict_ignores_listener
    {First Second FirstFault SecondFault : Type}
    (first : Listener First FirstFault)
    (second : Listener Second SecondFault)
    (parse? : Bytes → Option Node)
    (text path fallbackPackage : String)
    (tree : Node)
    (firstRejects : first.OnlyRejects)
    (secondRejects : second.OnlyRejects)
    (parsed : parse? (Text.encode text) = some tree) :
    ∃ firstOutcome secondOutcome collected failedFast,
      ((Indexer.mk parse? first).index text path fallbackPackage).outcome =
          .ok firstOutcome ∧
        ((Indexer.mk parse? second).index text path fallbackPackage).outcome =
          .ok secondOutcome ∧
        ((Indexer.mk parse? .collecting).index text path fallbackPackage).outcome =
          .ok collected ∧
        ((Indexer.mk parse? .failFast).index text path fallbackPackage).outcome =
          .ok failedFast ∧
        VerdictsAgree (Text.encode text) tree first second firstOutcome secondOutcome ∧
        (first.NeverRefuses → firstOutcome = collected) ∧
        VerdictsAgree (Text.encode text) tree .collecting .failFast collected failedFast ∧
        (collected.status = .syntaxError →
          ∃ issue rest,
            collected.issues = issue :: rest ∧
              collected.message =
                some (toString (rest.length + 1) ++ " syntax error(s): " ++
                  issue.describe) ∧
              failedFast.issues = [issue] ∧
              failedFast.message = some ("1 syntax error(s): " ++ issue.describe)) := by
  obtain ⟨firstOutcome, secondOutcome, firstRun, secondRun, agree⟩ :=
    exists_verdictsAgree parsed firstRejects secondRejects
  obtain ⟨collected, failedFast, collectedRun, failedFastRun, standardAgree⟩ :=
    exists_verdictsAgree parsed Listener.collecting_neverRefuses.onlyRejects
      Listener.failFast_onlyRejects
  refine ⟨firstOutcome, secondOutcome, collected, failedFast, firstRun, secondRun,
    collectedRun, failedFastRun, agree, ?_, standardAgree,
    index_failFast_shows_first parsed collectedRun failedFastRun⟩
  intro neverRefuses
  obtain ⟨outcome, firstEnded, collectedEnded⟩ :=
    index_outcome_of_neverRefuses parsed neverRefuses
  have firstSame := Except.ok.inj (firstRun.symm.trans firstEnded)
  have collectedSame := Except.ok.inj (collectedRun.symm.trans collectedEnded)
  exact firstSame.trans collectedSame.symm

/-- Keeps nothing of what it is told. -/
def Listener.deaf : Listener Unit Empty where
  initial := ()
  hear _ _ := ((), none)

/-- A file with a missing semicolon and unexpected input fails, whoever listens. -/
theorem index_brokenUnit_ignores_listener :
    flaggedIssues (Text.encode "") [brokenUnit] ≠ [] ∧
      ∃ firstOutcome secondOutcome collected failedFast,
        ((Indexer.mk (fun _ => some brokenUnit) .deaf).index "" "A.java" "").outcome =
            .ok firstOutcome ∧
          ((Indexer.mk (fun _ => some brokenUnit) (.bounded 2)).index "" "A.java" "").outcome =
            .ok secondOutcome ∧
          ((Indexer.mk (fun _ => some brokenUnit) .collecting).index "" "A.java" "").outcome =
            .ok collected ∧
          ((Indexer.mk (fun _ => some brokenUnit) .failFast).index "" "A.java" "").outcome =
            .ok failedFast ∧
          VerdictsAgree (Text.encode "") brokenUnit .deaf (.bounded 2)
            firstOutcome secondOutcome ∧
          (Listener.deaf.NeverRefuses → firstOutcome = collected) ∧
          VerdictsAgree (Text.encode "") brokenUnit .collecting .failFast
            collected failedFast ∧
          (collected.status = .syntaxError →
            ∃ issue rest,
              collected.issues = issue :: rest ∧
                collected.message =
                  some (toString (rest.length + 1) ++ " syntax error(s): " ++
                    issue.describe) ∧
                failedFast.issues = [issue] ∧
                failedFast.message = some ("1 syntax error(s): " ++ issue.describe)) := by
  have deafRejects : Listener.deaf.OnlyRejects := by
    intro state issue fault
    exact fault.elim
  have boundedRejects : (Listener.bounded 2).OnlyRejects := by
    intro state issue fault
    exact fault.elim
  refine ⟨by decide, ?_⟩
  exact index_verdict_ignores_listener .deaf (.bounded 2) (fun _ => some brokenUnit)
    "" "A.java" "" brokenUnit deafRejects boundedRejects rfl

end JavaOutline
