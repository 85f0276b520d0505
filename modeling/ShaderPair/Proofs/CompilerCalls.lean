import ShaderPair.Conversion

/-! The calls of a conversion and what is reported of them. A conversion stops at one of five places or
gets both answers, and `Course` lists these ways with all that was known on each. What holds of every
conversion is read off that list. -/

namespace ShaderPair

namespace Directive

theorem loadOrder_eq_error {source : Text} {cause : ShaderError} (missing : loadOrder source = .error cause) :
    cause = .missingDirective loadOrderName := by
  unfold loadOrder at missing
  split at missing
  · cases missing
  · cases missing
    rfl

theorem entryPoint_eq_error {source : Text} {stage : Stage} {cause : ShaderError}
    (missing : entryPoint source stage = .error cause) : cause = .missingDirective stage.directive := by
  unfold entryPoint at missing
  split at missing
  · cases missing
  · cases missing
    rfl

end Directive

namespace Conversion

/-- The call that compiles a stage: the entry point is that of the source as it was given, the text
has its reserved semantics hidden. -/
def stageCall (source : Text) (stage : Stage) (entry : Text) : Call :=
  ⟨stage.profile, entry, Semantic.hide source⟩

def stageCall? (source : Text) (stage : Stage) : Option Call :=
  match Directive.entryPoint source stage with
  | .ok entry => some (stageCall source stage entry)
  | .error _ => none

/-- The ways a conversion can go, in the order in which it can stop. -/
inductive Course (compiler : Compiler) (source : Text) : Attempt Pair Failure → Prop where
  | unordered {cause : ShaderError} (missing : Directive.loadOrder source = .error cause) :
      Course compiler source ⟨[], .error ⟨none, cause, []⟩⟩
  | noVertexEntry {order : Text} {cause : ShaderError} (ordered : Directive.loadOrder source = .ok order)
      (missing : Directive.entryPoint source .vertex = .error cause) :
      Course compiler source ⟨[], .error ⟨some .vertex, cause, []⟩⟩
  | vertexRefused {order entry : Text} {cause : ShaderError} (ordered : Directive.loadOrder source = .ok order)
      (named : Directive.entryPoint source .vertex = .ok entry)
      (refused : compiler [] (stageCall source .vertex entry) = .error cause) :
      Course compiler source ⟨[stageCall source .vertex entry], .error ⟨some .vertex, cause, []⟩⟩
  | noFragmentEntry {order entry : Text} {vertex : Answer} {cause : ShaderError}
      (ordered : Directive.loadOrder source = .ok order)
      (named : Directive.entryPoint source .vertex = .ok entry)
      (answered : compiler [] (stageCall source .vertex entry) = .ok vertex)
      (missing : Directive.entryPoint source .fragment = .error cause) :
      Course compiler source ⟨[stageCall source .vertex entry],
        .error ⟨some .fragment, cause, diagnosticBlock .vertex vertex.diagnostics ++ "\n"⟩⟩
  | fragmentRefused {order entry fragmentEntry : Text} {vertex : Answer} {cause : ShaderError}
      (ordered : Directive.loadOrder source = .ok order)
      (named : Directive.entryPoint source .vertex = .ok entry)
      (answered : compiler [] (stageCall source .vertex entry) = .ok vertex)
      (fragmentNamed : Directive.entryPoint source .fragment = .ok fragmentEntry)
      (refused : compiler [stageCall source .vertex entry] (stageCall source .fragment fragmentEntry) = .error cause) :
      Course compiler source ⟨[stageCall source .vertex entry, stageCall source .fragment fragmentEntry],
        .error ⟨some .fragment, cause, diagnosticBlock .vertex vertex.diagnostics ++ "\n"⟩⟩
  | compiled {order entry fragmentEntry : Text} {vertex fragment : Answer}
      (ordered : Directive.loadOrder source = .ok order)
      (named : Directive.entryPoint source .vertex = .ok entry)
      (answered : compiler [] (stageCall source .vertex entry) = .ok vertex)
      (fragmentNamed : Directive.entryPoint source .fragment = .ok fragmentEntry)
      (fragmentAnswered : compiler [stageCall source .vertex entry] (stageCall source .fragment fragmentEntry) =
        .ok fragment) :
      Course compiler source ⟨[stageCall source .vertex entry, stageCall source .fragment fragmentEntry],
        restorePair order vertex fragment⟩

theorem compileStage_named {source : Text} {stage : Stage} {entry : Text}
    (named : Directive.entryPoint source stage = .ok entry) (compiler : Compiler) (earlier : List Call) :
    compileStage compiler earlier stage source (Semantic.hide source) =
      ⟨[stageCall source stage entry], compiler earlier (stageCall source stage entry)⟩ := by
  rw [compileStage, named]
  rfl

theorem compileStage_missing {source : Text} {stage : Stage} {cause : ShaderError}
    (missing : Directive.entryPoint source stage = .error cause) (compiler : Compiler) (earlier : List Call) :
    compileStage compiler earlier stage source (Semantic.hide source) = ⟨[], .error cause⟩ := by
  rw [compileStage, missing]

theorem course_convert (compiler : Compiler) (source : Text) : Course compiler source (convert compiler source) := by
  unfold convert
  cases ordered : Directive.loadOrder source with
  | error cause => exact .unordered ordered
  | ok order =>
    cases named : Directive.entryPoint source .vertex with
    | error cause =>
      simp only [compileStage_missing named]
      exact .noVertexEntry ordered named
    | ok entry =>
      simp only [compileStage_named named]
      cases answered : compiler [] (stageCall source .vertex entry) with
      | error cause => exact .vertexRefused ordered named answered
      | ok vertex =>
        cases fragmentNamed : Directive.entryPoint source .fragment with
        | error cause =>
          simp only [compileStage_missing fragmentNamed]
          exact .noFragmentEntry ordered named answered fragmentNamed
        | ok fragmentEntry =>
          simp only [compileStage_named fragmentNamed]
          cases fragmentAnswered :
            compiler [stageCall source .vertex entry] (stageCall source .fragment fragmentEntry) with
          | error cause => exact .fragmentRefused ordered named answered fragmentNamed fragmentAnswered
          | ok fragment => exact .compiled ordered named answered fragmentNamed fragmentAnswered

def answers (compiler : Compiler) (earlier : List Call) : List Call → List Answer
  | [] => []
  | call :: later =>
    match compiler earlier call with
    | .ok answer => answer :: answers compiler (earlier ++ [call]) later
    | .error _ => answers compiler (earlier ++ [call]) later

def answeredLog : List Answer → Text
  | [] => []
  | [vertex] => diagnosticBlock .vertex vertex.diagnostics ++ "\n"
  | vertex :: fragment :: _ => bothBlocks vertex fragment

theorem restorePair_failed {order : Text} {vertex fragment : Answer} {failure : Failure}
    (failed : restorePair order vertex fragment = .error failure) :
    failure.log = bothBlocks vertex fragment ∧ failure.stage ≠ none := by
  simp only [restorePair] at failed
  split at failed
  · cases failed
    exact ⟨rfl, nofun⟩
  · split at failed
    · cases failed
      exact ⟨rfl, nofun⟩
    · cases failed

theorem restorePair_restored {order : Text} {vertex fragment : Answer} {pair : Pair}
    (restored : restorePair order vertex fragment = .ok pair) : pair.log = bothBlocks vertex fragment := by
  simp only [restorePair] at restored
  split at restored
  · cases restored
  · split at restored
    · cases restored
    · cases restored
      rfl

namespace Course

variable {compiler : Compiler} {source : Text} {attempt : Attempt Pair Failure}

theorem calls_in_order (course : Course compiler source attempt) :
    attempt.calls.map some <+: [stageCall? source .vertex, stageCall? source .fragment] := by
  cases course with
  | unordered missing => exact List.nil_prefix
  | noVertexEntry ordered missing => exact List.nil_prefix
  | vertexRefused ordered named refused => simp [stageCall?, named]
  | noFragmentEntry ordered named answered missing => simp [stageCall?, named]
  | fragmentRefused ordered named answered fragmentNamed refused => simp [stageCall?, named, fragmentNamed]
  | compiled ordered named answered fragmentNamed fragmentAnswered => simp [stageCall?, named, fragmentNamed]

theorem calls_eq_nil (course : Course compiler source attempt) :
    attempt.calls = [] ↔
      Directive.loadOrder source = .error (.missingDirective Directive.loadOrderName) ∨
        Directive.entryPoint source .vertex = .error (.missingDirective Stage.vertex.directive) := by
  cases course with
  | unordered missing => simp [missing, Directive.loadOrder_eq_error missing]
  | noVertexEntry ordered missing => simp [missing, Directive.entryPoint_eq_error missing]
  | vertexRefused ordered named refused => simp [ordered, named]
  | noFragmentEntry ordered named answered missing => simp [ordered, named]
  | fragmentRefused ordered named answered fragmentNamed refused => simp [ordered, named]
  | compiled ordered named answered fragmentNamed fragmentAnswered => simp [ordered, named]

theorem answered_before_second (course : Course compiler source attempt) {vertex fragment : Call}
    (called : attempt.calls = [vertex, fragment]) : ∃ answer, compiler [] vertex = .ok answer := by
  cases course with
  | unordered missing | noVertexEntry ordered missing | vertexRefused ordered named refused
  | noFragmentEntry ordered named answered missing => cases called
  | fragmentRefused ordered named answered fragmentNamed refused =>
    cases called
    exact ⟨_, answered⟩
  | compiled ordered named answered fragmentNamed fragmentAnswered =>
    cases called
    exact ⟨_, answered⟩

theorem failure_log (course : Course compiler source attempt) {failure : Failure}
    (failed : attempt.outcome = .error failure) :
    failure.log = answeredLog (answers compiler [] attempt.calls) := by
  cases course with
  | unordered missing => cases failed; rfl
  | noVertexEntry ordered missing => cases failed; rfl
  | vertexRefused ordered named refused =>
    cases failed
    simp [answers, refused, answeredLog]
  | noFragmentEntry ordered named answered missing =>
    cases failed
    simp [answers, answered, answeredLog]
  | fragmentRefused ordered named answered fragmentNamed refused =>
    cases failed
    simp [answers, answered, refused, answeredLog]
  | compiled ordered named answered fragmentNamed fragmentAnswered =>
    simp [answers, answered, fragmentAnswered, answeredLog, (restorePair_failed failed).1]

theorem success_log (course : Course compiler source attempt) {pair : Pair} (succeeded : attempt.outcome = .ok pair) :
    pair.log = answeredLog (answers compiler [] attempt.calls) ∧ attempt.calls.length = 2 := by
  cases course with
  | unordered missing | noVertexEntry ordered missing | vertexRefused ordered named refused
  | noFragmentEntry ordered named answered missing | fragmentRefused ordered named answered fragmentNamed refused =>
    cases succeeded
  | compiled ordered named answered fragmentNamed fragmentAnswered =>
    simp [answers, answered, fragmentAnswered, answeredLog, restorePair_restored succeeded]

theorem unordered_of_no_stage (course : Course compiler source attempt) {failure : Failure}
    (failed : attempt.outcome = .error failure) (unstaged : failure.stage = none) :
    Directive.loadOrder source = .error (.missingDirective Directive.loadOrderName) ∧
      failure.cause = .missingDirective Directive.loadOrderName := by
  cases course with
  | unordered missing =>
    cases failed
    have reason := Directive.loadOrder_eq_error missing
    exact ⟨reason ▸ missing, reason⟩
  | noVertexEntry ordered missing | vertexRefused ordered named refused
  | noFragmentEntry ordered named answered missing | fragmentRefused ordered named answered fragmentNamed refused =>
    cases failed
    cases unstaged
  | compiled ordered named answered fragmentNamed fragmentAnswered =>
    exact absurd unstaged (restorePair_failed failed).2

theorem vertex_blamed (course : Course compiler source attempt) {vertex fragment : Answer} {cause : ShaderError}
    (both : answers compiler [] attempt.calls = [vertex, fragment])
    (broken : Restoration.restoreStage vertex.code = .error cause) :
    attempt.outcome = .error ⟨some .vertex, cause, bothBlocks vertex fragment⟩ := by
  cases course with
  | unordered missing | noVertexEntry ordered missing => cases both
  | vertexRefused ordered named refused => simp [answers, refused] at both
  | noFragmentEntry ordered named answered missing => simp [answers, answered] at both
  | fragmentRefused ordered named answered fragmentNamed refused => simp [answers, answered, refused] at both
  | compiled ordered named answered fragmentNamed fragmentAnswered =>
    simp only [answers, answered, List.nil_append, fragmentAnswered, List.cons.injEq, and_true] at both
    obtain ⟨rfl, rfl⟩ := both
    simp only [restorePair, broken]

end Course

/-- What holds of the calls made for a source and of the report on them. A failure has no field that
could hold the text of a shader. -/
structure Reported (compiler : Compiler) (source : Text) (attempt : Attempt Pair Failure) : Prop where
  listed : Course compiler source attempt
  inOrder : attempt.calls.map some <+: [stageCall? source .vertex, stageCall? source .fragment]
  /-- Nothing is called exactly when one of the first two directives is missing. -/
  uncalled : attempt.calls = [] ↔
    Directive.loadOrder source = .error (.missingDirective Directive.loadOrderName) ∨
      Directive.entryPoint source .vertex = .error (.missingDirective Stage.vertex.directive)
  answeredFirst : ∀ vertex fragment, attempt.calls = [vertex, fragment] →
    ∃ answer, compiler [] vertex = .ok answer
  /-- A failure keeps the diagnostics of all answers and of nothing else. -/
  failureLog : ∀ failure, attempt.outcome = .error failure →
    failure.log = answeredLog (answers compiler [] attempt.calls)
  successLog : ∀ pair, attempt.outcome = .ok pair →
    pair.log = answeredLog (answers compiler [] attempt.calls) ∧ attempt.calls.length = 2
  /-- Only a missing load order belongs to no stage. -/
  unstaged : ∀ failure, attempt.outcome = .error failure → failure.stage = none →
    Directive.loadOrder source = .error (.missingDirective Directive.loadOrderName) ∧
      failure.cause = .missingDirective Directive.loadOrderName
  /-- With both answers there, an error in restoring the first one is the one reported. -/
  vertexBlamed : ∀ vertex fragment cause, answers compiler [] attempt.calls = [vertex, fragment] →
    Restoration.restoreStage vertex.code = .error cause →
    attempt.outcome = .error ⟨some .vertex, cause, bothBlocks vertex fragment⟩

theorem convert_reported (compiler : Compiler) (source : Text) :
    Reported compiler source (convert compiler source) := by
  have course := course_convert compiler source
  exact {
    listed := course
    inOrder := course.calls_in_order
    uncalled := course.calls_eq_nil
    answeredFirst := fun _ _ => course.answered_before_second
    failureLog := fun _ => course.failure_log
    successLog := fun _ => course.success_log
    unstaged := fun _ => course.unordered_of_no_stage
    vertexBlamed := fun _ _ _ => course.vertex_blamed }

end Conversion

end ShaderPair
