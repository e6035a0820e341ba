import Criteria.Proofs.Config.Exposure
import Criteria.Proofs.Service.Batch
import Criteria.Proofs.Service.Files
import Criteria.Proofs.Text.ByteOrder

/-!
# What the command line writes

A batch that is run from the command line comes to the lines of a batch over the
same bytes, wherever they are read from and go to, and be the batch aborted
behind them or not (`run_batch_refines_runBatch`).  A run that fails earlier,
for the configuration or for the input, has not touched any file.
-/

namespace Criteria

namespace BatchReport

variable (report : BatchReport)

/-- The bytes of a report are those of its lines, each ended by a line feed. -/
theorem bytesOfText_text :
    bytesOfText report.text =
      report.lines.flatMap
        fun line => bytesOfText line ++ bytesOfText "\n" := by
  simp only [bytesOfText_eq, toList_text, List.flatMap_assoc,
    List.flatMap_append]
  rfl

theorem exitCode_toRunReport (output : String) :
    (report.toRunReport output).exitCode = if report.aborted then 1 else 0 := by
  rw [toRunReport]
  split <;> rfl

theorem output_toRunReport (output : String) :
    (report.toRunReport output).output = output := by
  rw [toRunReport]
  split <;> rfl

end BatchReport

/-- A configuration is at hand once it was loaded and validated. -/
theorem Config.loadValid_eq_ok_iff {stored : Stored} {config : Config} :
    loadValid stored = .ok config ↔
      load stored = .ok config ∧ config.validate = .ok () := by
  rw [loadValid]
  cases load stored with
  | error error => exact iff_of_false nofun fun loaded => nomatch loaded.1
  | ok found =>
      change (found.validate >>= fun _ => Except.ok found) = _ ↔ _
      cases valid : found.validate with
      | error error =>
          refine iff_of_false nofun fun ⟨loaded, isValid⟩ => ?_
          cases loaded
          rw [valid] at isValid
          cases isValid
      | ok _ =>
          refine ⟨fun loaded => ?_, fun loaded => loaded.1⟩
          cases loaded
          exact ⟨rfl, valid⟩

namespace Environment

variable {σ : Type} {environment : Environment (StateM σ)}
  {apart : String → Endpoint → Prop} {state : σ}

/-! ## A batch between two endpoints -/

/--
An endpoint takes the output of a batch: a file must be one that can be created,
and apart from the input.
-/
def Accepts (environment : Environment (StateM σ))
    (apart : String → Endpoint → Prop) (state : σ) (input : Endpoint) :
    Endpoint → Prop
  | .standard => True
  | .file path => environment.canCreate state path = true ∧ apart path input

/--
The lines of a batch went to an endpoint and nowhere else.  A file holds them
and nothing besides, and what is apart from it gives what it gave before.
-/
def Delivered (environment : Environment (StateM σ))
    (apart : String → Endpoint → Prop) (before : σ) (report : BatchReport) :
    Endpoint → RunReport × σ → Prop
  | .standard, (ran, after) => ran.output = report.text ∧ after = before
  | .file path, (ran, after) =>
      ran.output = "" ∧
        environment.contentIn after (.file path) =
          .file (bytesOfText report.text) ∧
        ∀ other, apart path other →
          environment.contentIn after other = environment.contentIn before other

/-- The exit code tells whether a batch was aborted, wherever its lines go. -/
theorem exitCode_deliver
    (report : BatchReport) (output : Endpoint) (state : σ) :
    ((environment.deliver report output).run state).1.exitCode =
      if report.aborted then 1 else 0 := by
  cases output <;> exact report.exitCode_toRunReport _

section

variable (keeps : environment.KeepsFiles apart) {input output : Endpoint}
include keeps

theorem delivered_deliver
    (accepts : environment.Accepts apart state input output)
    (report : BatchReport) :
    environment.Delivered apart state report output
      ((environment.deliver report output).run
        ((environment.creates output).run state).2) := by
  cases output with
  | standard => exact ⟨report.output_toRunReport _, rfl⟩
  | file path =>
      have written := run_writeLines keeps accepts.1 report.lines
      rcases written.file with ⟨bytes, holds, amount⟩
      refine ⟨report.output_toRunReport _, ?_, written.others⟩
      rw [report.bytesOfText_text, ← amount]
      exact holds.trans (congrArg Stored.file (List.append_nil bytes).symm)

/--
A batch whose input can be opened delivers what its service makes of the input.
-/
theorem run_runBatch_of_accepts
    (opened : (environment.contentIn state input).opens = true)
    (accepts : environment.Accepts apart state input output)
    (service : Service) :
    (environment.runBatch service input output).run state =
      (environment.deliver
        (service.runBatchOn (environment.contentIn state input).bytes?)
          output).run ((environment.creates output).run state).2 := by
  rw [runBatch, run_bind, keeps.run_opens, opened, if_pos rfl, run_bind]
  cases output with
  | standard =>
      rw [creates, run_pure, if_pos rfl, run_bind, keeps.run_readAll]
  | file path =>
      have created : (environment.creates (.file path)).run state =
          (true, environment.afterCreate state path) :=
        Prod.ext accepts.1 rfl
      rw [created, if_pos rfl, run_bind, keeps.run_readAll,
        keeps.created_apart accepts.2]

/-- A batch whose input cannot be opened leaves every file alone. -/
theorem run_runBatch_of_not_opens
    (closed : (environment.contentIn state input).opens = false)
    (service : Service) :
    (environment.runBatch service input output).run state =
      (cannotOpen "input" input, state) := by
  rw [runBatch, run_bind, keeps.run_opens, closed]
  rfl

/-! ## Runs -/

/--
An invocation looks for its configuration first, and goes on only under a valid
one.
-/
theorem run_runInvocation (invocation : Invocation) (state : σ) :
    (environment.runInvocation invocation).run state =
      match Config.loadValid
          (environment.contentIn state (.file invocation.configPath)) with
      | .ok config =>
          (environment.runCommand config invocation.command).run state
      | .error error => (.failure error.message, state) := by
  rw [runInvocation, run_bind, keeps.run_find]
  dsimp only
  cases Config.loadValid
    (environment.contentIn state (.file invocation.configPath)) <;> rfl

omit keeps in
/--
Under a valid configuration a batch is run by the service of its evaluator.
-/
theorem runCommand_batch {config : Config} (valid : config.validate = .ok ()) :
    environment.runCommand config (.batch input output) =
      environment.runBatch ⟨config.evaluator, config.limits⟩ input output := by
  have built : Service.ofConfig config =
      .ok ⟨config.evaluator, config.limits⟩ := by
    rw [Service.ofConfig, Config.buildEvaluator_of_validate valid]
    rfl
  rw [runCommand, built]

end

/--
A batch that is run from the command line refines the batch over the bytes of
its input.  Under a configuration that loads and validates, with an input file
or the standard input, and with the standard output or a file that can be
created apart from the input, the lines that come out are those of the
configured service, those in front of an abort among them, and the exit code is
zero exactly if the batch is not aborted.  When there is no such configuration
or the input cannot be opened, the exit code is one, nothing is written, and
all files are as they were.
-/
theorem run_batch_refines_runBatch (keeps : environment.KeepsFiles apart)
    {arguments : List String} {configPath : String} {input output : Endpoint}
    (invoked : Invocation.ofArguments? arguments =
      some ⟨configPath, .batch input output⟩) (state : σ) :
    (∀ config bytes,
      Config.load (environment.contentIn state (.file configPath)) =
        .ok config →
      config.validate = .ok () →
      environment.contentIn state input = .file bytes →
      environment.Accepts apart state input output →
        ∃ evaluator, config.buildEvaluator = .ok evaluator ∧
          environment.Delivered apart state
            (Service.runBatch ⟨evaluator, config.limits⟩ bytes) output
            ((environment.run arguments).run state) ∧
          ((environment.run arguments).run state).1.exitCode =
            if (Service.runBatch ⟨evaluator, config.limits⟩ bytes).aborted then
              1
            else 0) ∧
      (((∀ config,
            Config.load (environment.contentIn state (.file configPath)) =
              .ok config → config.validate ≠ .ok ()) ∨
          (environment.contentIn state input).opens = false) →
        ((environment.run arguments).run state).1.exitCode = 1 ∧
          ((environment.run arguments).run state).1.output = "" ∧
          ((environment.run arguments).run state).2 = state) := by
  have started : (environment.run arguments).run state =
      (environment.runInvocation
        ⟨configPath, .batch input output⟩).run state := by
    rw [run, invoked]
  rw [started, run_runInvocation keeps]
  refine ⟨fun config bytes loads valid holds accepts => ?_, fun fails => ?_⟩
  · have opened : (environment.contentIn state input).opens = true := by
      rw [holds]
      rfl
    refine ⟨config.evaluator, Config.buildEvaluator_of_validate valid, ?_⟩
    rw [Config.loadValid_eq_ok_iff.mpr ⟨loads, valid⟩]
    dsimp only
    rw [runCommand_batch valid,
      run_runBatch_of_accepts keeps opened accepts, holds]
    exact ⟨delivered_deliver keeps accepts _, exitCode_deliver _ _ _⟩
  · cases found : Config.loadValid
      (environment.contentIn state (.file configPath)) with
    | error error => exact ⟨rfl, rfl, rfl⟩
    | ok config =>
        rcases Config.loadValid_eq_ok_iff.mp found with ⟨loads, valid⟩
        rcases fails with invalid | closed
        · exact absurd valid (invalid config loads)
        · dsimp only
          rw [runCommand_batch valid, run_runBatch_of_not_opens keeps closed]
          cases input <;> exact ⟨rfl, rfl, rfl⟩

/--
A directory with a file of one message in front of a bracket that nothing
closes, and with another file.
-/
def brokenOff : Directory :=
  ⟨[("in", bytesOfText "[true]\n["), ("out", bytesOfText "old")]⟩

/--
The answer to the message in front of the bracket gets into the file; without
an input the file is as it was.
-/
theorem run_batch_refines_runBatch_brokenOff :
    (brokenOff.run [] ["batch", "-i", "in", "-o", "out"]).1.exitCode = 1 ∧
      (brokenOff.run [] ["batch", "-i", "in", "-o", "out"]).2.find "out" =
        .file (bytesOfText "\x7b\"error\":null,\"result\":true\x7d\n") ∧
      (brokenOff.run [] ["batch", "-i", "none", "-o", "out"]).1.exitCode = 1 ∧
      (brokenOff.run []
        ["batch", "-i", "none", "-o", "out"]).2 = brokenOff := by
  have keeps := Directory.keepsFiles []
  have invoked : Invocation.ofArguments? ["batch", "-i", "in", "-o", "out"] =
      some ⟨standardConfigPath, .batch (.file "in") (.file "out")⟩ := by
    decide +kernel
  have withoutInput :
      Invocation.ofArguments? ["batch", "-i", "none", "-o", "out"] =
        some ⟨standardConfigPath, .batch (.file "none") (.file "out")⟩ := by
    decide +kernel
  have absent : brokenOff.find standardConfigPath = .missing := by
    decide +kernel
  have holds : brokenOff.find "in" = .file (bytesOfText "[true]\n[") := by
    decide +kernel
  have closed : (brokenOff.find "none").opens = false := by decide +kernel
  have valid : Config.standard.validate = .ok () := by decide +kernel
  have accepts : Accepts (Directory.environment []) Directory.Apart brokenOff
      (.file "in") (.file "out") := ⟨by decide +kernel, by decide +kernel⟩
  rcases (run_batch_refines_runBatch keeps invoked brokenOff).1 .standard _
      (congrArg Config.load absent) valid holds accepts with
    ⟨evaluator, built, ⟨_, delivered, _⟩, exitCode⟩
  rcases (run_batch_refines_runBatch keeps withoutInput brokenOff).2
      (.inr closed) with ⟨failed, _, unchanged⟩
  rw [Config.buildEvaluator_of_validate valid] at built
  cases built
  refine ⟨exitCode.trans ?_, delivered.trans ?_, failed, unchanged⟩
  · decide +kernel
  · decide +kernel

end Environment

end Criteria
