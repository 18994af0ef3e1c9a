import SearchPanel.Command.Answer
import SearchPanel.Folder
import SearchPanel.Maintenance.Constants

/-!
# Maintenance tasks

Checks and builds of the project itself. A task is a list of actions: it prints lines, compares the
declared constants with the theme's, and runs the build tools in the project's folder. The first
action that fails ends it.
-/

namespace SearchPanel.Maintenance

/-- What a task does. -/
inductive Action
  | say (line : String)
  /-- The declared constants are compared. -/
  | compareConstants
  /-- The build tool runs. -/
  | build (arguments : List String)
  /-- The browser bundle is built. -/
  | bundle
deriving DecidableEq, Repr

/-- Why a task ends early. -/
inductive Failure
  | unreadable (reason : ReadError)
  | constant (mismatch : Mismatch)
  | buildNotRun (arguments : List String) (reason : ReadError)
  | buildFailed (arguments : List String)
  | bundleNotRun (reason : ReadError)
  | bundleFailed
deriving DecidableEq, Repr

/-- The file that declares the constants, from the project's folder. -/
def constantsPath : String := "src/config.rs"

namespace Failure

/-- The wording of a failure. -/
def message : Failure → String
  | unreadable _ => "Failed to read " ++ constantsPath
  | constant (.missing name) => name ++ " not found in " ++ constantsPath
  | constant (.differs name found expected) =>
    name ++ " is " ++ found ++ ", expected " ++ expected
  | buildNotRun arguments _ => "Failed to run cargo " ++ Text.quotedList arguments
  | buildFailed arguments => "cargo " ++ Text.quotedList arguments ++ " failed"
  | bundleNotRun _ => "Failed to run wasm-pack (is it installed?)"
  | bundleFailed => "wasm-pack build failed"

/-- What lies behind a failure. -/
def cause? : Failure → Option ReadError
  | unreadable reason | buildNotRun _ reason | bundleNotRun reason => some reason
  | constant _ | buildFailed _ | bundleFailed => none

/-- A failure as it is reported. -/
def report (f : Failure) : String :=
  let cause := match f.cause? with
    | some reason => "\n\nCaused by:\n    " ++ reason.message
    | none => ""
  "Error: " ++ f.message ++ cause ++ "\n"

end Failure

/-- A program that a task ran, and the folder it ran in. -/
structure Call where
  program : String
  arguments : List String
  folder : String
deriving DecidableEq, Repr

/-- What a task finds around it. -/
structure Surroundings where
  folder : Folder
  /-- The names that lead to where the task runs. -/
  directory : List String
  /-- The folder of the tasks themselves, if the build tool names it. -/
  tasksFolder : Option String := none
  /-- The programs there are; each answers with an exit code that depends on its first argument. -/
  programs : List (String × (String → UInt8)) := []

/-- What a task has done. -/
structure Transcript where
  output : List String := []
  calls : List Call := []
  failure : Option Failure := none

namespace Surroundings

/-- The path of a place. -/
def pathOf (s : Surroundings) : Folder.Place → String
  | .inside ns => Folder.ofNames (s.folder.path.toList ++ ns)
  | .above ns => "/" ++ Folder.ofNames ns

/-- The project's folder: the one around the folder of the tasks. -/
def root (s : Surroundings) : String :=
  Folder.parentPath (s.tasksFolder.getD (s.pathOf (.inside s.directory)))

/-- A program is run in the project's folder: where that is, and its exit code. -/
def run (s : Surroundings) (program : String) (arguments : List String) :
    Except ReadError (String × UInt8) :=
  match s.folder.resolve (.inside s.directory) s.root with
  | .error e => .error e
  | .ok place =>
    match s.folder.at? place with
    | none => .error .notFound
    | some (.bytes _) => .error .notADirectory
    | some .directory =>
      match s.programs.lookup program with
      | none => .error .notFound
      | some exit => .ok (s.pathOf place, exit (arguments.head?.getD ""))

/-- The declared constants are compared. -/
def compare (s : Surroundings) : Option Failure :=
  match s.folder.readFrom (.inside s.directory) (Folder.join s.root constantsPath) with
  | .error e => some (.unreadable e)
  | .ok text => (mismatch? text).map .constant

/-- A program is run and has to end well; then `output` is printed. -/
def require (s : Surroundings) (program : String) (arguments : List String)
    (notRun : ReadError → Failure) (failed : Failure) (output : List String) : Transcript :=
  match s.run program arguments with
  | .error e => { failure := some (notRun e) }
  | .ok (folder, code) =>
    let calls := [⟨program, arguments, folder⟩]
    if code = 0 then { output, calls } else { calls, failure := some failed }

/-- The arguments that build the bundle. -/
def bundleArguments : List String :=
  ["build", "--target", "web", "--release", "--", "--no-default-features", "--features", "wasm"]

/-- One action. -/
def perform (s : Surroundings) : Action → Transcript
  | .say line => { output := [line] }
  | .compareConstants => { failure := s.compare }
  | .build arguments =>
    s.require "cargo" arguments (.buildNotRun arguments) (.buildFailed arguments) []
  | .bundle =>
    s.require "wasm-pack" bundleArguments .bundleNotRun .bundleFailed
      ["✓ Bundle written to " ++ Folder.join s.root "pkg"]

/-- Some actions, up to the first that fails. -/
def performAll (s : Surroundings) : List Action → Transcript
  | [] => {}
  | a :: rest =>
    let t := s.perform a
    match t.failure with
    | some _ => t
    | none =>
      let later := s.performAll rest
      { later with output := t.output ++ later.output, calls := t.calls ++ later.calls }

end Surroundings

/-- A maintenance task. -/
inductive Task
  | verify
  | test
  | check
  | bench
  | buildBundle
deriving DecidableEq, Repr

/-- The task with a name. -/
def Task.named? : String → Option Task
  | "verify" => some verify
  | "test" => some test
  | "check" => some check
  | "bench" => some bench
  | "build-wasm" => some buildBundle
  | _ => none

/-- A line between two parts of a report. -/
def rule : String := "=========================================="

/-- What a task does, in order. -/
def Task.actions : Task → List Action
  | verify => [
    .say rule, .say "Sidesearch Verification Suite", .say (rule ++ "\n"),
    .say "[1/4] Checking default constants...", .compareConstants,
    .say "✓ Constants match the theme defaults\n",
    .say "[2/4] Running Rust tests...", .build ["test", "--quiet"],
    .say "✓ All Rust tests passed\n",
    .say "[3/4] Running clippy...",
    .build ["clippy", "--quiet", "--all-features", "--", "-D", "warnings"],
    .say "✓ Clippy passed\n",
    .say "[4/4] Checking wasm target...",
    .build ["check", "--quiet", "--lib", "--target", "wasm32-unknown-unknown",
      "--no-default-features", "--features", "wasm"],
    .say "✓ wasm target builds\n",
    .say rule, .say "✓ ALL VERIFICATION CHECKS PASSED", .say rule]
  | test => [.build ["test"]]
  | check => [
    .say "Running quick checks...\n",
    .say "[1/3] cargo check...", .build ["check"],
    .say "[2/3] cargo test...", .build ["test", "--quiet"],
    .say "[3/3] cargo clippy...", .build ["clippy", "--quiet", "--", "-D", "warnings"],
    .say "\n✓ Quick checks passed"]
  | bench => [.build ["bench"]]
  | buildBundle => [.bundle]

/-- The overview of the tasks. -/
def overview : String :=
  "\ncargo xtask <COMMAND>\n\nCommands:\n" ++
  "  verify      Run full verification suite (tests, clippy, wasm build, constants)\n" ++
  "  test        Run all Rust tests\n" ++
  "  check       Quick check (cargo check + test + clippy)\n" ++
  "  bench       Run benchmarks\n" ++
  "  build-wasm  Build pkg/ with wasm-pack (web target)\n\n"

/-- What is written for a task, and its exit code. -/
def Transcript.toOutput (t : Transcript) : Command.Output :=
  { exit := if t.failure.isSome then 1 else 0
    stdout := Command.lines (t.output.map String.toList)
    stderr := ((t.failure.map Failure.report).getD "") }

/-- What a command line of the tasks does: the first argument names the task, and where it names
none the tasks are listed. -/
def answer (s : Surroundings) (arguments : List String) : Command.Output × List Call :=
  match arguments.head?.bind Task.named? with
  | some task =>
    let t := s.performAll task.actions
    (t.toOutput, t.calls)
  | none => ({ stderr := overview }, [])

end SearchPanel.Maintenance
