import Agenda.Command.Help
import Agenda.Command.Reader
import Agenda.Command.Run
import Agenda.Config.Basic
import Agenda.Directory.Basic

/-!
# The program

One run of the program reads its configuration and its command line, works on the database and ends
with an exit code. The database comes into being with the first command that works on the store.
-/

namespace Agenda.Program

open Calendar

/-- How a run ends. -/
inductive Outcome where
  /-- The command line gives no command. -/
  | usage (fault : CommandLine.UsageFault)
  /-- The command has run, with what it printed or why it was refused. -/
  | finished (result : Except CommandError String)

/-- The exit code: 1 for a refused command, 2 for a wrong command line. -/
def Outcome.exitCode : Outcome → Nat
  | usage .helpWanted => 0
  | usage .versionWanted => 0
  | usage _ => 2
  | finished (.ok _) => 0
  | finished (.error _) => 1

/-- What a run prints. -/
def Outcome.output : Outcome → String
  | usage fault => fault.output
  | finished (.ok text) => text
  | finished (.error _) => ""

/-- What a run reports as an error. -/
def Outcome.errorOutput : Outcome → String
  | usage fault => fault.report
  | finished (.ok _) => ""
  | finished (.error error) => error.report

/-- One run with a configuration on a store. There is nobody to confirm a deletion. -/
def run (config : Config) (clock : Date) (store : Store) (arguments : List String) :
    Outcome × Store :=
  match CommandLine.read arguments with
  | .error fault => (.usage fault, store)
  | .ok invocation =>
    let (result, store) := Command.run config clock false store invocation
    (.finished result, store)

/-- Whether a run comes to opening the database: its command works on the store, and the current day
is known. -/
def reachesStore (config : Config) (clock : Date) (invocation : Invocation) : Bool :=
  invocation.command.usesStore && (Command.currentDay config clock invocation.today).isOk

/-- The configuration in a working directory. A database in the place of the configuration file
cannot be read, and a folder there is none. -/
def configIn (machine : Machine) (directory : Directory) : Config :=
  match directory.lookup? [Config.fileName] with
  | some (.text content) => Config.loadOrDefaults (some content) machine
  | some (.database _) => Config.defaults machine
  | some .folder | none => Config.loadOrDefaults none machine

/-- One run in a working directory, again with nobody to confirm a deletion. -/
def runIn (machine : Machine) (clock : Date) (directory : Directory) (arguments : List String) :
    Outcome × Directory :=
  let config := configIn machine directory
  match CommandLine.read arguments with
  | .error fault => (.usage fault, directory)
  | .ok invocation =>
    if reachesStore config clock invocation then
      match directory.openDatabase config.databasePath with
      | (directory, .error fault) => (.finished (.error (.database fault)), directory)
      | (directory, .ok (place, store)) =>
        let (result, store) := Command.run config clock false store invocation
        (.finished result, directory.keep place store)
    else (.finished (Command.run config clock false .empty invocation).1, directory)

/-- Runs one after another, each on what the one before left behind. -/
def runAll {State : Type} (step : State → List String → Outcome × State) (state : State) :
    List (List String) → List Outcome × State
  | [] => ([], state)
  | arguments :: rest =>
    let (outcome, state) := step state arguments
    let (outcomes, state) := runAll step state rest
    (outcome :: outcomes, state)

/-- The working directory before any run: at most the configuration file stands there. -/
def freshDirectory (file : Option String) : Directory where
  entries := file.toList.map fun content => ([Config.fileName], .text content)

/-- As many runs end as command lines are given. -/
theorem length_runAll {State : Type} (step : State → List String → Outcome × State)
    (state : State) (commandLines : List (List String)) :
    (runAll step state commandLines).1.length = commandLines.length := by
  induction commandLines generalizing state with
  | nil => rfl
  | cons arguments rest ih => exact congrArg Nat.succ (ih _)

end Agenda.Program
