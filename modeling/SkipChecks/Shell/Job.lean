import SkipChecks.Shell.Escape
import SkipChecks.Shell.Signal

/-!
# Jobs

What a shell keeps of processes in the background. A job has the lowest number that is free, and the job
that was started last comes first. A job that is over and has been waited for may lose its number to any
process that is started after it.
-/

namespace SkipChecks.Shell

/-- A process in the background, maybe with others whose output it reads. -/
structure Job where
  number : Nat
  process : Nat
  /-- How many processes there are beside it. -/
  others : Nat
  /-- How it ended, as far as its shell has been told. -/
  ending : Option Ending
  /-- Whether its end has been waited for. -/
  waited : Bool
  deriving DecidableEq, Repr

namespace Job

/-- Whether the number of a job may be given away. -/
def isOver (job : Job) : Bool := job.ending.isSome && job.waited

/-- The lowest number that can be given to a job. -/
def nextNumber (jobs : List Job) : Nat :=
  (((List.range (jobs.length + 1)).map (· + 1)).find? fun n =>
    !jobs.any fun job => job.number == n && !job.isOver).getD 1

/-- The jobs that are left when a process has taken a number, whether it keeps it or not. -/
def makeRoom (jobs : List Job) : List Job := jobs.filter (·.number != nextNumber jobs)

/-- The jobs when another one is started. -/
def start (jobs : List Job) (process others : Nat) : List Job :=
  ⟨nextNumber jobs, process, others, none, false⟩ :: makeRoom jobs

/-- The job of a process. -/
def ofProcess? (jobs : List Job) (process : Nat) : Option Job := jobs.find? (·.process == process)

/-- Takes note that a job has been waited for. -/
def wait (jobs : List Job) (process : Nat) : List Job :=
  jobs.map fun job => if job.process = process then { job with waited := true } else job

/-- What a job is doing, or how it ended. -/
def state (job : Job) : Octets :=
  match job.ending with
  | none => "Running".toList
  | some (.exited 0) => "Done".toList
  | some (.exited code) => "Done(".toList ++ Text.ofNat code.toNat ++ [')']
  | some (.killed signal) => Signal.words signal

/-- The line that describes a job among others. The last job is marked by a plus sign, and the one before
it by a minus sign. Its process may be named. -/
def line (jobs : List Job) (names : Bool) (job : Job) : Octets :=
  let mark :=
    if (jobs.head?.map (·.number)) = some job.number then '+'
    else if (jobs[1]?.map (·.number)) = some job.number then '-'
    else ' '
  let front := '[' :: Text.ofNat job.number ++ [']', ' ', mark, ' '] ++
    (if names then Text.ofNat job.process ++ [' '] else []) ++ job.state
  let piped := (List.replicate job.others " | ".toList).flatten
  front ++ List.replicate (max 1 (33 - front.length)) ' ' ++ piped ++ ['\n']

/-- Why a name is not the one of a job. -/
inductive Fault
  | none
  | noCurrent
  | noPrevious
  | ambiguous
  deriving DecidableEq, Repr

/-- What is said about a name that is not the one of a job. -/
def Fault.words (name : Octets) : Fault → Octets
  | .none => "No such job: ".toList ++ name
  | .noCurrent => "No current job".toList
  | .noPrevious => "No previous job".toList
  | .ambiguous => name ++ ": ambiguous".toList

/-- The job of a name. Without a name it is the last one. Jobs can be named by their numbers, but not by
what they do. -/
def named (jobs : List Job) : Option Octets → Except Fault Job
  | .none | some ['%'] | some ['%', '+'] | some ['%', '%'] => of .noCurrent jobs.head?
  | some ['%', '-'] => of .noPrevious jobs[1]?
  | some ['%', '?'] => match jobs with
    | [job] => .ok job
    | [] => .error .none
    | _ => .error .ambiguous
  | some ('%' :: digits) =>
    if digits.all Char.isDigit then of .none (jobs.find? (·.number == numeral 10 digits))
    else .error .none
  | some _ => .error .none
where
  /-- The job, if there is one. -/
  of (fault : Fault) : Option Job → Except Fault Job
    | some job => .ok job
    | .none => .error fault

example :
    start (start [] 7 0) 8 0 = [⟨2, 8, 0, none, false⟩, ⟨1, 7, 0, none, false⟩] ∧
      start [⟨1, 7, 0, some (.exited 0), true⟩] 8 0 = [⟨1, 8, 0, none, false⟩] := by
  decide +kernel

end Job

end SkipChecks.Shell
