import SceneBench.Plan.Loading
import SceneBench.Run

/-!
# The command line

The arguments name the file of a plan, and maybe a directory for the summaries and how much is to be
seen of the log. Short options may stand together behind one dash, the value of an option behind an
equals sign or in the next argument, and behind two dashes there are no more options.

What a run prints is part of its outcome: nothing unless the whole plan was carried out, and then
the summaries, also when they cannot be written to files after that.
-/

namespace SceneBench.CommandLine

/-- What the arguments ask for. -/
structure Invocation where
  plan : Path
  output : Option Path := none
  isVerbose : Bool := false
  deriving DecidableEq, Repr

inductive Request where
  | help
  | carryOut (invocation : Invocation)
  deriving DecidableEq, Repr

/-- Why arguments are not understood. -/
inductive UsageError where
  | noPlan
  | emptyValue (name : String)
  | noValue (name : String)
  | unexpected (argument : String)
  | repeated (name : String)
  deriving DecidableEq, Repr

def UsageError.message : UsageError → String
  | noPlan => "the file of a plan is missing"
  | emptyValue name => s!"the value of {name} is empty"
  | noValue name => s!"{name} needs a value"
  | unexpected argument => s!"unexpected argument {argument}"
  | repeated name => s!"{name} is given more than once"

/-! ## Reading the arguments -/

/-- What has been understood so far. -/
structure Draft where
  plan : Option Path := none
  output : Option Path := none
  isVerbose : Bool := false
  deriving DecidableEq, Repr

namespace Draft

/-- Take an argument that belongs to no option. -/
def takePlan (d : Draft) (argument : String) : Except UsageError Draft :=
  if d.plan.isSome then .error (.unexpected argument)
  else if argument.isEmpty then .error (.emptyValue "PLAN")
  else .ok { d with plan := some ⟨argument⟩ }

/-- Take the value of the output option. -/
def takeOutput (d : Draft) (value : String) : Except UsageError Draft :=
  if d.output.isSome then .error (.repeated "--output")
  else if value.isEmpty then .error (.emptyValue "--output")
  else .ok { d with output := some ⟨value⟩ }

def takeVerbose (d : Draft) : Except UsageError Draft :=
  if d.isVerbose then .error (.repeated "--verbose") else .ok { d with isVerbose := true }

/-- What the arguments ask for, when there are no more of them. -/
def finish (d : Draft) : Except UsageError Request :=
  match d.plan with
  | some plan => .ok (.carryOut ⟨plan, d.output, d.isVerbose⟩)
  | none => .error .noPlan

end Draft

/-- Where an option leaves the reading. -/
inductive Progress where
  | understood (draft : Draft)
  | wantsOutput (draft : Draft)
  | help

/-- Read the letters behind one dash. The letter of an option with a value ends them: its value is
the rest, when there is one. -/
def readLetters (argument : String) : Draft → List Char → Except UsageError Progress
  | d, [] => .ok (.understood d)
  | _, 'h' :: _ => .ok .help
  | d, 'v' :: rest => do readLetters argument (← d.takeVerbose) rest
  | d, ['o'] => .ok (.wantsOutput d)
  | d, 'o' :: '=' :: value => .understood <$> d.takeOutput (String.ofList value)
  | d, 'o' :: value => .understood <$> d.takeOutput (String.ofList value)
  | _, _ :: _ => .error (.unexpected argument)

/-- Read the name behind two dashes, with a value behind an equals sign. -/
def readName (argument : String) (d : Draft) (option : List Char) : Except UsageError Progress :=
  let name := String.ofList (option.takeWhile (· ≠ '='))
  let value? := (option.dropWhile (· ≠ '=')).tail?
  match name, value?.map String.ofList with
  | "help", none => .ok .help
  | "verbose", none => .understood <$> d.takeVerbose
  | "output", none => .ok (.wantsOutput d)
  | "output", some value => .understood <$> d.takeOutput value
  | _, _ => .error (.unexpected argument)

/-- Arguments behind two dashes belong to no option. -/
def readPlain : Draft → List String → Except UsageError Request
  | d, [] => d.finish
  | d, argument :: rest => do readPlain (← d.takePlan argument) rest

/-- An argument that looks like an option; a single dash does not. -/
def looksLikeOption (argument : String) : Bool :=
  argument.startsWith "-" && argument ≠ "-"

mutual

/-- Read arguments in order. The first that is not understood, or asks for help, ends this. -/
def readFrom (d : Draft) : List String → Except UsageError Request
  | [] => d.finish
  | argument :: rest =>
    match argument.toList with
    | ['-', '-'] => readPlain d rest
    | '-' :: '-' :: option => do readOn (← readName argument d option) rest
    | '-' :: c :: letters => do readOn (← readLetters argument d (c :: letters)) rest
    | _ => do readFrom (← d.takePlan argument) rest

/-- Go on behind an option. -/
def readOn (progress : Progress) (rest : List String) : Except UsageError Request :=
  match progress with
  | .help => .ok .help
  | .understood d => readFrom d rest
  | .wantsOutput d =>
    match rest with
    | [] => .error (.noValue "--output")
    | value :: rest =>
      if looksLikeOption value then .error (.noValue "--output")
      else do readFrom (← d.takeOutput value) rest

end

/-- What a list of arguments asks for. -/
def read (arguments : List String) : Except UsageError Request := readFrom {} arguments

/-! ## Doing what is asked -/

/-- The outcome of a run of the program: its exit code and what it prints. -/
structure Outcome where
  code : Nat
  output : String := ""
  errors : String := ""
  deriving DecidableEq, Repr

/-- A message with a mark in front; its further lines are indented as far as the first. -/
def indented (mark : String) (message : String) : String :=
  let margin := "\n" ++ String.ofList (List.replicate mark.length ' ')
  mark ++ String.ofList (message.toList.flatMap fun c => if c = '\n' then margin.toList else [c])

/-- The lines of the causes; several of them are numbered. -/
def causeLines : List String → List String
  | [cause] => [indented "    " cause]
  | causes => causes.zipIdx.map fun (cause, number) => indented s!"    {number}: " cause

/-- What is printed of an error and its causes. -/
def errorText : List String → String
  | [] => ""
  | [message] => s!"Error: {message}\n"
  | message :: causes =>
    s!"Error: {message}\n\nCaused by:\n" ++ String.join ((causeLines causes).map (· ++ "\n"))

/-- The outcome of a run that failed. -/
def Outcome.failed (chain : List String) (output : String := "") : Outcome :=
  ⟨1, output, errorText chain⟩

/-- Carry out a plan as asked. The directory of the arguments comes before that of the plan. -/
def carryOut (i : Invocation) : Action Outcome := do
  match ← Plan.load i.plan with
  | .error e => return .failed e.chain
  | .ok plan =>
    match ← plan.run with
    | .error e => return .failed e.chain
    | .ok summaries =>
      let shown := String.join (summaries.map Summary.shown)
      match i.output <|> plan.output with
      | none => return ⟨0, shown, ""⟩
      | some directory =>
        match ← Summary.writeAll directory summaries with
        | .error e => return .failed e.chain shown
        | .ok () => return ⟨0, shown, ""⟩

def usage : String :=
  "Drive test scenes through their states\n\n" ++
  "Usage: scene-bench [OPTIONS] PLAN\n\n" ++
  "  PLAN                  the file of a plan\n" ++
  "  -o, --output DIR      where the summaries are written, in place of what the plan says\n" ++
  "  -v, --verbose         show more of the log\n" ++
  "  -h, --help            show this text\n"

/-- The whole program. -/
def program (arguments : List String) : Action Outcome :=
  match read arguments with
  | .error e => return ⟨2, "", s!"error: {e.message}\n\n{usage}"⟩
  | .ok .help => return ⟨0, usage, ""⟩
  | .ok (.carryOut i) => carryOut i

/-- How much of the log is shown to somebody who gave these arguments. -/
def shownLevel (arguments : List String) : Level :=
  match read arguments with
  | .ok (.carryOut i) => if i.isVerbose then .debug else .info
  | _ => .info

end SceneBench.CommandLine
