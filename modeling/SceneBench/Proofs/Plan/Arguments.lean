import SceneBench.CommandLine

/-!
# What arguments ask for

A list of arguments spells parts: the file of a plan, a directory for the summaries, or that more of
the log is to be seen. The spellings are told here by a grammar that knows nothing of how arguments
are read. Arguments are understood as a plan to carry out exactly if the grammar has them and their
parts name one plan, at most one directory and nothing twice.
-/

namespace SceneBench

/-- What succeeds in two parts succeeds in each of them. -/
theorem exists_of_bind_eq_ok {ε α β : Type} {first : Except ε α} {next : α → Except ε β} {b : β}
    (ok : first >>= next = .ok b) : ∃ a, first = .ok a ∧ next a = .ok b := by
  cases first with
  | error e => cases ok
  | ok a => exact ⟨a, rfl, ok⟩

namespace CommandLine

/-! ## Spellings -/

/-- A piece of what arguments say. -/
inductive Part where
  | plan (file : String)
  | output (directory : String)
  | verbose
  deriving DecidableEq, Repr

namespace Part

def plan? : Part → Option Path
  | plan file => some ⟨file⟩
  | _ => none

def output? : Part → Option Path
  | output directory => some ⟨directory⟩
  | _ => none

end Part

/-- An argument that is no option. -/
def Stands (argument : String) : Prop :=
  argument = "-" ∨ ∀ rest, argument.toList ≠ '-' :: rest

/-- Letters behind one dash spell parts, and maybe the last of them wants the next argument for its
value. Without an equals sign all that is behind the letter of an option is its value. -/
inductive Letters : List Char → List Part → Bool → Prop
  | nil : Letters [] [] false
  | verbose {letters : List Char} {parts : List Part} {wants : Bool} :
      Letters letters parts wants → Letters ('v' :: letters) (.verbose :: parts) wants
  | wanting : Letters ['o'] [] true
  | equals (value : List Char) :
      Letters ('o' :: '=' :: value) [.output (String.ofList value)] false
  | behind {c : Char} (value : List Char) :
      c ≠ '=' → Letters ('o' :: c :: value) [.output (String.ofList (c :: value))] false

/-- A name behind two dashes spells parts in the same way. -/
inductive Named : List Char → List Part → Bool → Prop
  | verbose : Named "verbose".toList [.verbose] false
  | wanting : Named "output".toList [] true
  | equals (value : List Char) :
      Named ("output=".toList ++ value) [.output (String.ofList value)] false

/-- An option spells parts. One dash alone is no option, and two dashes alone are none either. -/
inductive Opens : List Char → List Part → Bool → Prop
  | letters {letters : List Char} {parts : List Part} {wants : Bool} :
      letters ≠ [] → Letters letters parts wants → Opens ('-' :: letters) parts wants
  | name {name : List Char} {parts : List Part} {wants : Bool} :
      Named name parts wants → Opens ('-' :: '-' :: name) parts wants

/-- Arguments spell parts, where the first of them is the value of an option if one is wanted.
Behind two dashes there are no more options. -/
inductive Spells : Bool → List String → List Part → Prop
  | nil : Spells false [] []
  | plan {file : String} {rest : List String} {parts : List Part} :
      Stands file → Spells false rest parts → Spells false (file :: rest) (.plan file :: parts)
  | plans (files : List String) : Spells false ("--" :: files) (files.map .plan)
  | opens {argument : String} {wants : Bool} {rest : List String} {first parts : List Part} :
      Opens argument.toList first wants → Spells wants rest parts →
        Spells false (argument :: rest) (first ++ parts)
  | value {value : String} {rest : List String} {parts : List Part} :
      Stands value → Spells false rest parts → Spells true (value :: rest) (.output value :: parts)

/-- Parts say what is asked for, each thing once and no empty name. -/
structure Says (parts : List Part) (i : Invocation) : Prop where
  plan : parts.filterMap Part.plan? = [i.plan]
  output : parts.filterMap Part.output? = i.output.toList
  verbose : parts.count .verbose = i.isVerbose.toNat
  filled : .plan "" ∉ parts ∧ .output "" ∉ parts

/-- Arguments ask for a plan to be carried out. -/
def Asks (arguments : List String) (i : Invocation) : Prop :=
  ∃ parts, Spells false arguments parts ∧ Says parts i

/-! ## Parts are taken in order -/

namespace Draft

variable {d d' : Draft} {parts : List Part}

def take (d : Draft) : Part → Except UsageError Draft
  | .plan file => d.takePlan file
  | .output directory => d.takeOutput directory
  | .verbose => d.takeVerbose

def takeAll (d : Draft) (parts : List Part) : Except UsageError Draft := parts.foldlM take d

@[simp] theorem takeAll_nil (d : Draft) : d.takeAll [] = .ok d := rfl

@[simp] theorem takeAll_cons (d : Draft) (p : Part) (parts : List Part) :
    d.takeAll (p :: parts) = d.take p >>= fun d => d.takeAll parts := rfl

theorem takeAll_singleton (d : Draft) (p : Part) : d.takeAll [p] = d.take p := by
  cases taken : d.take p <;> simp [taken, bind, Except.bind]

theorem takeAll_append (d : Draft) (parts more : List Part) :
    d.takeAll (parts ++ more) = d.takeAll parts >>= fun d => d.takeAll more :=
  List.foldlM_append

/-- A draft has what another had and what parts say, each thing once. -/
structure Adds (d : Draft) (parts : List Part) (d' : Draft) : Prop where
  plan : d.plan.toList ++ parts.filterMap Part.plan? = d'.plan.toList
  output : d.output.toList ++ parts.filterMap Part.output? = d'.output.toList
  verbose : d.isVerbose.toNat + parts.count .verbose = d'.isVerbose.toNat
  filled : .plan "" ∉ parts ∧ .output "" ∉ parts

theorem takePlan_eq_ok_iff {file : String} :
    d.takePlan file = .ok d' ↔
      d.plan = none ∧ file ≠ "" ∧ d' = { d with plan := some ⟨file⟩ } := by
  rw [takePlan]
  cases d.plan <;> by_cases empty : file = "" <;> simp [empty, @eq_comm Draft _ d']

theorem takeOutput_eq_ok_iff {value : String} :
    d.takeOutput value = .ok d' ↔
      d.output = none ∧ value ≠ "" ∧ d' = { d with output := some ⟨value⟩ } := by
  rw [takeOutput]
  cases d.output <;> by_cases empty : value = "" <;> simp [empty, @eq_comm Draft _ d']

theorem takeVerbose_eq_ok_iff :
    d.takeVerbose = .ok d' ↔ d.isVerbose = false ∧ d' = { d with isVerbose := true } := by
  rw [takeVerbose]
  cases d.isVerbose <;> simp [@eq_comm Draft _ d']

theorem adds_iff :
    d.Adds parts d' ↔ d.plan.toList ++ parts.filterMap Part.plan? = d'.plan.toList ∧
      d.output.toList ++ parts.filterMap Part.output? = d'.output.toList ∧
      d.isVerbose.toNat + parts.count .verbose = d'.isVerbose.toNat ∧
      .plan "" ∉ parts ∧ .output "" ∉ parts :=
  ⟨fun adds => ⟨adds.plan, adds.output, adds.verbose, adds.filled⟩,
    fun ⟨plan, output, verbose, filled⟩ => ⟨plan, output, verbose, filled⟩⟩

/-- Nothing goes before a first thing. -/
theorem toList_append_cons {α : Type} {o o' : Option α} {a : α} {as : List α} :
    o.toList ++ a :: as = o'.toList ↔ o = none ∧ a :: as = o'.toList := by
  cases o <;> cases o' <;> simp

theorem toNat_add_succ {b b' : Bool} {n : Nat} :
    b.toNat + (n + 1) = b'.toNat ↔ b = false ∧ 1 + n = b'.toNat := by
  cases b <;> cases b' <;> simp

theorem adds_nil : d.Adds [] d' ↔ d = d' := by
  obtain ⟨plan, output, isVerbose⟩ := d
  obtain ⟨plan', output', isVerbose'⟩ := d'
  cases plan' <;> cases output' <;> cases isVerbose' <;> simp [adds_iff]

theorem adds_cons {p : Part} :
    d.Adds (p :: parts) d' ↔ ∃ d'', d.take p = .ok d'' ∧ d''.Adds parts d' := by
  cases p with
  | plan file =>
      simp only [take, takePlan_eq_ok_iff, adds_iff, List.filterMap_cons, Part.plan?, Part.output?,
        toList_append_cons, List.count_cons, List.mem_cons, Part.plan.injEq]
      grind
  | output value =>
      simp only [take, takeOutput_eq_ok_iff, adds_iff, List.filterMap_cons, Part.plan?,
        Part.output?, toList_append_cons, List.count_cons, List.mem_cons, Part.output.injEq]
      grind
  | verbose =>
      simp only [take, takeVerbose_eq_ok_iff, adds_iff, List.filterMap_cons, Part.plan?,
        Part.output?, List.count_cons_self, toNat_add_succ, List.mem_cons]
      grind

/-- Parts are taken exactly if each thing is said once. -/
theorem takeAll_eq_ok_iff : d.takeAll parts = .ok d' ↔ d.Adds parts d' := by
  induction parts generalizing d with
  | nil => simp [adds_nil]
  | cons p parts ih =>
      rw [adds_cons, takeAll_cons]
      cases d.take p <;> simp [bind, Except.bind, ih]

theorem finish_eq_carryOut_iff {i : Invocation} :
    d.finish = .ok (.carryOut i) ↔ d = ⟨some i.plan, i.output, i.isVerbose⟩ := by
  obtain ⟨plan, output, isVerbose⟩ := d
  obtain ⟨file, output', isVerbose'⟩ := i
  cases plan <;> simp [finish]

end Draft

/-- What parts ask for, when they are taken in order. -/
theorem says_iff {parts : List Part} {i : Invocation} :
    Says parts i ↔ ∃ d, Draft.takeAll {} parts = .ok d ∧ d.finish = .ok (.carryOut i) := by
  simp only [Draft.takeAll_eq_ok_iff, Draft.finish_eq_carryOut_iff, exists_eq_right, Draft.adds_iff]
  constructor <;> rintro ⟨plan, output, verbose, filled⟩ <;>
    exact ⟨plan, output, by simpa using verbose, filled⟩

/-! ## Spelled arguments are understood -/

/-- Where an option leaves the reading, if its value is wanted or not. -/
def Progress.behind : Bool → Draft → Progress
  | false, d => .understood d
  | true, d => .wantsOutput d

theorem looksLikeOption_eq_false_iff {argument : String} :
    looksLikeOption argument = false ↔ Stands argument := by
  have dash : argument.startsWith "-" = true ↔ ∃ rest, argument.toList = '-' :: rest := by
    rw [String.startsWith_string_iff]
    exact exists_congr fun _ => eq_comm
  by_cases one : argument = "-"
  · simp [looksLikeOption, Stands, one]
  · rw [looksLikeOption, Bool.and_eq_false_imp, dash]
    simp [Stands, one]

theorem Letters.readLetters {letters : List Char} {parts : List Part} {wants : Bool}
    (spelled : Letters letters parts wants) (argument : String) (d : Draft) :
    readLetters argument d letters = Progress.behind wants <$> d.takeAll parts := by
  induction spelled generalizing d with
  | nil => rfl
  | verbose _ ih => simp [CommandLine.readLetters, Draft.take, ih]
  | wanting => rfl
  | equals value =>
      rw [CommandLine.readLetters, Draft.takeAll_singleton]
      rfl
  | behind value other =>
      rw [CommandLine.readLetters, Draft.takeAll_singleton]
      · rfl
      all_goals simp [other]

variable {argument : String} {d : Draft} {rest : List String}

theorem readFrom_of_stands (stands : Stands argument) :
    readFrom d (argument :: rest) = d.take (.plan argument) >>= fun d => readFrom d rest := by
  rw [readFrom]
  obtain rfl | other := stands
  · rfl
  · split
    · next text => exact absurd text (other _)
    · next text => exact absurd text (other _)
    · next text => exact absurd text (other _)
    · rfl

theorem readFrom_of_letters {c : Char} {letters : List Char}
    (text : argument.toList = '-' :: c :: letters) (other : c ≠ '-') :
    readFrom d (argument :: rest) =
      readLetters argument d (c :: letters) >>= fun p => readOn p rest := by
  rw [readFrom, text]
  split
  · next same => simp [other] at same
  · next same => simp [other] at same
  · next same => cases same; rfl
  · next apart => exact absurd rfl (apart c letters)

theorem readFrom_of_name {name : List Char} (text : argument.toList = '-' :: '-' :: name)
    (some : name ≠ []) :
    readFrom d (argument :: rest) = readName argument d name >>= fun p => readOn p rest := by
  rw [readFrom, text]
  split
  · next same => simp [some] at same
  · next same => cases same; rfl
  · next apart same => cases same; exact absurd rfl apart
  · next apart => exact absurd rfl (apart '-' name)

theorem Named.readName {name : List Char} {parts : List Part} {wants : Bool}
    (spelled : Named name parts wants) :
    readName argument d name = Progress.behind wants <$> d.takeAll parts := by
  cases spelled with
  | verbose =>
      rw [Draft.takeAll_singleton]
      rfl
  | wanting => rfl
  | equals value =>
      rw [Draft.takeAll_singleton]
      show _ = Progress.understood <$> d.takeOutput (String.ofList value)
      simp [CommandLine.readName]

theorem Named.ne_nil {name : List Char} {parts : List Part} {wants : Bool}
    (spelled : Named name parts wants) : name ≠ [] := by
  cases spelled <;> simp

theorem Opens.readFrom {parts : List Part} {wants : Bool}
    (spelled : Opens argument.toList parts wants) :
    readFrom d (argument :: rest) =
      d.takeAll parts >>= fun d => readOn (.behind wants d) rest := by
  generalize text : argument.toList = chars at spelled
  cases spelled with
  | letters some spelled =>
      have read := spelled.readLetters argument d
      cases spelled with
      | nil => exact absurd rfl some
      | verbose | wanting | equals | behind =>
          rw [readFrom_of_letters text (by decide), read]
          cases d.takeAll _ <;> rfl
  | name spelled =>
      have some := spelled.ne_nil
      rw [readFrom_of_name text some, spelled.readName]
      cases d.takeAll _ <;> rfl

theorem readPlain_eq (d : Draft) (files : List String) :
    readPlain d files = d.takeAll (files.map .plan) >>= Draft.finish := by
  induction files generalizing d with
  | nil => rfl
  | cons file files ih =>
      rw [readPlain, List.map_cons, Draft.takeAll_cons, Draft.take]
      cases d.takePlan file with
      | error e => rfl
      | ok d => exact ih d

theorem readOn_understood : readOn (.understood d) rest = readFrom d rest := by
  rw [readOn]

theorem readOn_wantsOutput {value : String} (stands : Stands value) :
    readOn (.wantsOutput d) (value :: rest) =
      d.take (.output value) >>= fun d => readFrom d rest := by
  rw [readOn, looksLikeOption_eq_false_iff.mpr stands]
  rfl

/-- What is spelled is read part by part; by induction on the spelling. -/
theorem Spells.readOn {wants : Bool} {arguments : List String} {parts : List Part}
    (spelled : Spells wants arguments parts) (d : Draft) :
    readOn (.behind wants d) arguments = d.takeAll parts >>= Draft.finish := by
  induction spelled generalizing d with
  | nil => rw [Progress.behind, readOn_understood, CommandLine.readFrom]; rfl
  | plan stands _ ih =>
      rw [Progress.behind, readOn_understood, readFrom_of_stands stands, Draft.takeAll_cons]
      cases d.take _ with
      | error e => rfl
      | ok d => exact readOn_understood.symm.trans (ih d)
  | plans files =>
      rw [Progress.behind, readOn_understood, CommandLine.readFrom]
      exact readPlain_eq d files
  | opens opens _ ih =>
      rw [Progress.behind, readOn_understood, opens.readFrom, Draft.takeAll_append]
      cases d.takeAll _ with
      | error e => rfl
      | ok d => exact ih d
  | value stands _ ih =>
      rw [Progress.behind, readOn_wantsOutput stands, Draft.takeAll_cons]
      cases d.take _ with
      | error e => rfl
      | ok d => exact readOn_understood.symm.trans (ih d)

/-! ## Arguments that are understood are spelled -/

def Progress.wants : Progress → Bool
  | .wantsOutput _ => true
  | _ => false

theorem exists_letters {p : Progress} {letters : List Char}
    (read : readLetters argument d letters = .ok p) :
    p = .help ∨ ∃ parts, Letters letters parts p.wants := by
  fun_induction readLetters argument d letters with
  | case1 d =>
      cases read
      exact .inr ⟨_, .nil⟩
  | case2 d rest =>
      cases read
      exact .inl rfl
  | case3 d letters ih =>
      obtain ⟨d', -, read⟩ := exists_of_bind_eq_ok read
      exact (ih d' read).imp id fun ⟨parts, spelled⟩ => ⟨_, .verbose spelled⟩
  | case4 d =>
      cases read
      exact .inr ⟨_, .wanting⟩
  | case5 d value =>
      obtain ⟨d', -, understood⟩ := exists_of_bind_eq_ok read
      cases understood
      exact .inr ⟨_, .equals value⟩
  | case6 d value some other =>
      obtain ⟨d', -, understood⟩ := exists_of_bind_eq_ok read
      cases understood
      cases value with
      | nil => exact absurd rfl some
      | cons c value => exact .inr ⟨_, .behind value fun same => other value (by rw [same])⟩
  | case7 => cases read

/-- A name ends before the first equals sign, if there is one. -/
theorem split_name (name : List Char) :
    ∃ front, name.takeWhile (· ≠ '=') = front ∧
      (name.dropWhile (· ≠ '=') = [] ∧ name = front ∨
        ∃ value, name.dropWhile (· ≠ '=') = '=' :: value ∧ name = front ++ '=' :: value) := by
  have whole := List.takeWhile_append_dropWhile (p := (· ≠ '=')) (l := name)
  have ends := List.head?_dropWhile_not (· ≠ '=') name
  refine ⟨_, rfl, ?_⟩
  cases back : name.dropWhile (· ≠ '=') with
  | nil =>
      rw [back, List.append_nil] at whole
      exact .inl ⟨rfl, whole.symm⟩
  | cons c value =>
      rw [back] at ends whole
      obtain rfl : c = '=' := by simpa using ends
      exact .inr ⟨value, rfl, whole.symm⟩

theorem exists_named {p : Progress} {name : List Char}
    (read : readName argument d name = .ok p) :
    p = .help ∨ ∃ parts, Named name parts p.wants := by
  obtain ⟨front, before, ends⟩ := split_name name
  rw [readName, before] at read
  obtain ⟨behind, rfl⟩ | ⟨value, behind, rfl⟩ := ends
  · rw [behind] at read
    split at read
    · cases read
      exact .inl rfl
    · next called _ =>
      obtain rfl : name = "verbose".toList := by rw [← called, String.toList_ofList]
      obtain ⟨d', -, understood⟩ := exists_of_bind_eq_ok read
      cases understood
      exact .inr ⟨_, .verbose⟩
    · next called _ =>
      obtain rfl : name = "output".toList := by rw [← called, String.toList_ofList]
      cases read
      exact .inr ⟨_, .wanting⟩
    · next valued => cases valued
    · cases read
  · rw [behind] at read
    split at read
    · next valued => cases valued
    · next valued => cases valued
    · next valued => cases valued
    · next called valued =>
      obtain rfl : front = "output".toList := by rw [← called, String.toList_ofList]
      obtain ⟨d', -, understood⟩ := exists_of_bind_eq_ok read
      cases understood
      exact .inr ⟨_, .equals value⟩
    · cases read

theorem not_carryOut_of_help {i : Invocation} : readOn .help rest ≠ .ok (.carryOut i) := by
  rw [readOn]
  intro same
  cases same

/-- What the first argument is, when more of them are understood behind it. -/
theorem exists_of_readFrom_cons {i : Invocation}
    (understood : readFrom d (argument :: rest) = .ok (.carryOut i)) :
    argument = "--" ∨
      (∃ p parts, Opens argument.toList parts p.wants ∧ readOn p rest = .ok (.carryOut i)) ∨
      Stands argument ∧ ∃ d', readOn (.understood d') rest = .ok (.carryOut i) := by
  rw [readFrom] at understood
  split at understood
  · next text => exact .inl (String.toList_inj.mp text)
  · next text =>
    obtain ⟨p, read, understood⟩ := exists_of_bind_eq_ok understood
    obtain rfl | ⟨parts, named⟩ := exists_named read
    · exact absurd understood not_carryOut_of_help
    · exact .inr (.inl ⟨p, parts, by rw [text]; exact .name named, understood⟩)
  · next text =>
    obtain ⟨p, read, understood⟩ := exists_of_bind_eq_ok understood
    obtain rfl | ⟨parts, spelled⟩ := exists_letters read
    · exact absurd understood not_carryOut_of_help
    · exact .inr (.inl ⟨p, parts, by rw [text]; exact .letters (by simp) spelled, understood⟩)
  · next apart =>
    obtain ⟨d', -, understood⟩ := exists_of_bind_eq_ok understood
    have stands : Stands argument := by
      refine (Classical.em _).imp id fun other => ?_
      intro letters text
      cases letters with
      | nil => exact other (String.toList_inj.mp text)
      | cons c letters => exact apart c letters text
    exact .inr (.inr ⟨stands, d', readOn_understood.trans understood⟩)

/-- Arguments that ask for a plan are spelled; by induction on the arguments, also where the first
of them is a value. -/
theorem exists_spells {i : Invocation} {arguments : List String} {p : Progress}
    (understood : readOn p arguments = .ok (.carryOut i)) :
    ∃ parts, Spells p.wants arguments parts := by
  induction arguments generalizing p with
  | nil =>
      cases p with
      | help => exact absurd understood not_carryOut_of_help
      | wantsOutput d =>
          rw [readOn] at understood
          cases understood
      | understood d => exact ⟨_, .nil⟩
  | cons argument rest ih =>
      cases p with
      | help => exact absurd understood not_carryOut_of_help
      | wantsOutput d =>
          rw [readOn] at understood
          split at understood
          · cases understood
          · next stands =>
            obtain ⟨d', -, understood⟩ := exists_of_bind_eq_ok understood
            obtain ⟨parts, spelled⟩ := ih (readOn_understood.trans understood)
            rw [Bool.not_eq_true, looksLikeOption_eq_false_iff] at stands
            exact ⟨_, .value stands spelled⟩
      | understood d =>
          rw [readOn_understood] at understood
          obtain rfl | ⟨p, first, opens, understood⟩ | ⟨stands, d', understood⟩ :=
            exists_of_readFrom_cons understood
          · exact ⟨_, .plans rest⟩
          · obtain ⟨parts, spelled⟩ := ih understood
            exact ⟨_, .opens opens spelled⟩
          · obtain ⟨parts, spelled⟩ := ih understood
            exact ⟨_, .plan stands spelled⟩

/-- What arguments ask for is what their parts say. -/
theorem read_eq_carryOut_iff {arguments : List String} {i : Invocation} :
    read arguments = .ok (.carryOut i) ↔ Asks arguments i := by
  have part_by_part {parts : List Part} (spelled : Spells false arguments parts) :
      read arguments = Draft.takeAll {} parts >>= Draft.finish :=
    readOn_understood.symm.trans (spelled.readOn {})
  constructor
  · intro understood
    obtain ⟨parts, spelled⟩ := exists_spells (readOn_understood.trans understood)
    rw [part_by_part spelled] at understood
    exact ⟨parts, spelled, says_iff.mpr (exists_of_bind_eq_ok understood)⟩
  · rintro ⟨parts, spelled, said⟩
    obtain ⟨d, taken, finished⟩ := says_iff.mp said
    rw [part_by_part spelled, taken]
    exact finished

/-! ## The output option -/

/-- The four ways to name the directory of the summaries. -/
def outputOptions (directory : String) : List (List String) :=
  [["-o", directory], ["-o" ++ directory], ["--output", directory], ["--output=" ++ directory]]

theorem Spells.output {directory : String} {parts : List Part} {option : List String}
    (named : option ∈ outputOptions directory) (stands : Stands directory)
    (filled : directory ≠ "") (unsigned : ∀ value, directory.toList ≠ '=' :: value)
    (spelled : Spells false rest parts) :
    Spells false (option ++ rest) (.output directory :: parts) := by
  have whole : String.ofList directory.toList = directory := String.ofList_toList
  simp only [outputOptions, List.mem_cons, List.not_mem_nil, or_false] at named
  obtain rfl | rfl | rfl | rfl := named
  · have opens : Opens "-o".toList [] true := .letters (by simp) .wanting
    exact .opens opens (.value stands spelled)
  · have opens : Opens ("-o" ++ directory).toList [.output directory] false := by
      rw [String.toList_append]
      cases text : directory.toList with
      | nil => exact absurd (String.toList_eq_nil_iff.mp text) filled
      | cons c value =>
          have other : c ≠ '=' := fun same => unsigned value (by rw [text, same])
          rw [text] at whole
          rw [← whole]
          exact .letters (by simp) (.behind value other)
    exact .opens opens spelled
  · have opens : Opens "--output".toList [] true := .name .wanting
    exact .opens opens (.value stands spelled)
  · have opens : Opens ("--output=" ++ directory).toList [.output directory] false := by
      have equals : Opens ('-' :: '-' :: ("output=".toList ++ directory.toList))
          [.output (String.ofList directory.toList)] false := .name (.equals directory.toList)
      rw [whole] at equals
      rw [String.toList_append]
      exact equals
    exact .opens opens spelled

/-- In whichever of the four ways, before the plan or behind it: a directory that is named is the
one that is asked for. -/
theorem asks_output {directory file : String} {option : List String}
    (named : option ∈ outputOptions directory) (stands : Stands directory)
    (filled : directory ≠ "") (unsigned : ∀ value, directory.toList ≠ '=' :: value)
    (stands' : Stands file) (filled' : file ≠ "") :
    Asks (option ++ [file]) ⟨⟨file⟩, some ⟨directory⟩, false⟩ ∧
      Asks (file :: option) ⟨⟨file⟩, some ⟨directory⟩, false⟩ := by
  constructor
  · refine ⟨_, .output named stands filled unsigned (.plan stands' .nil), rfl, rfl, rfl, ?_⟩
    simp [filled.symm, filled'.symm]
  · have behind := Spells.nil.output named stands filled unsigned
    rw [List.append_nil] at behind
    refine ⟨_, .plan stands' behind, rfl, rfl, rfl, ?_⟩
    simp [filled.symm, filled'.symm]

end CommandLine

end SceneBench
