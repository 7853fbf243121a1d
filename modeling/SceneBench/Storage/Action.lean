import SceneBench.Log
import SceneBench.Storage.Stream

/-!
# Actions

An action is what the program does on its way to a value: it asks the operating system questions,
goes on according to the answers, and notes things in the log. As a tree of questions it fixes
nothing about the answers. A `Host` gives them from a state of its own, and `Action.run` follows an
action through the answers of a host; what holds for every host holds whatever the operating system
does.
-/

namespace SceneBench

/-- What kind of entry a path leads to. -/
inductive EntryKind where
  | regular
  | directory
  | other
  deriving DecidableEq, Repr

/-- What the operating system tells of an entry. -/
structure EntryInfo where
  kind : EntryKind
  size : Nat
  deriving DecidableEq, Repr

/-- Why the content of a file was not replaced: it could not be opened, or not be written. -/
inductive ReplaceFault where
  | opening (error : OsError)
  | writing (error : OsError)
  deriving DecidableEq, Repr

/-- A program over the operating system. -/
inductive Action (α : Type) where
  | done (value : α)
  | note (notice : Notice) (next : Action α)
  | inspect (path : Path) (next : Except OsError EntryInfo → Action α)
  | makeDirectory (path : Path) (next : Except OsError Unit → Action α)
  | removeTree (path : Path) (next : Except OsError Unit → Action α)
  | replaceFile (path : Path) (content : List UInt8) (next : Except ReplaceFault Unit → Action α)
  | openFile (path : Path) (next : Except OsError Stream → Action α)
  | currentDirectory (next : Except OsError Path → Action α)
  | changeDirectory (path : Path) (next : Except OsError Unit → Action α)

namespace Action

variable {α β σ : Type}

/-- Go on from the value of an action. -/
def andThen : Action α → (α → Action β) → Action β
  | done value, f => f value
  | note notice next, f => note notice (next.andThen f)
  | inspect path next, f => inspect path fun r => (next r).andThen f
  | makeDirectory path next, f => makeDirectory path fun r => (next r).andThen f
  | removeTree path next, f => removeTree path fun r => (next r).andThen f
  | replaceFile path content next, f => replaceFile path content fun r => (next r).andThen f
  | openFile path next, f => openFile path fun r => (next r).andThen f
  | currentDirectory next, f => currentDirectory fun r => (next r).andThen f
  | changeDirectory path next, f => changeDirectory path fun r => (next r).andThen f

instance : Monad Action where
  pure := done
  bind := andThen

/-- Note one thing in the log. -/
def say (notice : Notice) : Action Unit := note notice (done ())

/-- Note several things in order. -/
def sayAll : List Notice → Action Unit
  | [] => done ()
  | notice :: rest => note notice (sayAll rest)

end Action

/-- Something that answers the questions of actions from a state. -/
structure Host (σ : Type) where
  inspect : Path → σ → Except OsError EntryInfo × σ
  makeDirectory : Path → σ → Except OsError Unit × σ
  removeTree : Path → σ → Except OsError Unit × σ
  replaceFile : Path → List UInt8 → σ → Except ReplaceFault Unit × σ
  openFile : Path → σ → Except OsError Stream × σ
  currentDirectory : σ → Except OsError Path × σ
  changeDirectory : Path → σ → Except OsError Unit × σ

/-- The state of a host together with the log so far. -/
structure World (σ : Type) where
  state : σ
  log : List Notice := []

namespace Action

variable {α β σ : Type}

/-- Follow an action through the answers of a host. -/
def run (host : Host σ) : Action α → World σ → α × World σ
  | done value, w => (value, w)
  | note notice next, w => next.run host { w with log := w.log ++ [notice] }
  | inspect path next, w =>
    let (answer, state) := host.inspect path w.state
    (next answer).run host { w with state }
  | makeDirectory path next, w =>
    let (answer, state) := host.makeDirectory path w.state
    (next answer).run host { w with state }
  | removeTree path next, w =>
    let (answer, state) := host.removeTree path w.state
    (next answer).run host { w with state }
  | replaceFile path content next, w =>
    let (answer, state) := host.replaceFile path content w.state
    (next answer).run host { w with state }
  | openFile path next, w =>
    let (answer, state) := host.openFile path w.state
    (next answer).run host { w with state }
  | currentDirectory next, w =>
    let (answer, state) := host.currentDirectory w.state
    (next answer).run host { w with state }
  | changeDirectory path next, w =>
    let (answer, state) := host.changeDirectory path w.state
    (next answer).run host { w with state }

@[simp] theorem run_pure (host : Host σ) (value : α) (w : World σ) :
    (pure value : Action α).run host w = (value, w) := rfl

/-- Running two actions one after the other is running the second in the world the first leaves. -/
@[simp] theorem run_bind (host : Host σ) (a : Action α) (f : α → Action β) (w : World σ) :
    (a >>= f).run host w = (f (a.run host w).1).run host (a.run host w).2 := by
  show (a.andThen f).run host w = _
  induction a generalizing w with
  | done value => rfl
  | note notice next ih => exact ih _
  | inspect path next ih => exact ih _ _
  | makeDirectory path next ih => exact ih _ _
  | removeTree path next ih => exact ih _ _
  | replaceFile path content next ih => exact ih _ _
  | openFile path next ih => exact ih _ _
  | currentDirectory next ih => exact ih _ _
  | changeDirectory path next ih => exact ih _ _

end Action

end SceneBench
