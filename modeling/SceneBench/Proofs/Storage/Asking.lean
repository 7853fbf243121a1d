import SceneBench.Storage.Action

/-!
# What an action asks

On its way through the answers of a host an action asks one question after the other, and the host
is in the state that these questions have brought it to. What an action may ask, whatever the
answers are, can be read off its tree; so an action that only ever looks leaves a host as it was
whose state no look changes.
-/

namespace SceneBench

/-- One question to the operating system. -/
inductive Question where
  | inspect (path : Path)
  | makeDirectory (path : Path)
  | removeTree (path : Path)
  | replaceFile (path : Path) (content : List UInt8)
  | openFile (path : Path)
  | currentDirectory
  | changeDirectory (path : Path)
  deriving DecidableEq, Repr

/-- The state of a host after it was asked. -/
def Host.after {σ : Type} (host : Host σ) (s : σ) : Question → σ
  | .inspect path => (host.inspect path s).2
  | .makeDirectory path => (host.makeDirectory path s).2
  | .removeTree path => (host.removeTree path s).2
  | .replaceFile path content => (host.replaceFile path content s).2
  | .openFile path => (host.openFile path s).2
  | .currentDirectory => (host.currentDirectory s).2
  | .changeDirectory path => (host.changeDirectory path s).2

namespace Action

variable {α β σ : Type} {P : Question → Prop}

/-! ## Questions of a run -/

/-- The questions that an action asks a host, in order. -/
def asked (host : Host σ) : Action α → σ → List Question
  | done _, _ => []
  | note _ next, s => next.asked host s
  | inspect path next, s =>
    .inspect path :: (next (host.inspect path s).1).asked host (host.inspect path s).2
  | makeDirectory path next, s =>
    .makeDirectory path ::
      (next (host.makeDirectory path s).1).asked host (host.makeDirectory path s).2
  | removeTree path next, s =>
    .removeTree path :: (next (host.removeTree path s).1).asked host (host.removeTree path s).2
  | replaceFile path content next, s =>
    .replaceFile path content ::
      (next (host.replaceFile path content s).1).asked host (host.replaceFile path content s).2
  | openFile path next, s =>
    .openFile path :: (next (host.openFile path s).1).asked host (host.openFile path s).2
  | currentDirectory next, s =>
    .currentDirectory ::
      (next (host.currentDirectory s).1).asked host (host.currentDirectory s).2
  | changeDirectory path next, s =>
    .changeDirectory path ::
      (next (host.changeDirectory path s).1).asked host (host.changeDirectory path s).2

@[simp] theorem asked_pure (host : Host σ) (value : α) (s : σ) :
    (pure value : Action α).asked host s = [] := rfl

@[simp] theorem asked_say (host : Host σ) (notice : Notice) (s : σ) :
    (say notice).asked host s = [] := rfl

/-- The questions of two actions, one after the other. -/
theorem asked_bind (host : Host σ) (a : Action α) (f : α → Action β) (w : World σ) :
    (a >>= f).asked host w.state =
      a.asked host w.state ++ (f (a.run host w).1).asked host (a.run host w).2.state := by
  show (a.andThen f).asked host w.state = _
  induction a generalizing w with
  | done value => rfl
  | note notice next ih => exact ih { w with log := w.log ++ [notice] }
  | inspect path next ih | openFile path next ih | makeDirectory path next ih
  | removeTree path next ih | currentDirectory next ih | changeDirectory path next ih
  | replaceFile path content next ih =>
      exact congrArg _ (ih _ { w with state := _ })

/-- A host is left in the state that the questions have brought it to. -/
theorem state_run (host : Host σ) (a : Action α) (w : World σ) :
    (a.run host w).2.state = (a.asked host w.state).foldl host.after w.state := by
  induction a generalizing w with
  | done value => rfl
  | note notice next ih => exact ih { w with log := w.log ++ [notice] }
  | inspect path next ih | openFile path next ih | makeDirectory path next ih
  | removeTree path next ih | currentDirectory next ih | changeDirectory path next ih
  | replaceFile path content next ih =>
      exact ih _ { w with state := _ }

/-! ## Questions of all runs -/

/-- All that an action may ask is of some sort, and so is all that it may come to. -/
def Asks (P : Question → Prop) (Q : α → Prop) : Action α → Prop
  | done value => Q value
  | note _ next => next.Asks P Q
  | inspect path next => P (.inspect path) ∧ ∀ answer, (next answer).Asks P Q
  | makeDirectory path next => P (.makeDirectory path) ∧ ∀ answer, (next answer).Asks P Q
  | removeTree path next => P (.removeTree path) ∧ ∀ answer, (next answer).Asks P Q
  | replaceFile path content next =>
    P (.replaceFile path content) ∧ ∀ answer, (next answer).Asks P Q
  | openFile path next => P (.openFile path) ∧ ∀ answer, (next answer).Asks P Q
  | currentDirectory next => P .currentDirectory ∧ ∀ answer, (next answer).Asks P Q
  | changeDirectory path next => P (.changeDirectory path) ∧ ∀ answer, (next answer).Asks P Q

/-- All that an action may ask is of some sort. -/
abbrev OnlyAsks (P : Question → Prop) (a : Action α) : Prop := a.Asks P fun _ => True

variable {Q : α → Prop} {R : β → Prop}

theorem asks_pure {value : α} (comes : Q value) : (pure value : Action α).Asks P Q := comes

theorem onlyAsks_pure (value : α) : (pure value : Action α).OnlyAsks P := trivial

theorem onlyAsks_say (notice : Notice) : (say notice).OnlyAsks P := trivial

theorem onlyAsks_sayAll (notices : List Notice) : (sayAll notices).OnlyAsks P := by
  induction notices with
  | nil => trivial
  | cons notice rest ih => exact ih

/-- What comes second may rely on what the first comes to. -/
theorem Asks.bind {a : Action α} {f : α → Action β} (first : a.Asks P Q)
    (second : ∀ value, Q value → (f value).Asks P R) : (a >>= f).Asks P R := by
  show (a.andThen f).Asks P R
  induction a with
  | done value => exact second value first
  | note notice next ih => exact ih first
  | inspect path next ih | openFile path next ih | makeDirectory path next ih
  | removeTree path next ih | currentDirectory next ih | changeDirectory path next ih
  | replaceFile path content next ih =>
      exact ⟨first.1, fun answer => ih answer (first.2 answer)⟩

theorem Asks.mono {a : Action α} (asks : a.Asks P Q) {P' : Question → Prop} {Q' : α → Prop}
    (further : ∀ q, P q → P' q) (comes : ∀ value, Q value → Q' value) : a.Asks P' Q' := by
  induction a with
  | done value => exact comes value asks
  | note notice next ih => exact ih asks
  | inspect path next ih | openFile path next ih | makeDirectory path next ih
  | removeTree path next ih | currentDirectory next ih | changeDirectory path next ih
  | replaceFile path content next ih =>
      exact ⟨further _ asks.1, fun answer => ih answer (asks.2 answer)⟩

/-- In any run nothing else is asked. -/
theorem Asks.asked {a : Action α} (asks : a.Asks P Q) (host : Host σ) (s : σ) :
    ∀ q ∈ a.asked host s, P q := by
  induction a generalizing s with
  | done value => exact fun q none' => nomatch none'
  | note notice next ih => exact ih asks s
  | inspect path next ih | openFile path next ih | makeDirectory path next ih
  | removeTree path next ih | currentDirectory next ih | changeDirectory path next ih
  | replaceFile path content next ih =>
      exact List.forall_mem_cons.mpr ⟨asks.1, ih _ (asks.2 _) _⟩

/-- What every such question keeps is kept. -/
theorem Asks.state_run {a : Action α} (asks : a.Asks P Q) {host : Host σ} {I : σ → Prop}
    (keeps : ∀ q s, P q → I s → I (host.after s q)) {w : World σ} (before : I w.state) :
    I (a.run host w).2.state := by
  rw [Action.state_run]
  have all := asks.asked host w.state
  generalize a.asked host w.state = questions at all ⊢
  generalize w.state = s at before ⊢
  induction questions generalizing s with
  | nil => exact before
  | cons q rest ih =>
      obtain ⟨first, others⟩ := List.forall_mem_cons.mp all
      exact ih others _ (keeps q s first before)

end Action

/-- To inspect an entry or open it for reading is only to look. -/
def Question.IsLook : Question → Prop
  | .inspect _ | .openFile _ => True
  | _ => False

end SceneBench
