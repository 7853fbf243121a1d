import SceneBench.Proofs.Storage.Asking
import SceneBench.Proofs.Storage.Standing
import SceneBench.Storage.Files

/-!
# Directories that are made

To make sure that a directory is there, a path and the paths that it runs through are tried.
Whatever fails on the way, and for whatever reason, all that was there stays as it was, and all that
is new are directories that one of these paths leads to.
-/

namespace SceneBench

namespace Disk

variable {d d' : Disk} {links : Nat} {q q' : Place} {name : String} {steps rest : List Step}
  {arrival arrival' : Arrival} {p : Path} {a b : Address}

/-! ## Walks in two parts -/

/-- Steps lead to one arrival. -/
theorem Leads.unique (leads : Leads d links q steps arrival)
    (leads' : Leads d links q steps arrival') : arrival = arrival' :=
  Except.ok.inj (leads.walk_eq.symm.trans leads'.walk_eq)

/-- Steps lead on from the directory that the steps before them lead to. -/
theorem Leads.append (leads : Leads d links q steps (.directory q'))
    (further : ∀ links, Leads d links q' rest arrival) :
    Leads d links q (steps ++ rest) arrival := by
  generalize reached : Arrival.directory q' = middle at leads
  induction leads with
  | arrived =>
      cases reached
      exact further _
  | stay next ih => exact .stay (ih reached)
  | slash next ih => exact .slash (ih reached)
  | up next ih => exact .up (ih reached)
  | into admits found next ih => exact .into admits found (ih reached)
  | link admits found next ih =>
      have onward := ih reached
      rw [List.append_assoc] at onward
      exact .link admits found onward
  | leaf => cases reached
  | missing => cases reached

/-- A walk is divided before its first step, or further on. -/
theorem Leads.split_cons {step : Step} {others : List Step}
    (leads : Leads d links q (step :: others) arrival) (whole : step :: others = steps ++ rest)
    (onward : ∀ steps', others = steps' ++ rest → ∃ middle fewer,
      Leads d links q (step :: steps') (.directory middle) ∧ Leads d fewer middle rest arrival) :
    ∃ middle fewer, Leads d links q steps (.directory middle) ∧
      Leads d fewer middle rest arrival := by
  rcases List.append_eq_cons_iff.mp whole.symm with ⟨rfl, rfl⟩ | ⟨steps', rfl, split⟩
  · exact ⟨q, links, .arrived, leads⟩
  · exact onward steps' split

/-- Where there are further steps, the steps before them lead to a directory. -/
theorem Leads.split {all : List Step} (leads : Leads d links q all arrival)
    (whole : all = steps ++ rest) (some' : rest ≠ []) :
    ∃ middle fewer, Leads d links q steps (.directory middle) ∧
      Leads d fewer middle rest arrival := by
  -- behind the last step there is nothing to divide
  have last {steps' : List Step} (split : [] = steps' ++ rest) : False :=
    some' (List.append_eq_nil_iff.mp split.symm).2
  induction leads generalizing steps with
  | arrived => exact (last whole).elim
  | stay next ih =>
      refine split_cons (.stay next) whole fun steps' split => ?_
      obtain ⟨middle, fewer, before, after⟩ := ih split
      exact ⟨middle, fewer, .stay before, after⟩
  | slash next ih =>
      refine split_cons (.slash next) whole fun steps' split => ?_
      obtain ⟨middle, fewer, before, after⟩ := ih split
      exact ⟨middle, fewer, .slash before, after⟩
  | up next ih =>
      refine split_cons (.up next) whole fun steps' split => ?_
      obtain ⟨middle, fewer, before, after⟩ := ih split
      exact ⟨middle, fewer, .up before, after⟩
  | into admits found next ih =>
      refine split_cons (.into admits found next) whole fun steps' split => ?_
      obtain ⟨middle, fewer, before, after⟩ := ih split
      exact ⟨middle, fewer, .into admits found before, after⟩
  | link admits found next ih =>
      refine split_cons (.link admits found next) whole fun steps' split => ?_
      rw [split, ← List.append_assoc] at ih
      obtain ⟨middle, fewer, before, after⟩ := ih rfl
      exact ⟨middle, fewer, .link admits found before, after⟩
  | leaf admits found kind =>
      exact split_cons (.leaf admits found kind) whole fun _ split => (last split).elim
  | missing admits found =>
      exact split_cons (.missing admits found) whole fun _ split => (last split).elim

/-- A trailing slash makes no difference to a path that leads to a directory. -/
theorem follow_eq_directory_iff :
    d.follow .visit p = .ok (.directory q) ↔
      refuse? p = none ∧ Leads d mostLinks (d.here.start p) p.innerSteps (.directory q) := by
  constructor
  · intro followed
    obtain ⟨proper, leads⟩ := leads_of_follow (by decide) followed
    refine ⟨proper, ?_⟩
    rw [Path.steps] at leads
    split at leads
    · obtain ⟨middle, fewer, before, after⟩ := leads.split rfl (List.cons_ne_nil _ _)
      cases after with
      | slash after =>
          cases after
          exact before
    · exact leads
  · rintro ⟨proper, leads⟩
    refine Leads.follow_eq proper ?_
    rw [Path.steps]
    split
    · exact leads.append fun _ => .slash .arrived
    · exact leads

/-! ## Ways that stay open -/

/-- The later disk has all directories, links and devices of the earlier one, and the same working
directory. -/
structure KeepsWays (d d' : Disk) : Prop where
  here : d'.here = d.here
  kept : ∀ b e, d.get? b = some e → (∀ content, e ≠ .leaf (.file content)) → d'.get? b = some e

theorem KeepsWays.held? (ways : d.KeepsWays d') {e : Entry} (found : d.held? q name = some e)
    (onward : ∀ content, e ≠ .leaf (.file content)) : d'.held? q name = some e := by
  have there := isLost_of_held? found
  rw [held?_of_not_isLost there] at found ⊢
  exact ways.kept _ _ found onward

/-- A directory is still found where it was found. -/
theorem Leads.keep (leads : Leads d links q steps (.directory q')) (ways : d.KeepsWays d') :
    Leads d' links q steps (.directory q') := by
  generalize reached : Arrival.directory q' = arrival at leads ⊢
  induction leads with
  | arrived => exact .arrived
  | stay next ih => exact .stay (ih reached)
  | slash next ih => exact .slash (ih reached)
  | up next ih => exact .up (ih reached)
  | into admits found next ih => exact .into admits (ways.held? found nofun) (ih reached)
  | link admits found next ih => exact .link admits (ways.held? found nofun) (ih reached)
  | leaf => cases reached
  | missing => cases reached

/-- A directory is found where it was missing before. -/
theorem Leads.keep_missing (leads : Leads d links q steps (.missing q' name))
    (ways : d.KeepsWays d') (found : d'.held? q' name = some .directory) :
    Leads d' links q steps (.directory ⟨q'.live ++ [name], []⟩) := by
  generalize reached : Arrival.missing q' name = arrival at leads
  induction leads with
  | arrived => cases reached
  | stay next ih => exact .stay (ih reached)
  | slash next ih => exact .slash (ih reached)
  | up next ih => exact .up (ih reached)
  | into admits found next ih => exact .into admits (ways.held? found nofun) (ih reached)
  | link admits found next ih => exact .link admits (ways.held? found nofun) (ih reached)
  | leaf => cases reached
  | missing admits _ =>
      cases reached
      exact .into admits found .arrived

theorem KeepsWays.follow (ways : d.KeepsWays d')
    (followed : d.follow .visit p = .ok (.directory q)) :
    d'.follow .visit p = .ok (.directory q) := by
  rw [follow_eq_directory_iff] at followed ⊢
  rw [ways.here]
  exact ⟨followed.1, followed.2.keep ways⟩

/-! ## Making directories -/

/-- What there is more on the later disk are directories that one of the paths leads to. -/
structure HasMade (ps : List Path) (d d' : Disk) : Prop where
  here : d'.here = d.here
  kept : ∀ b e, d.get? b = some e → d'.get? b = some e
  new : ∀ b, d.get? b = none → d'.get? b ≠ none →
    d'.get? b = some .directory ∧ ∃ p ∈ ps, d'.follow .visit p = .ok (.directory ⟨b, []⟩)

namespace HasMade

variable {ps : List Path}

theorem refl (ps : List Path) (d : Disk) : HasMade ps d d :=
  ⟨rfl, fun _ _ found => found, fun _ missing found => absurd missing found⟩

/-- What is no directory was there before. -/
theorem get?_leaf_iff (made : HasMade ps d d') (b : Address) (l : Leaf) :
    d'.get? b = some (.leaf l) ↔ d.get? b = some (.leaf l) := by
  constructor
  · intro found
    match before : d.get? b with
    | some e => rw [← found, made.kept b e before]
    | none =>
        obtain ⟨directory, -⟩ := made.new b before (by rw [found]; exact nofun)
        cases directory.symm.trans found
  · exact made.kept b _

/-- One more directory is made where one of the paths leads. -/
theorem put (made : HasMade ps d d') (standing : d'.Standing) (listed : p ∈ ps)
    (proper : refuse? p = none) (there : q.isLost = false)
    (leads : Leads d' mostLinks (d'.here.start p) p.innerSteps (.missing q name)) :
    HasMade ps d (d'.put (q.live ++ [name]) (.directory [])) := by
  have stands := leads.stands (standing.start p)
  have target : target? (.missing q name) = some (q.live ++ [name]) := by simp [target?, there]
  have after (b : Address) : (d'.put (q.live ++ [name]) (.directory [])).get? b =
      if b = q.live ++ [name] then some .directory else d'.get? b :=
    stands.get?_put target rfl b
  have missing : d'.get? (q.live ++ [name]) = none := by
    rw [← held?_of_not_isLost there]
    exact stands.2
  have ways : d'.KeepsWays (d'.put (q.live ++ [name]) (.directory [])) := by
    refine ⟨rfl, fun b e found _ => ?_⟩
    rw [after, if_neg fun same => ?_, found]
    rw [same, missing] at found
    cases found
  refine ⟨made.here, fun b e found => ?_, fun b before found => ?_⟩
  · have kept := made.kept b e found
    rw [after, if_neg fun same => ?_, kept]
    rw [same, missing] at kept
    cases kept
  · rw [after] at found ⊢
    split at found
    · next same =>
      refine ⟨if_pos same, p, listed, ?_⟩
      rw [same, follow_eq_directory_iff]
      refine ⟨proper, leads.keep_missing ways ?_⟩
      rw [held?_of_not_isLost there, after, if_pos rfl]
    · next other =>
      obtain ⟨directory, p', listed', followed⟩ := made.new b before found
      rw [if_neg other]
      exact ⟨directory, p', listed', ways.follow followed⟩

/-- To try one of the paths makes its directory or nothing. -/
theorem makeDirectory (made : HasMade ps d d') (standing : d'.Standing) (listed : p ∈ ps) :
    HasMade ps d (d'.makeDirectory p).2 := by
  rw [Disk.makeDirectory]
  split
  · exact made
  · next q name followed =>
    obtain ⟨proper, leads⟩ := leads_of_followSteps (settled_missing _ _ _) followed
    rw [make]
    split
    · exact made
    · next there => exact made.put standing listed proper (by simpa using there) leads
  · exact made

end HasMade

/-! ## Hosts that may fail -/

/-- A host of a disk on which any operation may fail at any time. What fails changes nothing, except
that a file may have been written in part. -/
structure MayFail (host : Host Disk) : Prop where
  inspect : ∀ p d, host.inspect p d = (d.inspect p, d) ∨ ∃ e, host.inspect p d = (.error e, d)
  makeDirectory : ∀ p d, host.makeDirectory p d = d.makeDirectory p ∨
    ∃ e, host.makeDirectory p d = (.error e, d)
  replaceFile : ∀ p content d, host.replaceFile p content d = d.replaceFile p content ∨
    ∃ fault d', host.replaceFile p content d = (.error fault, d') ∧
      (d' = d ∨ ∃ part, d' = (d.replaceFile p part).2)

theorem mayFail_host : MayFail Disk.host where
  inspect _ _ := .inl rfl
  makeDirectory _ _ := .inl rfl
  replaceFile _ _ _ := .inl rfl

end Disk

/-! ## Making sure of a directory -/

/-- To make one of some directories, or to look at something. -/
def Question.IsMaking (ps : List Path) : Question → Prop
  | .inspect _ => True
  | .makeDirectory p => p ∈ ps
  | _ => False

namespace Files

variable {ps : List Path} {p : Path} {further : List Path}

theorem asks_isDirectory (p : Path) : (isDirectory p).OnlyAsks (Question.IsMaking ps) := by
  refine ⟨trivial, fun told => ?_⟩
  cases told <;> trivial

theorem asks_unlessDirectory (p : Path) (e : OsError) :
    (unlessDirectory p e).OnlyAsks (Question.IsMaking ps) :=
  (asks_isDirectory p).bind fun _ _ => Action.onlyAsks_pure _

theorem asks_ensureDirectory (listed : p ∈ ps) :
    (ensureDirectory p).OnlyAsks (Question.IsMaking ps) := by
  refine ⟨listed, fun made => ?_⟩
  cases made with
  | error e => exact asks_unlessDirectory p e
  | ok done => trivial

theorem asks_tryDirectory (listed : p ∈ ps) {otherwise : Unit → Action (Except OsError Unit)}
    (others : (otherwise ()).OnlyAsks (Question.IsMaking ps)) :
    (tryDirectory p otherwise).OnlyAsks (Question.IsMaking ps) := by
  rw [tryDirectory]
  split
  · exact Action.onlyAsks_pure _
  · refine ⟨listed, fun made => ?_⟩
    cases made with
    | error e =>
        dsimp only
        split
        · exact others
        · exact asks_unlessDirectory p e
    | ok done => trivial

/-- Only the path and those it runs through are made; by induction on the latter. -/
theorem asks_makeWithParents (listed : p ∈ ps) (all : ∀ parent ∈ further, parent ∈ ps) :
    (makeWithParents p further).OnlyAsks (Question.IsMaking ps) := by
  induction further generalizing p with
  | nil => trivial
  | cons parent further ih =>
      obtain ⟨first, others⟩ := List.forall_mem_cons.mp all
      apply (asks_tryDirectory first (ih first others)).bind
      intro made _
      cases made with
      | error e => trivial
      | ok done => exact asks_ensureDirectory listed

theorem asks_makeDirectories (p : Path) :
    (makeDirectories p).OnlyAsks (Question.IsMaking (p :: p.parents)) :=
  asks_tryDirectory (List.mem_cons_self ..) <|
    asks_makeWithParents (List.mem_cons_self ..) fun _ => List.mem_cons_of_mem p

theorem asks_createDirectories (p : Path) :
    (createDirectories p).OnlyAsks (Question.IsMaking (p :: p.parents)) := by
  apply (asks_makeDirectories p).bind
  intro made _
  cases made with
  | error e => trivial
  | ok done => exact (asks_isDirectory p).bind fun _ _ => Action.onlyAsks_pure _

end Files

namespace Disk

variable {host : Host Disk} {w : World Disk}

/-- A question about directories makes one of them at most. -/
theorem MayFail.after_making (fails : MayFail host) {ps : List Path} {d d' : Disk} (q : Question)
    (making : q.IsMaking ps) (made : HasMade ps d d' ∧ d'.Standing) :
    HasMade ps d (host.after d' q) ∧ (host.after d' q).Standing := by
  obtain ⟨made, standing⟩ := made
  cases q with
  | inspect p =>
      have same : host.after d' (.inspect p) = d' := by
        rw [Host.after]
        rcases fails.inspect p d' with told | ⟨e, told⟩ <;> rw [told]
      rw [same]
      exact ⟨made, standing⟩
  | makeDirectory p =>
      rw [Host.after]
      rcases fails.makeDirectory p d' with told | ⟨e, told⟩
      · rw [told]
        exact ⟨made.makeDirectory standing making, standing.makeDirectory p⟩
      · rw [told]
        exact ⟨made, standing⟩
  | removeTree | replaceFile | openFile | currentDirectory | changeDirectory =>
      exact absurd making id

/-- Whatever comes of making sure of a directory, it and those on the way to it are all that is
new. -/
theorem MayFail.createDirectories (fails : MayFail host) (standing : w.state.Standing) (p : Path) :
    let w' := ((Files.createDirectories p).run host w).2
    HasMade (p :: p.parents) w.state w'.state ∧ w'.state.Standing :=
  (Files.asks_createDirectories p).state_run
    (I := fun d' => HasMade (p :: p.parents) w.state d' ∧ d'.Standing)
    (fun q _ making made => fails.after_making q making made) ⟨HasMade.refl _ _, standing⟩

/-- What is told to be a directory is one. -/
theorem MayFail.run_isDirectory (fails : MayFail host) (p : Path) (w : World Disk) :
    ((Files.isDirectory p).run host w).2 = w ∧ (((Files.isDirectory p).run host w).1 = true →
      ∃ q, w.state.follow .visit p = .ok (.directory q)) := by
  rw [Files.isDirectory, Action.run]
  rcases fails.inspect p w.state with told | ⟨e, told⟩
  · rw [told, Disk.inspect]
    dsimp only
    match followed : w.state.follow .visit p with
    | .error e => exact ⟨rfl, nofun⟩
    | .ok (.directory q) => exact ⟨rfl, fun _ => ⟨q, rfl⟩⟩
    | .ok (.leaf a (.file content)) => exact ⟨rfl, nofun⟩
    | .ok (.leaf a (.link goal)) | .ok (.leaf a (.device device)) => exact ⟨rfl, nofun⟩
    | .ok (.missing q name) => exact ⟨rfl, nofun⟩
  · rw [told]
    exact ⟨rfl, nofun⟩

/-- A directory that was made sure of is there. -/
theorem MayFail.exists_of_createDirectories (fails : MayFail host) {p : Path}
    (ok : ((Files.createDirectories p).run host w).1 = .ok ()) :
    ∃ q, ((Files.createDirectories p).run host w).2.state.follow .visit p =
      .ok (.directory q) := by
  rw [Files.createDirectories, Action.run_bind] at ok ⊢
  generalize (Files.makeDirectories p).run host w = made at ok ⊢
  obtain ⟨result, w'⟩ := made
  cases result with
  | error e => cases ok
  | ok done =>
      obtain ⟨same, there⟩ := fails.run_isDirectory p w'
      simp only [Action.run_bind, Action.run_pure] at ok ⊢
      rw [same]
      refine there ?_
      split at ok
      · next directory => exact directory
      · cases ok

end Disk

end SceneBench
