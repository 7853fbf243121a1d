import SceneBench.Proofs.Storage.Ancestors

/-!
# Making sure of a directory

To make sure of a directory is to try it first, then the paths that lead to it, the nearest first,
and then it once more; a directory that is there already is as good as one that was made. It ends
well if and only if the path leads to a directory in the end, however far it got and whatever failed
on the way: if one of the paths that lead to it is no directory, then neither is the path. Once a
directory is there, making sure of it again does nothing.
-/

namespace SceneBench

namespace Disk

variable {d d' : Disk} {links : Nat} {q q' : Place} {steps rest : List Step} {p p' : Path}

/-! ## The way to a directory -/

/-- A path leads to a directory. -/
def HasDirectory (d : Disk) (p : Path) : Prop := ∃ q, d.follow .visit p = .ok (.directory q)

theorem HasDirectory.text_ne (there : d.HasDirectory p) : p.text ≠ "" := by
  intro none'
  obtain ⟨q, followed⟩ := there
  obtain ⟨proper, -⟩ := follow_eq_directory_iff.mp followed
  simp [refuse?, none', longestPath] at proper

/-- Without steps that stay where they are, steps lead to the same directory. -/
theorem Leads.shed {fewer : List Step} (leads : Leads d links q steps (.directory q'))
    (sheds : Path.Sheds steps fewer) : Leads d links q fewer (.directory q') := by
  generalize reached : Arrival.directory q' = arrival at leads ⊢
  induction leads generalizing fewer with
  | arrived =>
      cases sheds
      exact .arrived
  | stay further ih =>
      cases sheds with
      | keep _ others => exact .stay (ih others reached)
      | shed others => exact ih others reached
  | slash further ih =>
      cases sheds with
      | keep _ others => exact .slash (ih others reached)
  | up further ih =>
      cases sheds with
      | keep _ others => exact .up (ih others reached)
  | into admits found further ih =>
      cases sheds with
      | keep _ others => exact .into admits found (ih others reached)
  | link admits found further ih =>
      cases sheds with
      | keep _ others => exact .link admits found (ih (others.append_left _) reached)
  | leaf => cases reached
  | missing => cases reached

/-- On the way to a directory there are directories. -/
theorem Leads.front (leads : Leads d links q (steps ++ rest) (.directory q')) :
    ∃ middle, Leads d links q steps (.directory middle) := by
  by_cases whole : rest = []
  · rw [whole, List.append_nil] at leads
    exact ⟨q', leads⟩
  · obtain ⟨middle, fewer, before, -⟩ := leads.split rfl whole
    exact ⟨middle, before⟩

/-- A path may be followed if its text is that of such a path with characters left out. -/
theorem refuse?_of_sublist (proper : refuse? p = none)
    (sub : p'.text.toList.Sublist p.text.toList) (some' : p'.text ≠ "") : refuse? p' = none := by
  have size (path : Path) : path.text.utf8ByteSize = String.utf8Len path.text.toList := by
    rw [← String.utf8ByteSize_ofList, String.ofList_toList]
  have shorter := String.utf8Len_le_of_sublist sub
  rw [← size, ← size] at shorter
  simp only [refuse?] at proper ⊢
  split at proper
  · cases proper
  · next plain =>
    split at proper
    · cases proper
    · next short =>
      have plain' : ¬ p'.text.toList.contains '\x00' = true := by
        simp only [List.contains_iff_mem] at plain ⊢
        exact fun listed => plain (sub.subset listed)
      rw [if_neg plain', if_neg (by omega), if_neg (by simpa using some')]

/-- A path that leads to a directory runs through directories. -/
theorem HasDirectory.through (there : d.HasDirectory p) (through : p.RunsThrough p')
    (some' : p'.text ≠ "") : d.HasDirectory p' := by
  obtain ⟨q, followed⟩ := there
  obtain ⟨proper, leads⟩ := follow_eq_directory_iff.mp followed
  have start : d.here.start p' = d.here.start p := by
    simp only [Place.start, through.same_start some']
  obtain ⟨further, steps⟩ := through.prefix_innerSteps
  have onward := leads.shed (Path.sheds_innerSteps p)
  rw [← steps] at onward
  obtain ⟨middle, before⟩ := onward.front
  refine ⟨middle, follow_eq_directory_iff.mpr ⟨?_, start ▸ before⟩⟩
  exact refuse?_of_sublist proper through.sublist some'

/-! ## Making one directory -/

/-- Not to follow a link at the end makes no difference to a directory, or ends at the link. -/
theorem Leads.walk_visitLink (leads : Leads d links q steps (.directory q')) :
    walk .visitLink links (d.trail q) steps = .ok (.directory q') ∨
      ∃ a goal, walk .visitLink links (d.trail q) steps = .ok (.leaf a (.link goal)) := by
  have visits (rest : List Step) : ¬ (Purpose.visitLink = .write ∧ rest = [.slash]) := nofun
  generalize reached : Arrival.directory q' = arrival at leads ⊢
  induction leads with
  | @arrived links q =>
      obtain ⟨jump, walks⟩ := exists_walk_eq .visitLink links
      rw [walks, walkWith, place_trail]
      exact .inl rfl
  | @stay links q rest arrival further ih | @slash links q rest arrival further ih =>
      obtain ⟨jump, walks⟩ := exists_walk_eq .visitLink links
      rw [walks] at ih ⊢
      exact ih reached
  | @up links q rest arrival further ih =>
      obtain ⟨jump, walks⟩ := exists_walk_eq .visitLink links
      rw [walks] at ih ⊢
      rw [walkWith, up_trail]
      exact ih reached
  | @into links q name rest arrival admits found further ih =>
      obtain ⟨jump, walks⟩ := exists_walk_eq .visitLink links
      rw [walks] at ih ⊢
      rw [walkWith_enter admits (visits rest), found]
      exact ih reached
  | @link links q name rest arrival target admits found further ih =>
      rw [walk, walkWith_enter admits (visits rest), found]
      dsimp only
      split
      · exact .inr ⟨_, _, rfl⟩
      · exact ih reached
  | leaf => cases reached
  | missing => cases reached

/-- Where there is a directory none is made. -/
theorem makeDirectory_of_hasDirectory (there : d.HasDirectory p) :
    d.makeDirectory p = (.error .alreadyExists, d) := by
  obtain ⟨q, followed⟩ := there
  obtain ⟨proper, leads⟩ := follow_eq_directory_iff.mp followed
  rw [makeDirectory, followSteps, proper, start_trail_eq]
  dsimp only
  obtain arrived | ⟨a, goal, arrived⟩ := leads.walk_visitLink
  · rw [arrived]
  · rw [arrived]

theorem eq_of_makeDirectory {e : OsError} (failed : d.makeDirectory p = (.error e, d')) :
    d' = d := by
  rw [Disk.makeDirectory] at failed
  split at failed
  · exact (congrArg Prod.snd failed).symm
  · next q name followed =>
    rw [make] at failed
    split at failed
    · exact (congrArg Prod.snd failed).symm
    · cases failed
  · exact (congrArg Prod.snd failed).symm

/-- A directory that was made is there. -/
theorem hasDirectory_of_makeDirectory (standing : d.Standing)
    (ok : d.makeDirectory p = (.ok (), d')) : d'.HasDirectory p := by
  have made : HasMade [p] d (d.makeDirectory p).2 :=
    (HasMade.refl [p] d).makeDirectory standing (List.mem_singleton_self p)
  rw [ok] at made
  rw [Disk.makeDirectory] at ok
  split at ok
  · cases ok
  · next q name followed =>
    have stands := standing.stands (settled_missing _ _ _) followed
    rw [make] at ok
    split at ok
    · cases ok
    · next there =>
      obtain rfl := congrArg Prod.snd ok
      have missing := stands.2
      rw [held?_of_not_isLost (by simpa using there)] at missing
      have found : (d.put (q.live ++ [name]) (.directory [])).get? (q.live ++ [name]) ≠ none := by
        rw [get?_put_self (by simp)]
        exact Option.some_ne_none _
      obtain ⟨-, p', listed, onward⟩ := made.new _ missing found
      exact ⟨_, List.mem_singleton.mp listed ▸ onward⟩
  · cases ok

/-! ## Hosts that say what is there -/

/-- A host on which the making of a directory may fail at any time, but which is right about what is
there, and about what is missing. -/
structure Truthful (host : Host Disk) : Prop extends MayFail host where
  told : ∀ p d, host.inspect p d = (d.inspect p, d)
  missing : ∀ {p d e d'}, host.makeDirectory p d = (.error e, d') → e.kind = .notFound →
    d.makeDirectory p = (.error e, d')

theorem truthful_host : Truthful Disk.host where
  toMayFail := mayFail_host
  told _ _ := rfl
  missing failed _ := failed

namespace Truthful

variable {host : Host Disk} {w : World Disk}

theorem run_isDirectory (truthful : Truthful host) (p : Path) (w : World Disk) :
    ((Files.isDirectory p).run host w).2 = w ∧
      (((Files.isDirectory p).run host w).1 = true ↔ w.state.HasDirectory p) := by
  rw [Files.isDirectory, Action.run, truthful.told, Disk.inspect, HasDirectory]
  cases w.state.follow .visit p with
  | error e => simp [Action.run_pure]
  | ok arrival =>
      cases arrival with
      | directory q => simp [Action.run_pure]
      | leaf a leaf => cases leaf <;> simp [Action.run_pure]
      | missing q name => simp [Action.run_pure]

/-- A directory that is there is not said to be missing. -/
theorem not_hasDirectory_of_missing (truthful : Truthful host) {e : OsError}
    (failed : host.makeDirectory p d = (.error e, d')) (missing : e.kind = .notFound) :
    ¬ d.HasDirectory p := by
  intro there
  have own := truthful.missing failed missing
  rw [makeDirectory_of_hasDirectory there] at own
  cases own
  cases missing

/-- A directory is made and then it is there, or nothing is made. -/
theorem makeDirectory_cases (truthful : Truthful host) (standing : d.Standing) (p : Path) :
    (∃ d', host.makeDirectory p d = (.ok (), d') ∧ d'.Standing ∧ d'.HasDirectory p) ∨
      ∃ e, host.makeDirectory p d = (.error e, d) := by
  obtain own | failed := truthful.makeDirectory p d
  · rcases made : d.makeDirectory p with ⟨answer, d'⟩
    have kept := standing.makeDirectory p
    rw [made] at own kept
    cases answer with
    | ok done => exact .inl ⟨d', own, kept, hasDirectory_of_makeDirectory standing made⟩
    | error e =>
        obtain rfl := eq_of_makeDirectory made
        exact .inr ⟨e, own⟩
  · exact .inr failed

end Truthful

/-- An attempt at a directory that ends well if and only if the path leads to a directory then. -/
structure Settles (host : Host Disk) (p : Path) (act : Action (Except OsError Unit))
    (w : World Disk) : Prop where
  standing : (act.run host w).2.state.Standing
  ok_iff : (act.run host w).1 = .ok () ↔ (act.run host w).2.state.HasDirectory p

theorem Settles.congr {host : Host Disk} {act act' : Action (Except OsError Unit)}
    {w w' : World Disk} (settles : Settles host p act w)
    (same : act'.run host w' = act.run host w) : Settles host p act' w' := by
  obtain ⟨standing, ok_iff⟩ := settles
  rw [← same] at standing ok_iff
  exact ⟨standing, ok_iff⟩

namespace Truthful

variable {host : Host Disk} {w : World Disk} {further : List Path}

open Files

/-! ## Attempts -/

theorem settles_unlessDirectory (truthful : Truthful host) (standing : w.state.Standing)
    (p : Path) (e : OsError) : Settles host p (unlessDirectory p e) w := by
  obtain ⟨same, told⟩ := truthful.run_isDirectory p w
  constructor
  · simpa only [unlessDirectory, Action.run_bind, Action.run_pure, same] using standing
  · simp only [unlessDirectory, Action.run_bind, Action.run_pure, same, ← told]
    split <;> simp_all

theorem settles_ensureDirectory (truthful : Truthful host) (standing : w.state.Standing)
    (p : Path) : Settles host p (ensureDirectory p) w := by
  obtain ⟨d', made, standing', there⟩ | ⟨e, failed⟩ := truthful.makeDirectory_cases standing p
  · have run : (ensureDirectory p).run host w = (.ok (), { w with state := d' }) := by
      simp only [ensureDirectory, Action.run, made, Action.run_pure]
    constructor
    · simpa only [run] using standing'
    · simp only [run, there]
  · refine (truthful.settles_unlessDirectory standing p e).congr ?_
    simp only [ensureDirectory, Action.run, failed]

/-- If the place of the directory is missing, then another attempt is made. -/
theorem settles_tryDirectory (truthful : Truthful host) (standing : w.state.Standing)
    (some' : p.text ≠ "") {otherwise : Unit → Action (Except OsError Unit)}
    (others : ¬ w.state.HasDirectory p → Settles host p (otherwise ()) w) :
    Settles host p (tryDirectory p otherwise) w := by
  have given : ¬ p.text.isEmpty = true := by simpa using some'
  obtain ⟨d', made, standing', there⟩ | ⟨e, failed⟩ := truthful.makeDirectory_cases standing p
  · have run : (tryDirectory p otherwise).run host w = (.ok (), { w with state := d' }) := by
      simp only [tryDirectory, if_neg given, Action.run, made, Action.run_pure]
    constructor
    · simpa only [run] using standing'
    · simp only [run, there]
  · by_cases kind : e.kind = .notFound
    · refine (others (truthful.not_hasDirectory_of_missing failed kind)).congr ?_
      simp only [tryDirectory, if_neg given, Action.run, failed, if_pos kind]
    · refine (truthful.settles_unlessDirectory standing p e).congr ?_
      simp only [tryDirectory, if_neg given, Action.run, failed, if_neg kind]

/-- If one of the paths that lead to it is no directory then neither is the path; by induction on
these paths. -/
theorem settles_makeWithParents (truthful : Truthful host) (standing : w.state.Standing)
    (through : (p :: further).Pairwise Path.RunsThrough) (missing : ¬ w.state.HasDirectory p) :
    Settles host p (makeWithParents p further) w := by
  induction further generalizing p w with
  | nil => exact ⟨standing, nofun, fun there => absurd there missing⟩
  | cons parent further ih =>
      obtain ⟨above, others⟩ := List.pairwise_cons.mp through
      have parentThrough := above parent (List.mem_cons_self ..)
      by_cases none' : parent.text = ""
      · -- the working directory needs no making
        refine (truthful.settles_ensureDirectory standing p).congr ?_
        have start : tryDirectory parent (fun _ => makeWithParents parent further) =
            pure (.ok ()) := if_pos (by simp [none'])
        simp only [makeWithParents, start, Action.run_bind, Action.run_pure]
      · have first : Settles host parent
            (tryDirectory parent fun _ => makeWithParents parent further) w :=
          truthful.settles_tryDirectory standing none' (ih standing others)
        rcases attempt : (tryDirectory parent fun _ => makeWithParents parent further).run host w
          with ⟨answer, w'⟩
        obtain ⟨standing', ok_iff⟩ := first
        rw [attempt] at standing' ok_iff
        cases answer with
        | ok done =>
            refine (truthful.settles_ensureDirectory standing' p).congr ?_
            simp only [makeWithParents, Action.run_bind, attempt]
        | error e =>
            have run : (makeWithParents p (parent :: further)).run host w = (.error e, w') := by
              simp only [makeWithParents, Action.run_bind, attempt, Action.run_pure]
            constructor
            · simpa only [run] using standing'
            · rw [run]
              refine ⟨nofun, fun there => ?_⟩
              cases ok_iff.mpr (there.through parentThrough none')

/-! ## Making sure -/

/-- Making sure of a directory ends well if and only if the directory is there then. -/
theorem createDirectories_ok_iff (truthful : Truthful host) (standing : w.state.Standing)
    (p : Path) : ((createDirectories p).run host w).1 = .ok () ↔
      ((createDirectories p).run host w).2.state.HasDirectory p := by
  rcases attempt : (makeDirectories p).run host w with ⟨answer, w'⟩
  cases answer with
  | error e =>
      have run : (createDirectories p).run host w = (.error (.createDirectory p e), w') := by
        simp only [createDirectories, Action.run_bind, attempt, Action.run_pure]
      rw [run]
      constructor
      · intro ok
        cases ok
      · intro there
        have settles : Settles host p (makeDirectories p) w :=
          truthful.settles_tryDirectory standing there.text_ne
            (truthful.settles_makeWithParents standing p.pairwise_parents)
        have ok_iff := settles.ok_iff
        rw [attempt] at ok_iff
        cases ok_iff.mpr there
  | ok done =>
      obtain ⟨same, told⟩ := truthful.run_isDirectory p w'
      simp only [createDirectories, Action.run_bind, attempt, Action.run_pure, same, ← told]
      split <;> simp_all

/-- Making sure of a directory that is there does nothing. -/
theorem createDirectories_of_hasDirectory (truthful : Truthful host)
    (there : w.state.HasDirectory p) : (createDirectories p).run host w = (.ok (), w) := by
  obtain ⟨same, told⟩ := truthful.run_isDirectory p w
  have given : ¬ p.text.isEmpty = true := by simpa using there.text_ne
  obtain ⟨e, failed⟩ : ∃ e, host.makeDirectory p w.state = (.error e, w.state) := by
    obtain own | failed := truthful.makeDirectory p w.state
    · exact ⟨_, own.trans (makeDirectory_of_hasDirectory there)⟩
    · exact failed
  have kind : ¬ e.kind = .notFound := fun missing =>
    truthful.not_hasDirectory_of_missing failed missing there
  have made : (makeDirectories p).run host w = (.ok (), w) := by
    simp only [makeDirectories, tryDirectory, if_neg given, Action.run, failed, if_neg kind,
      unlessDirectory, Action.run_bind, told.mpr there, same, Action.run_pure, if_true]
  simp only [createDirectories, Action.run_bind, made, told.mpr there, same, Action.run_pure,
    if_true]

end Truthful

/-- What making sure of a directory has come to, and what it has done to a disk on the way. -/
structure Ensures (p : Path) (d d' : Disk) (answer : Except FileError Unit) : Prop where
  ok_iff : answer = .ok () ↔ d'.HasDirectory p
  here : d'.here = d.here
  /-- Whatever was there is there as it was. -/
  kept : ∀ a e, d.get? a = some e → d'.get? a = some e
  /-- All that is new are directories where the path leads, or the first components of it. -/
  new : ∀ a e, d.get? a = none → d'.get? a = some e → e = .directory ∧
    ∃ p', p'.components <+: p.components ∧ d'.follow .visit p' = .ok (.directory ⟨a, []⟩)
  /-- In a new directory there is nothing that is not new as well. -/
  within : ∀ a b e, d.get? a = none → d'.get? (a ++ b) = some e → d.get? (a ++ b) = none

/-- Whether or not a directory can be had, nothing is lost; and once it is there it stays as it
is. -/
theorem Truthful.directory_ensured {host : Host Disk} (truthful : Truthful host)
    (standing : d.Standing) (p : Path) (log : List Notice) :
    let first := (Files.createDirectories p).run host ⟨d, log⟩
    Ensures p d first.2.state first.1 ∧
      (first.1 = .ok () → (Files.createDirectories p).run host first.2 = (.ok (), first.2)) := by
  intro first
  have ok_iff : first.1 = .ok () ↔ first.2.state.HasDirectory p :=
    truthful.createDirectories_ok_iff (w := ⟨d, log⟩) standing p
  obtain ⟨made, -⟩ : HasMade (p :: p.parents) d first.2.state ∧ first.2.state.Standing :=
    truthful.createDirectories (w := ⟨d, log⟩) standing p
  constructor
  · constructor
    case ok_iff => exact ok_iff
    case here => exact made.here
    case kept => exact made.kept
    case new =>
      intro a e before found
      obtain ⟨directory, p', listed, followed⟩ := made.new a before (by simp [found])
      refine ⟨Option.some.inj (found.symm.trans directory), p', ?_, followed⟩
      rcases List.mem_cons.mp listed with rfl | listed
      · exact List.prefix_refl _
      · exact (Path.runsThrough_of_mem_parents listed).prefix_components
    case within =>
      intro a b e before found
      match old : d.get? (a ++ b) with
      | none => rfl
      | some e' =>
          by_cases below : b = []
          · rw [below, List.append_nil, before] at old
            cases old
          · rw [get?_of_append old below] at before
            cases before
  · exact fun ok => truthful.createDirectories_of_hasDirectory (ok_iff.mp ok)

/-- A disk with a link to a directory beside the working directory. -/
def crossed : Disk where
  root := [("work", .directory [("jump", .leaf (.link ⟨"../else"⟩))]), ("else", .directory [])]
  here := ⟨["work"], []⟩

/-- Directories are made on both sides of a link, and a step up leads out of a new one. -/
theorem directory_ensured_crossed :
    Truthful Disk.host ∧ crossed.Standing ∧ ∃ w,
      (Files.createDirectories ⟨"new/../jump/a/b"⟩).run Disk.host ⟨crossed, []⟩ = (.ok (), w) ∧
        Ensures ⟨"new/../jump/a/b"⟩ crossed w.state (.ok ()) ∧
        (Files.createDirectories ⟨"new/../jump/a/b"⟩).run Disk.host w = (.ok (), w) ∧
        w.state.get? ["work", "new"] = some .directory ∧
        w.state.get? ["else", "a", "b"] = some .directory := by
  have standing : crossed.Standing := by rfl
  have whole := truthful_host.directory_ensured standing ⟨"new/../jump/a/b"⟩ []
  have ended : ((Files.createDirectories ⟨"new/../jump/a/b"⟩).run Disk.host
      ⟨crossed, []⟩).1.isOk = true := by decide +kernel
  have found : ((Files.createDirectories ⟨"new/../jump/a/b"⟩).run Disk.host
      ⟨crossed, []⟩).2.state.get? ["work", "new"] = some .directory := by decide +kernel
  have found' : ((Files.createDirectories ⟨"new/../jump/a/b"⟩).run Disk.host
      ⟨crossed, []⟩).2.state.get? ["else", "a", "b"] = some .directory := by decide +kernel
  generalize (Files.createDirectories ⟨"new/../jump/a/b"⟩).run Disk.host ⟨crossed, []⟩ = first
    at whole ended found found' ⊢
  obtain ⟨answer, w⟩ := first
  cases answer with
  | error e => cases ended
  | ok done =>
      exact ⟨truthful_host, standing, w, rfl, whole.1, whole.2 rfl, found, found'⟩

-- What was made on the way stays when a link turns out to lead nowhere.
example : let d : Disk := ⟨[("loose", .leaf (.link ⟨"nowhere"⟩))], .root⟩
    let first := (Files.createDirectories ⟨"new/../loose/b"⟩).run Disk.host ⟨d, []⟩
    first.1.isOk = false ∧ first.2.state.get? ["new"] = some .directory := by
  decide +kernel

end Disk

end SceneBench
