import SceneBench.Proofs.Storage.Joining
import SceneBench.Summary

/-!
# The files of summaries

Every summary has a file of its own, because no two identities have the same name. So writing one
file touches no other, and however far a list of summaries gets before the first failure, the files
of those before it are complete, those of the others are as they were, and besides there is nothing
new but the directory and what was missing on the way to it.
-/

namespace SceneBench

namespace Disk

variable {host : Host Disk} {d d' d'' : Disk} {q : Place} {p name : Path} {a : Address}
  {content : List UInt8}

/-! ## One file -/

/-- Nothing changed but the file at an address, if it is one. -/
structure WritesAt (a : Address) (d d' : Disk) : Prop where
  here : d'.here = d.here
  others : ∀ b, b ≠ a → d'.get? b = d.get? b
  self : d'.get? a = d.get? a ∨ ∀ e, d.get? a = some e → ∃ old, e = .leaf (.file old)

theorem WritesAt.refl (a : Address) (d : Disk) : WritesAt a d d :=
  ⟨rfl, fun _ _ => rfl, .inl rfl⟩

theorem WritesAt.keepsWays (writes : WritesAt a d d') : d.KeepsWays d' := by
  refine ⟨writes.here, fun b e found onward => ?_⟩
  by_cases same : b = a
  · subst same
    rcases writes.self with unchanged | file
    · rw [unchanged, found]
    · obtain ⟨old, rfl⟩ := file e found
      exact absurd rfl (onward old)
  · rw [writes.others b same, found]

theorem KeepsWays.trans (ways : d.KeepsWays d') (ways' : d'.KeepsWays d'') : d.KeepsWays d'' :=
  ⟨ways'.here.trans ways.here,
    fun b e found onward => ways'.kept b e (ways.kept b e found onward) onward⟩

theorem KeepsWays.standing (ways : d.KeepsWays d') (standing : d.Standing) : d'.Standing := by
  rw [Standing, ways.here]
  exact ways.kept _ _ standing nofun

/-- What can be written under a name of a directory that is no link there goes to that name, unless
a device takes it. -/
theorem replaceFile_join (standing : d.Standing) (isName : name.IsName)
    (directory : d.follow .visit p = .ok (.directory q))
    (own : ∀ goal, d.held? q name.text ≠ some (.leaf (.link goal)))
    (written : d.replaceFile (p.join name) content = (.ok (), d')) :
    WritesAt (q.live ++ [name.text]) d d' ∧ refuse? (p.join name) = none ∧
      Admits q name.text ∧ q.isLost = false ∧
      (d'.get? (q.live ++ [name.text]) = some (.leaf (.file content)) ∨
        ∃ device, d.held? q name.text = some (.leaf (.device device))) := by
  obtain ⟨arrival, followed, taken⟩ := exists_of_replaceFile written
  obtain ⟨proper, links, leads⟩ := leads_of_follow_join isName directory (by decide) followed
  have stands := leads.stands (standing.get?_of_follow directory)
  rcases taken with ⟨a, target, rfl⟩ | ⟨rfl, a, device, rfl⟩
  · have after (b : Address) : (d.put a (.leaf (.file content))).get? b =
        if b = a then some (.leaf (.file content)) else d.get? b := stands.get?_put target rfl b
    have file := (stands.target target).1
    obtain ⟨rfl, admits, kept⟩ : a = q.live ++ [name.text] ∧ Admits q name.text ∧
        q.isLost = false := by
      cases leads with
      | into admits found further =>
          cases further
          cases target
      | link admits found further => exact absurd found (own _)
      | @leaf _ _ _ l admits found kind =>
          obtain ⟨old, same⟩ | ⟨_, _, same, -⟩ := exists_of_target? target
          · cases same
            exact ⟨rfl, admits, isLost_of_held? found⟩
          · cases same
      | missing admits found =>
          obtain ⟨old, same⟩ | ⟨_, _, same, kept, rfl⟩ := exists_of_target? target
          · cases same
          · cases same
            exact ⟨rfl, admits, kept⟩
    refine ⟨⟨rfl, fun b other => ?_, .inr file⟩, proper, admits, kept, .inl ?_⟩
    · rw [after, if_neg other]
    · rw [after, if_pos rfl]
  · cases leads with
    | into admits found further => cases further
    | link admits found further => exact absurd found (own _)
    | leaf admits found kind =>
        exact ⟨.refl _ _, proper, admits, isLost_of_held? found, .inr ⟨device, found⟩⟩

/-- To write a file of a directory touches that file at most, also where it fails. What was written
without an error is there in whole, unless a device took it. -/
theorem MayFail.run_writeText (fails : MayFail host) (standing : d.Standing)
    (isName : name.IsName) (directory : d.follow .visit p = .ok (.directory q))
    (own : ∀ goal, d.held? q name.text ≠ some (.leaf (.link goal))) (text : String)
    (log : List Notice) :
    let out := (Files.writeText (p.join name) text).run host ⟨d, log⟩
    WritesAt (q.live ++ [name.text]) d out.2.state ∧ (out.1 = .ok () →
      refuse? (p.join name) = none ∧ Admits q name.text ∧ q.isLost = false ∧
        (out.2.state.get? (q.live ++ [name.text]) = some (.leaf (.file (Utf8.encode text))) ∨
          ∃ device, d.held? q name.text = some (.leaf (.device device)))) := by
  have anyway (part : List UInt8) :
      WritesAt (q.live ++ [name.text]) d (d.replaceFile (p.join name) part).2 := by
    rcases written : d.replaceFile (p.join name) part with ⟨answer, d'⟩
    cases answer with
    | error fault => exact eq_of_replaceFile written ▸ .refl _ _
    | ok _ => exact (replaceFile_join standing isName directory own written).1
  rw [Files.writeText, Files.writeBytes, Action.run]
  rcases fails.replaceFile (p.join name) (Utf8.encode text) d with
    answered | ⟨fault, d', answered, partly⟩
  · rw [answered]
    rcases written : d.replaceFile (p.join name) (Utf8.encode text) with ⟨answer, d'⟩
    have touched := anyway (Utf8.encode text)
    rw [written] at touched
    cases answer with
    | error fault => cases fault <;> exact ⟨touched, fun ok => by cases ok⟩
    | ok _ =>
        exact ⟨touched, fun _ => (replaceFile_join standing isName directory own written).2⟩
  · rw [answered]
    have touched : WritesAt (q.live ++ [name.text]) d d' := by
      rcases partly with rfl | ⟨part, rfl⟩
      · exact .refl _ _
      · exact anyway part
    cases fault <;> exact ⟨touched, fun ok => by cases ok⟩

end Disk

namespace Summary

/-! ## Names -/

/-- The name of the file of a summary. -/
def name (s : Summary) : Path := ⟨s!"scene_{s.id}.json"⟩

theorem toList_name (s : Summary) :
    s.name.text.toList =
      "scene_".toList ++ (Nat.toDigits 10 s.id.value.toNat ++ ".json".toList) := by
  have digits : (toString s.id).toList = Nat.toDigits 10 s.id.value.toNat := Nat.toList_repr
  show (toString "scene_" ++ toString s.id ++ toString ".json").toList = _
  rw [String.toList_append, String.toList_append, digits, List.append_assoc]
  rfl

/-- Only summaries of one scene have one name. -/
theorem id_eq_of_name {s s' : Summary} (same : s.name.text = s'.name.text) : s.id = s'.id := by
  have digits := congrArg String.toList same
  rw [toList_name, toList_name] at digits
  replace digits := List.append_cancel_right (List.append_cancel_left digits)
  have number := congrArg (fun ds => Nat.ofDigitChars 10 ds 0) digits
  simp only [Nat.ofDigitChars_ten_toDigits] at number
  exact congrArg SceneId.mk (UInt32.toNat_inj.mp number)

theorem isName_name (s : Summary) : s.name.IsName := by
  have slashes : '/' ∉ Nat.toDigits 10 s.id.value.toNat := by
    intro slash
    have digit := Nat.isDigit_of_mem_toDigits (by decide) (by decide) slash
    simp at digit
  refine ⟨?_, ?_, ?_, ?_⟩
  · rw [toList_name]
    exact List.cons_ne_nil _ _
  · rw [toList_name]
    simp [slashes]
  · intro dot
    have text := toList_name s
    rw [dot] at text
    simp at text
  · intro up
    have text := toList_name s
    rw [up] at text
    simp at text

/-- The address of the file of a summary in the directory at a place. -/
def address (q : Place) (s : Summary) : Address := q.live ++ [s.name.text]

theorem id_eq_of_address {q : Place} {s s' : Summary} (same : s.address q = s'.address q) :
    s.id = s'.id :=
  id_eq_of_name (List.singleton_inj.mp (List.append_cancel_left same))

/-! ## One file after the other -/

variable {host : Host Disk} {d : Disk} {q : Place} {directory : Path} {summaries : List Summary}

/-- How far writing files into the directory at a place has come. The files that are done are
complete, but where a device has the place of one it has taken the text, and nothing is said of that
file; the writing ended at the first of those that are left, if there is one, and all files behind
it are as they were. -/
structure Progress (directory : Path) (q : Place) (done left : List Summary) (d d' : Disk) :
    Prop where
  complete : ∀ s ∈ done,
    (∀ device, d.held? q s.name.text ≠ some (.leaf (.device device))) →
      d'.follow .visit (s.file directory) =
        .ok (.leaf (s.address q) (.file (Utf8.encode s.document.pretty)))
  behind : ∀ s ∈ left.tail, d'.get? (s.address q) = d.get? (s.address q)
  others : ∀ b, (∀ s ∈ done ++ left, b ≠ s.address q) → d'.get? b = d.get? b
  ways : d.KeepsWays d'

/-- The first failure ends the writing; by induction on the summaries. -/
theorem exists_progress (fails : Disk.MayFail host) (standing : d.Standing)
    (there : d.follow .visit directory = .ok (.directory q))
    (own : ∀ s ∈ summaries, ∀ goal, d.held? q s.name.text ≠ some (.leaf (.link goal)))
    (distinct : (summaries.map Summary.id).Nodup) (log : List Notice) :
    let out := (writeEach directory summaries).run host ⟨d, log⟩
    ∃ done left, summaries = done ++ left ∧ (out.1 = .ok () ↔ left = []) ∧
      Progress directory q done left d out.2.state := by
  induction summaries generalizing d log with
  | nil =>
      refine ⟨[], [], rfl, by simp [writeEach], ?_, ?_, ?_, ?_⟩
      · exact fun s none' => nomatch none'
      · exact fun s none' => nomatch none'
      · exact fun _ _ => rfl
      · exact ⟨rfl, fun _ _ found _ => found⟩
  | cons s rest ih =>
      obtain ⟨ownFirst, ownRest⟩ := List.forall_mem_cons.mp own
      rw [List.map_cons, List.nodup_cons] at distinct
      have apart (s' : Summary) (listed : s' ∈ rest) : s'.address q ≠ s.address q := by
        intro same
        exact distinct.1 (List.mem_map.mpr ⟨s', listed, id_eq_of_address same⟩)
      have first := fails.run_writeText standing s.isName_name there ownFirst s.document.pretty log
      simp only [writeEach, Action.run_bind]
      rw [show s.file directory = directory.join s.name from rfl]
      generalize (Files.writeText (directory.join s.name) s.document.pretty).run host ⟨d, log⟩ =
        written at first ⊢
      obtain ⟨answer, d₁, log₁⟩ := written
      obtain ⟨touched, whole⟩ := first
      dsimp only at touched whole ⊢
      have ways := touched.keepsWays
      cases answer with
      | error e =>
          refine ⟨[], s :: rest, rfl, by simp, ?_, ?_, ?_, ways⟩
          · exact fun s none' => nomatch none'
          · exact fun s' listed => touched.others _ (apart s' listed)
          · exact fun b other => touched.others b (other s (List.mem_cons_self ..))
      | ok done₁ =>
          obtain ⟨proper, admits, kept, taken⟩ := whole rfl
          have same (s' : Summary) (listed : s' ∈ rest) :
              d₁.held? q s'.name.text = d.held? q s'.name.text := by
            rw [Disk.held?_of_not_isLost kept, Disk.held?_of_not_isLost kept]
            exact touched.others _ (apart s' listed)
          obtain ⟨done, left, split, ended, progress⟩ := ih (ways.standing standing)
            (ways.follow there) (fun s' listed goal => by
              rw [same s' listed]
              exact ownRest s' listed goal)
            distinct.2 (log₁ ++ [.summaryWritten (s.file directory)])
          have listed (s' : Summary) (held : s' ∈ done ++ left) : s' ∈ rest := split ▸ held
          refine ⟨s :: done, left, by rw [split]; rfl, ended, ?_, ?_, ?_, ways.trans progress.ways⟩
          · refine List.forall_mem_cons.mpr ⟨fun noDevice => ?_, fun s' held noDevice => ?_⟩
            · have file := taken.resolve_right fun ⟨device, found⟩ => noDevice device found
              have final := progress.others (s.address q) fun s' held =>
                Ne.symm (apart s' (listed s' held))
              refine Disk.follow_join_of_file s.isName_name proper
                (progress.ways.follow (ways.follow there)) admits ?_
              rw [Disk.held?_of_not_isLost kept]
              exact final.trans file
            · refine progress.complete s' held fun device => ?_
              rw [same s' (listed s' (List.mem_append_left _ held))]
              exact noDevice device
          · intro s' held
            have behind := listed s' (List.mem_append_right _ (List.mem_of_mem_tail held))
            exact (progress.behind s' held).trans (touched.others _ (apart s' behind))
          · intro b other
            obtain ⟨first, others⟩ := List.forall_mem_cons.mp other
            exact (progress.others b others).trans (touched.others b first)

/-- What is left of writing the files of summaries into a directory, from the disk as it was before
to the disk as it is after. -/
structure WrittenInto (directory : Path) (summaries : List Summary) (d d₁ d' : Disk)
    (answer : Except FileError Unit) (result : Except FileError Unit) : Prop where
  /-- First the directory is made, with what is missing on the way to it: a directory for every
  beginning of its path, also if the path leads up again from there. -/
  made : Disk.HasMade (directory :: directory.parents) d d₁
  /-- Where that fails nothing is written. -/
  unmade : ∀ e, answer = .error e → result = .error e ∧ d' = d₁
  /-- Then the files are written, if none of them is a link. -/
  written : answer = .ok () → ∃ q, d₁.follow .visit directory = .ok (.directory q) ∧
    ((∀ s ∈ summaries, ∀ goal, d.held? q s.name.text ≠ some (.leaf (.link goal))) →
      ∃ done left, summaries = done ++ left ∧ (result = .ok () ↔ left = []) ∧
        Progress directory q done left d₁ d')

/-- However far the writing gets, no file is lost or mixed up with another. -/
theorem writtenInto (fails : Disk.MayFail host) {w : World Disk} (standing : w.state.Standing)
    (distinct : (summaries.map Summary.id).Nodup) (directory : Path) :
    let made := (Files.createDirectories directory).run host w
    let out := (writeAll directory summaries).run host w
    WrittenInto directory summaries w.state made.2.state out.2.state made.1 out.1 := by
  obtain ⟨news, kept⟩ := fails.createDirectories standing directory
  have there := fails.exists_of_createDirectories (w := w) (p := directory)
  rw [writeAll, Action.run_bind]
  generalize (Files.createDirectories directory).run host w = made at news kept there ⊢
  obtain ⟨answer, d₁, log₁⟩ := made
  dsimp only at news kept there ⊢
  cases answer with
  | error e => exact ⟨news, fun e' same => by cases same; exact ⟨rfl, rfl⟩, nofun⟩
  | ok _ =>
      refine ⟨news, nofun, fun _ => ?_⟩
      obtain ⟨q, found⟩ := there rfl
      refine ⟨q, found, fun own => exists_progress fails kept found ?_ distinct log₁⟩
      intro s listed goal link
      have there := Disk.isLost_of_held? link
      rw [Disk.held?_of_not_isLost there, news.get?_leaf_iff] at link
      refine own s listed goal ?_
      rwa [Disk.held?_of_not_isLost there]

end Summary

end SceneBench
