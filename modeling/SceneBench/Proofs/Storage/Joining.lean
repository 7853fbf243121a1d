import SceneBench.Proofs.Storage.Directories

/-!
# Entries of a directory

A name joined to a path is one more step behind the steps of the path, whether or not the path ends
in a slash. So if the path leads to a directory then the joined path leads to what that directory
has under the name, and what is written there changes that one entry.
-/

namespace SceneBench

namespace Path

/-- A name of its own, which stands for an entry of the directory that it is looked up in. -/
structure IsName (name : Path) : Prop where
  some' : name.text.toList ≠ []
  whole : '/' ∉ name.text.toList
  entry : name.text ≠ "." ∧ name.text ≠ ".."

variable {p name : Path}

/-! ## Pieces between slashes -/

theorem splitSlash_cons (c : Char) (rest : List Char) :
    ∃ piece pieces, splitSlash rest = piece :: pieces ∧
      splitSlash (c :: rest) =
        if c = '/' then [] :: piece :: pieces else (c :: piece) :: pieces := by
  induction rest generalizing c with
  | nil => exact ⟨[], [], rfl, by simp [splitSlash]⟩
  | cons c' rest ih =>
      obtain ⟨piece, pieces, -, split⟩ := ih c'
      by_cases slash : c' = '/'
      · rw [if_pos slash] at split
        exact ⟨_, _, split, by rw [splitSlash, split]⟩
      · rw [if_neg slash] at split
        exact ⟨_, _, split, by rw [splitSlash, split]⟩

/-- A slash divides the pieces before it from those behind it. -/
theorem splitSlash_append (before behind : List Char) :
    splitSlash (before ++ '/' :: behind) = splitSlash before ++ splitSlash behind := by
  induction before with
  | nil => simp [splitSlash]
  | cons c rest ih =>
      obtain ⟨piece, pieces, split, whole⟩ := splitSlash_cons c rest
      rw [List.cons_append, splitSlash, ih, split, whole]
      split <;> rfl

theorem splitSlash_of_whole {cs : List Char} (whole : '/' ∉ cs) : splitSlash cs = [cs] := by
  induction cs with
  | nil => rfl
  | cons c rest ih =>
      rw [List.mem_cons, not_or] at whole
      rw [splitSlash, if_neg (Ne.symm whole.1), ih whole.2]

/-- The names between slashes in a text. -/
def namesIn (cs : List Char) : List String :=
  ((splitSlash cs).filter fun piece => !piece.isEmpty).map String.ofList

theorem namesIn_append (before behind : List Char) :
    namesIn (before ++ '/' :: behind) = namesIn before ++ namesIn behind := by
  rw [namesIn, splitSlash_append, List.filter_append, List.map_append]
  rfl

theorem namesIn_of_isName (isName : name.IsName) : namesIn name.text.toList = [name.text] := by
  have some' : (!name.text.toList.isEmpty) = true := by simpa using isName.some'
  rw [namesIn, splitSlash_of_whole isName.whole, List.filter, some']
  simp

/-! ## Joined paths -/

theorem isAbsolute_of_isName (isName : name.IsName) : name.isAbsolute = false := by
  obtain ⟨c, rest, text⟩ := List.exists_cons_of_ne_nil isName.some'
  have whole := isName.whole
  rw [text, List.mem_cons, not_or] at whole
  rw [isAbsolute, text]
  simpa using Ne.symm whole.1

/-- A slash stands before the name that was joined, unless the path was empty. -/
theorem toList_join (isName : name.IsName) :
    p.text.toList = [] ∧ (p.join name).text.toList = name.text.toList ∨
      ∃ cs, (p.join name).text.toList = cs ++ '/' :: name.text.toList ∧
        (p.text.toList = cs ++ ['/'] ∨ p.text.toList = cs ∧ cs ≠ []) := by
  rw [join, if_neg (by simp [isAbsolute_of_isName isName])]
  by_cases none' : p.text = ""
  · refine .inl ⟨by rw [none']; rfl, ?_⟩
    simp [none']
  have some' : p.text.toList ≠ [] := fun nil => none' (String.toList_eq_nil_iff.mp nil)
  right
  by_cases slash : p.endsInSlash = true
  · have last : p.text.toList.getLast? = some '/' := by simpa [endsInSlash] using slash
    obtain ⟨cs, text⟩ := List.getLast?_eq_some_iff.mp last
    refine ⟨cs, ?_, .inl text⟩
    simp [slash, String.toList_append, text]
  · refine ⟨p.text.toList, ?_, .inr ⟨rfl, some'⟩⟩
    simp [slash, none', String.toList_append]

/-- A joined path ends with the name. -/
theorem exists_toList_join (p name : Path) :
    ∃ cs, (p.join name).text.toList = cs ++ name.text.toList := by
  rw [join]
  split
  · exact ⟨[], rfl⟩
  · split
    · exact ⟨p.text.toList, String.toList_append⟩
    · exact ⟨(p.text ++ "/").toList, String.toList_append⟩

theorem names_join (isName : name.IsName) : (p.join name).names = p.names ++ [name.text] := by
  show namesIn (p.join name).text.toList = namesIn p.text.toList ++ _
  rcases toList_join isName with ⟨none', joined⟩ | ⟨cs, joined, before⟩
  · rw [joined, none', namesIn_of_isName isName]
    rfl
  · rw [joined, namesIn_append, namesIn_of_isName isName]
    rcases before with slash | ⟨plain, -⟩
    · rw [slash, namesIn_append]
      simp [namesIn, splitSlash]
    · rw [plain]

theorem isAbsolute_join (isName : name.IsName) : (p.join name).isAbsolute = p.isAbsolute := by
  rcases toList_join isName with ⟨none', joined⟩ | ⟨cs, joined, before⟩
  · have relative : (p.join name).isAbsolute = name.isAbsolute := by
      rw [isAbsolute, joined, isAbsolute]
    rw [relative, isAbsolute_of_isName isName, isAbsolute, none']
    rfl
  · rw [isAbsolute, isAbsolute, joined, List.head?_append]
    rcases before with slash | ⟨plain, some'⟩
    · rw [slash, List.head?_append]
      rfl
    · obtain ⟨c, rest, text⟩ := List.exists_cons_of_ne_nil some'
      rw [plain, text]
      rfl

theorem endsInSlash_join (isName : name.IsName) : (p.join name).endsInSlash = false := by
  obtain ⟨cs, joined⟩ := exists_toList_join p name
  have last := List.getLast?_eq_some_getLast isName.some'
  have other : name.text.toList.getLast isName.some' ≠ '/' := by
    intro slash
    exact isName.whole (slash ▸ List.getLast_mem isName.some')
  rw [endsInSlash, joined, List.getLast?_append, last]
  simpa using other

/-- A joined name is one more step. -/
theorem steps_join (isName : name.IsName) :
    (p.join name).steps = p.innerSteps ++ [.enter name.text] := by
  rw [steps, endsInSlash_join isName, innerSteps, names_join isName, List.map_append,
    List.map_singleton, if_neg isName.entry.1, if_neg isName.entry.2]
  rfl

theorem start_join (isName : name.IsName) (q : Place) : q.start (p.join name) = q.start p := by
  rw [Place.start, isAbsolute_join isName, Place.start]

end Path

namespace Disk

variable {d d' : Disk} {q : Place} {p name : Path} {arrival : Arrival} {content : List UInt8}

/-! ## What a directory has under a name -/

/-- A joined path leads on from the directory that the path leads to. -/
theorem leads_of_follow_join (isName : name.IsName)
    (directory : d.follow .visit p = .ok (.directory q)) {purpose : Purpose}
    (plain : purpose ≠ .visitLink) (followed : d.follow purpose (p.join name) = .ok arrival) :
    refuse? (p.join name) = none ∧ ∃ links, Leads d links q [.enter name.text] arrival := by
  obtain ⟨proper, leads⟩ := leads_of_follow plain followed
  rw [Path.steps_join isName, Path.start_join isName] at leads
  obtain ⟨middle, fewer, before, after⟩ := leads.split rfl (List.cons_ne_nil _ _)
  have same := before.unique (follow_eq_directory_iff.mp directory).2
  cases same
  exact ⟨proper, fewer, after⟩

/-- A file of a directory is found under the joined path, unless this is no path. -/
theorem follow_join_of_file (isName : name.IsName) (proper : refuse? (p.join name) = none)
    (directory : d.follow .visit p = .ok (.directory q)) (admits : Admits q name.text)
    (found : d.held? q name.text = some (.leaf (.file content))) :
    d.follow .visit (p.join name) =
      .ok (.leaf (q.live ++ [name.text]) (.file content)) := by
  refine Leads.follow_eq proper ?_
  rw [Path.steps_join isName, Path.start_join isName]
  exact (follow_eq_directory_iff.mp directory).2.append fun _ => .leaf admits found nofun

end Disk

end SceneBench
