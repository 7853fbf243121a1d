import SceneBench.Proofs.Registry.Links

/-!
# The local producer on its own

Whoever holds a producer may ask it anything: for identities that are in use, for handles that were
never issued, for a scene to change it. A request is data here, and so is its answer, so that a run
is a list of requests. What one request can do is told once, and by induction along a run the
producer stays sound, its handles are counted, and one that is spent does not come back, whichever
order its table is in.
-/

namespace SceneBench.LocalProducer

variable {p q : LocalProducer} {id : SceneId} {settings : SceneSettings} {h h' : Handle}
  {s s' : Scene}

/-! ## Requests and answers -/

/-- A request to a producer. -/
inductive Request where
  | create (id : SceneId) (settings : SceneSettings)
  | release (h : Handle)
  | view (h : Handle)
  | change (h : Handle) (edits : List Edit)
  | find (id : SceneId)
  | count

/-- What a request is answered; a scene that was changed is shown as it is given back. -/
inductive Answer where
  | issued (result : Except SceneError Handle)
  | released (known : Bool)
  | shown (scene : Option Scene)
  | found (h : Option Handle)
  | counted (scenes : Nat)

/-- The handle that an answer issues. -/
def Answer.handles : Answer → List Handle
  | issued (.ok h) => [h]
  | issued (.error _) | released _ | shown _ | found _ | counted _ => []

namespace Request

/-- Ask once. -/
def perform (p : LocalProducer) : Request → Answer × LocalProducer
  | create id settings =>
    let (result, p) := p.create id settings
    (.issued result, p)
  | release h =>
    let (known, p) := p.release h
    (.released known, p)
  | view h => (.shown (p.view h), p)
  | change h edits =>
    match Producer.borrow p h with
    | (none, p) => (.shown none, p)
    | (some s, p) => (.shown (some (s.applyAll edits)), p.giveBack h (s.applyAll edits))
  | find id => (.found (p.find id), p)
  | count => (.counted p.liveScenes, p)

/-- Ask for one thing after the other. -/
def performAll (p : LocalProducer) : List Request → List Answer × LocalProducer
  | [] => ([], p)
  | request :: rest =>
    let (answer, p) := request.perform p
    let (answers, p) := performAll p rest
    (answer :: answers, p)

end Request

/-- The handles that answers issue, in their order. -/
def handlesAll (answers : List Answer) : List Handle := answers.flatMap Answer.handles

/-- The producer after some requests to a new one. -/
def after (asked : List Request) : LocalProducer := (Request.performAll {} asked).2

/-- What a new producer answers to some requests. -/
def answersTo (asked : List Request) : List Answer := (Request.performAll {} asked).1

theorem performAll_append (p : LocalProducer) (asked further : List Request) :
    Request.performAll p (asked ++ further) =
      let done := Request.performAll p asked
      let done' := Request.performAll done.2 further
      (done.1 ++ done'.1, done'.2) := by
  induction asked generalizing p with
  | nil => rfl
  | cons request rest ih => simp only [List.cons_append, Request.performAll, ih]

theorem after_append (asked further : List Request) :
    after (asked ++ further) = (Request.performAll (after asked) further).2 := by
  rw [after, performAll_append]
  rfl

theorem answersTo_append (asked further : List Request) :
    answersTo (asked ++ further) =
      answersTo asked ++ (Request.performAll (after asked) further).1 := by
  rw [answersTo, performAll_append]
  rfl

@[simp] theorem handlesAll_cons (answer : Answer) (answers : List Answer) :
    handlesAll (answer :: answers) = answer.handles ++ handlesAll answers :=
  List.flatMap_cons

@[simp] theorem handlesAll_append (answers further : List Answer) :
    handlesAll (answers ++ further) = handlesAll answers ++ handlesAll further :=
  List.flatMap_append

/-! ## What one request can do -/

/-- A request leaves the producer as it is, or takes a scene off it, or changes one, or adds one
under the next handle. -/
theorem perform_cases (p : LocalProducer) (request : Request) :
    let done := request.perform p
    done.2 = p ∧ done.1.handles = [] ∨
      (∃ h, done.2 = (p.release h).2 ∧ done.1.handles = []) ∨
      (∃ h s edits, p.view h = some s ∧ done.2 = p.giveBack h (s.applyAll edits) ∧
        done.1.handles = []) ∨
      ∃ id settings, (p.find id).isSome = false ∧ done.2 = p.add (p.newScene id settings) ∧
        done.1.handles = [p.nextHandle] := by
  cases request with
  | create id settings =>
      cases used : (p.find id).isSome with
      | true =>
          left
          simp [Request.perform, create, used, Answer.handles]
      | false =>
          right; right; right
          simp only [Request.perform, create_of_unused used]
          exact ⟨id, settings, used, rfl, rfl⟩
  | release h => exact .inr (.inl ⟨h, rfl, rfl⟩)
  | view h => exact .inl ⟨rfl, rfl⟩
  | change h edits =>
      have borrowed : Producer.borrow p h = (p.view h, p) := rfl
      cases shown : p.view h with
      | none =>
          left
          simp [Request.perform, borrowed, shown, Answer.handles]
      | some s =>
          right; right; left
          simp only [Request.perform, borrowed, shown]
          exact ⟨h, s, edits, shown, rfl, rfl⟩
  | find id => exact .inl ⟨rfl, rfl⟩
  | count => exact .inl ⟨rfl, rfl⟩

/-! ## Runs -/

/-- The handle of a number. -/
def handleOf (n : Nat) : Handle := ⟨.ofNat n⟩

/-- A handle that was counted already and is of no use. -/
structure Spent (p : LocalProducer) (h : Handle) : Prop where
  unseen : p.view h = none
  counted : h.value.toNat ≤ p.issued.toNat

theorem nextHandle_eq (p : LocalProducer) : p.nextHandle = handleOf (p.issued.toNat + 1) := by
  simp [nextHandle, handleOf]

/-- A request keeps a producer sound, and counts the handles that it issues. -/
theorem Sound.perform (sound : p.Sound) (request : Request)
    (left : p.issued.toNat + (request.perform p).1.handles.length < 2 ^ 64) :
    let done := request.perform p
    done.2.Sound ∧ done.2.issued.toNat = p.issued.toNat + done.1.handles.length ∧
      done.1.handles =
        (List.range' (p.issued.toNat + 1) done.1.handles.length).map handleOf := by
  dsimp only
  rcases perform_cases p request with ⟨kept, none⟩ | ⟨h, released, none⟩ |
    ⟨h, s, edits, shown, given, none⟩ | ⟨id, settings, unused, added, one⟩
  · rw [kept, none]
    exact ⟨sound, rfl, rfl⟩
  · rw [released, none]
    exact ⟨sound.release h, rfl, rfl⟩
  · rw [given, none]
    exact ⟨sound.giveBack shown (s.id_applyAll edits) (s.handle_applyAll edits), rfl, rfl⟩
  · rw [one] at left
    rw [added, one]
    have free : ¬ p.Live id := by rw [← sound.find_isSome_iff, unused]; exact Bool.false_ne_true
    refine ⟨sound.add left free rfl, toNat_issued_add_one left, ?_⟩
    simp [nextHandle_eq]

/-- A spent handle is not issued, and stays spent. -/
theorem Spent.perform (spent : p.Spent h) (request : Request)
    (left : p.issued.toNat + (request.perform p).1.handles.length < 2 ^ 64) :
    (request.perform p).2.Spent h ∧ h ∉ (request.perform p).1.handles := by
  obtain ⟨unseen, counted⟩ := spent
  rcases perform_cases p request with ⟨kept, none⟩ | ⟨h', released, none⟩ |
    ⟨h', s, edits, shown, given, none⟩ | ⟨id, settings, unused, added, one⟩
  · rw [kept, none]
    exact ⟨⟨unseen, counted⟩, List.not_mem_nil⟩
  · rw [released, none]
    refine ⟨⟨?_, counted⟩, List.not_mem_nil⟩
    exact (Table.lookup_erase p.scenes h' h).trans (by split; exacts [rfl, unseen])
  · rw [given, none]
    have other : h ≠ h' := by rintro rfl; cases unseen.symm.trans shown
    refine ⟨⟨?_, counted⟩, List.not_mem_nil⟩
    exact (Table.lookup_replace p.scenes h' h _).trans ((if_neg other).trans unseen)
  · rw [one] at left
    rw [added, one]
    have count := toNat_issued_add_one left
    have other : h ≠ p.nextHandle := by
      rintro rfl
      rw [nextHandle, count] at counted
      omega
    refine ⟨⟨?_, ?_⟩, by simpa using other⟩
    · rw [view, LocalProducer.add, Table.lookup_append_singleton, if_neg other, Option.or_none]
      exact unseen
    · show h.value.toNat ≤ (p.issued + 1).toNat
      omega

/-- By induction on the requests, each of which continues the count. -/
theorem Sound.performAll (sound : p.Sound) (asked : List Request)
    (left : p.issued.toNat + (handlesAll (Request.performAll p asked).1).length < 2 ^ 64) :
    let done := Request.performAll p asked
    done.2.Sound ∧ done.2.issued.toNat = p.issued.toNat + (handlesAll done.1).length ∧
      handlesAll done.1 =
        (List.range' (p.issued.toNat + 1) (handlesAll done.1).length).map handleOf := by
  induction asked generalizing p with
  | nil => exact ⟨sound, rfl, rfl⟩
  | cons request rest ih =>
      simp only [Request.performAll, handlesAll_cons, List.length_append] at left ⊢
      obtain ⟨sound', count, first⟩ := sound.perform request (by omega)
      obtain ⟨sound'', count', further⟩ := ih sound' (by omega)
      refine ⟨sound'', by omega, ?_⟩
      rw [← List.range'_append_1, List.map_append, ← first]
      rw [count, Nat.add_right_comm] at further
      rw [← further]

/-- As long as handles are left, a producer issues as many as it counts. -/
theorem counted_after {asked : List Request}
    (few : (handlesAll (answersTo asked)).length < 2 ^ 64) :
    (after asked).Sound ∧ (after asked).issued.toNat = (handlesAll (answersTo asked)).length ∧
      handlesAll (answersTo asked) = (List.range' 1 (after asked).issued.toNat).map handleOf := by
  have start : ({} : LocalProducer).issued.toNat = 0 := rfl
  obtain ⟨sound, count, counted⟩ := sound_new.performAll asked (by rwa [start, Nat.zero_add])
  rw [start, Nat.zero_add] at count counted
  exact ⟨sound, count, by rw [after, count]; exact counted⟩

theorem Spent.performAll (spent : p.Spent h) (sound : p.Sound) (asked : List Request)
    (left : p.issued.toNat + (handlesAll (Request.performAll p asked).1).length < 2 ^ 64) :
    (Request.performAll p asked).2.Spent h ∧ h ∉ handlesAll (Request.performAll p asked).1 := by
  induction asked generalizing p with
  | nil => exact ⟨spent, List.not_mem_nil⟩
  | cons request rest ih =>
      simp only [Request.performAll, handlesAll_cons, List.length_append] at left ⊢
      obtain ⟨sound', count, -⟩ := sound.perform request (by omega)
      obtain ⟨spent', unissued⟩ := spent.perform request (by omega)
      obtain ⟨spent'', unissued'⟩ := ih spent' sound' (by omega)
      exact ⟨spent'', by rw [List.mem_append, not_or]; exact ⟨unissued, unissued'⟩⟩

/-! ## Tables in any order -/

/-- The order of the table changes no answer, and the scenes that are left by its order only. -/
theorem Sound.perform_same (sound : p.Sound) (same : q.Same p) (request : Request) :
    (request.perform q).1 = (request.perform p).1 ∧
      (request.perform q).2.Same (request.perform p).2 := by
  have next : q.nextHandle = p.nextHandle := by rw [nextHandle, nextHandle, same.issued]
  cases request with
  | create id settings =>
      have found := sound.find_same same id
      cases used : (p.find id).isSome with
      | true => simpa [Request.perform, create, found, used] using same
      | false =>
          have used' : (q.find id).isSome = false := by rw [found, used]
          simp only [Request.perform, create_of_unused used, create_of_unused used',
            LocalProducer.add, newScene, next]
          exact ⟨trivial, same.scenes.append_right _, congrArg (· + 1) same.issued⟩
  | release h =>
      simp only [Request.perform, LocalProducer.release, sound.view_same same]
      exact ⟨trivial, same.scenes.filter _, same.issued⟩
  | view h =>
      simp only [Request.perform, sound.view_same same]
      exact ⟨trivial, same⟩
  | change h edits =>
      have borrowed (p : LocalProducer) : Producer.borrow p h = (p.view h, p) := rfl
      have viewed := sound.view_same same h
      cases shown : p.view h with
      | none => simpa [Request.perform, borrowed, viewed, shown] using same
      | some s =>
          simp only [Request.perform, borrowed, viewed, shown]
          exact ⟨trivial, same.scenes.map _, same.issued⟩
  | find id =>
      simp only [Request.perform, sound.find_same same]
      exact ⟨trivial, same⟩
  | count =>
      simp only [Request.perform, liveScenes, same.scenes.length_eq]
      exact ⟨trivial, same⟩

/-- A run that finds its table in any order whatever at each request. -/
inductive Shuffled : LocalProducer → List Request → List Answer → LocalProducer → Prop where
  | nil (p : LocalProducer) : Shuffled p [] [] p
  | cons {p q last : LocalProducer} {request : Request} {rest : List Request}
      {answers : List Answer} (same : q.Same p)
      (further : Shuffled (request.perform q).2 rest answers last) :
      Shuffled p (request :: rest) ((request.perform q).1 :: answers) last

/-- By induction on the run, beside which the tables are kept in the order in which they grow. -/
theorem Sound.eq_of_shuffled (sound : p.Sound) (same : q.Same p) {asked : List Request}
    {answers : List Answer} {last : LocalProducer} (run : Shuffled q asked answers last)
    (left : p.issued.toNat + (handlesAll (Request.performAll p asked).1).length < 2 ^ 64) :
    answers = (Request.performAll p asked).1 ∧ last.Same (Request.performAll p asked).2 := by
  induction run generalizing p with
  | nil q => exact ⟨rfl, same⟩
  | @cons q q' last request rest answers shuffled further ih =>
      have same' : q'.Same p :=
        ⟨shuffled.scenes.trans same.scenes, shuffled.issued.trans same.issued⟩
      simp only [Request.performAll, handlesAll_cons, List.length_append] at left ⊢
      obtain ⟨sound', count, -⟩ := sound.perform request (by omega)
      obtain ⟨answer, state⟩ := sound.perform_same same' request
      obtain ⟨answers', last'⟩ := ih sound' state (by omega)
      exact ⟨by rw [answer, answers'], last'⟩

/-! ## What can be relied on -/

/-- How a producer answers about the scenes that it holds. -/
structure Dependable (p : LocalProducer) : Prop where
  sound : p.Sound
  /-- An identity leads to the scene that has it, whatever the order of the search. -/
  find : ∀ q : LocalProducer, q.Same p →
    ∀ id h, q.find id = some h ↔ ∃ s, p.view h = some s ∧ s.id = id
  refuses : ∀ id settings, (∃ e, (p.create id settings).1 = .error e) ↔ p.Live id
  /-- A refusal costs nothing, not even a handle. -/
  refusal : ∀ id settings e, (p.create id settings).1 = .error e →
    e = .producer id "a live scene already uses this identity" ∧ (p.create id settings).2 = p
  /-- A new scene is under the next handle, where nothing was, and the others are where they
  were. -/
  creates : p.issued.toNat + 1 < 2 ^ 64 → ∀ id settings, ¬ p.Live id →
    let done := p.create id settings
    done.1 = .ok p.nextHandle ∧ p.view p.nextHandle = none ∧
      ∀ h, done.2.view h =
        if h = p.nextHandle then some { id, handle := h, settings } else p.view h
  releases : ∀ h, (p.release h).1 = true ↔ ∃ s, p.view h = some s
  /-- One scene goes and no other. -/
  release : ∀ h s, p.view h = some s → p.scenes.Perm ((h, s) :: (p.release h).2.scenes) ∧
    (p.release h).2.issued = p.issued ∧
    ∀ h', (p.release h).2.view h' = if h' = h then none else p.view h'
  /-- Nothing comes of releasing what is not there. -/
  unknown : ∀ h, p.view h = none → p.release h = (false, p)

theorem release_of_unseen (unseen : p.view h = none) : p.release h = (false, p) := by
  have unused : h ∉ p.scenes.map Prod.fst := Table.lookup_eq_none_iff.mp unseen
  rw [release, unseen]
  exact congrArg (fun scenes => (false, LocalProducer.mk scenes p.issued))
    (Table.erase_of_unused unused)

theorem Sound.dependable (sound : p.Sound) : p.Dependable := by
  have refused (id : SceneId) (settings : SceneSettings) (live : p.Live id) :
      p.create id settings =
        (.error (.producer id "a live scene already uses this identity"), p) := by
    rw [create, if_pos (sound.find_isSome_iff.mpr live)]
  have made (id : SceneId) (settings : SceneSettings) (free : ¬ p.Live id) :
      p.create id settings = (.ok p.nextHandle, p.add (p.newScene id settings)) :=
    create_of_unused (by rw [Bool.eq_false_iff, ne_eq, sound.find_isSome_iff]; exact free) settings
  constructor
  case sound => exact sound
  case find =>
    intro q same id h
    rw [sound.find_same same, sound.find_eq_some_iff]
  case refuses =>
    intro id settings
    constructor
    · rintro ⟨e, failed⟩
      by_contra free
      rw [made id settings free] at failed
      cases failed
    · intro live
      rw [refused id settings live]
      exact ⟨_, rfl⟩
  case refusal =>
    intro id settings e failed
    by_cases live : p.Live id
    · rw [refused id settings live] at failed ⊢
      exact ⟨(Except.error.inj failed).symm, rfl⟩
    · rw [made id settings live] at failed
      cases failed
  case creates =>
    intro left id settings free
    have new := sound.nextHandle_unused left
    rw [made id settings free]
    refine ⟨rfl, Table.lookup_eq_none_iff.mpr new, fun h => ?_⟩
    by_cases asked : h = p.nextHandle
    · rw [if_pos asked, asked]
      exact view_add new _
    · rw [if_neg asked, view, LocalProducer.add, Table.lookup_append_singleton, if_neg asked,
        Option.or_none]
      rfl
  case releases =>
    intro h
    rw [LocalProducer.release, Option.isSome_iff_exists]
  case release =>
    intro h s shown
    obtain ⟨before, behind, all, left, -⟩ := Table.split_of_lookup sound.handles shown
    refine ⟨?_, rfl, Table.lookup_erase p.scenes h⟩
    show p.scenes.Perm ((h, s) :: Table.erase p.scenes h)
    rw [left, all]
    exact List.perm_middle
  case unknown => exact fun h unseen => release_of_unseen unseen

/-- A handle whose scene is released is spent. -/
theorem Sound.spent_of_released (sound : p.Sound) (known : (p.release h).1 = true) :
    (p.release h).2.Spent h := by
  obtain ⟨s, shown⟩ := Option.isSome_iff_exists.mp known
  exact ⟨(Table.lookup_erase ..).trans (if_pos rfl),
    sound.issued _ (sound.view_eq_some_iff.mp shown)⟩

/-- After any requests, as long as handles were left, a producer can be relied on. The handles that
it issued are counted from one. One whose scene was released shows nothing from then on, cannot be
released, is found under no identity and is not issued again. All this is the same whichever order
the tables are in. -/
theorem dependable_after {asked : List Request}
    (few : (handlesAll (answersTo asked)).length < 2 ^ 64) :
    (after asked).Dependable ∧
      handlesAll (answersTo asked) = (List.range' 1 (after asked).issued.toNat).map handleOf ∧
      (∀ earlier h later, asked = earlier ++ .release h :: later →
        let p := after earlier
        (p.release h).1 = true →
          (after asked).view h = none ∧ (after asked).release h = (false, after asked) ∧
            (∀ id, (after asked).find id ≠ some h) ∧
            h ∉ handlesAll (Request.performAll (p.release h).2 later).1) ∧
      ∀ answers last, Shuffled {} asked answers last →
        answers = answersTo asked ∧ last.Same (after asked) := by
  obtain ⟨sound, count, counted⟩ := counted_after few
  refine ⟨sound.dependable, counted, ?_, ?_⟩
  · rintro earlier h later rfl p known
    rw [answersTo_append, handlesAll_append, List.length_append] at few
    have few' : (handlesAll (answersTo earlier)).length < 2 ^ 64 := by omega
    obtain ⟨sound', count', -⟩ := counted_after few'
    rw [← count'] at few
    obtain ⟨⟨unseen, -⟩, unissued⟩ :=
      (sound'.spent_of_released known).performAll (sound'.release h) later few
    have last : (after (earlier ++ .release h :: later)).view h = none := by
      rw [after_append]
      exact unseen
    refine ⟨last, release_of_unseen last, fun id found => ?_, unissued⟩
    obtain ⟨s, shown, -⟩ := sound.find_eq_some_iff.mp found
    cases last.symm.trans shown
  · have start : ({} : LocalProducer).issued.toNat = 0 := rfl
    exact fun answers last run =>
      sound_new.eq_of_shuffled ⟨.refl _, rfl⟩ run (by rwa [start, Nat.zero_add])

/-- An identity is used, refused while it is in use, and used again under another handle. -/
theorem dependable_after_second_use :
    let asked : List Request :=
      [.create ⟨5⟩ {}, .create ⟨5⟩ {}, .release ⟨1⟩, .create ⟨5⟩ {}, .release ⟨1⟩,
        .change ⟨2⟩ [.flush]]
    (handlesAll (answersTo asked)).length < 2 ^ 64 ∧ (after asked).Dependable ∧
      handlesAll (answersTo asked) = [⟨1⟩, ⟨2⟩] ∧ (after asked).find ⟨5⟩ = some ⟨2⟩ ∧
      (after asked).view ⟨1⟩ = none ∧ (after asked).release ⟨1⟩ = (false, after asked) := by
  intro asked
  have few : (handlesAll (answersTo asked)).length < 2 ^ 64 := by decide
  obtain ⟨dependable, counted, released, -⟩ := dependable_after few
  obtain ⟨unseen, unknown, -, -⟩ := released [.create ⟨5⟩ {}, .create ⟨5⟩ {}] ⟨1⟩
    [.create ⟨5⟩ {}, .release ⟨1⟩, .change ⟨2⟩ [.flush]] rfl rfl
  exact ⟨few, dependable, counted, rfl, unseen, unknown⟩

end SceneBench.LocalProducer
