import SceneBench.Proofs.Registry.Lives
import SceneBench.Storage.Disk.Host

/-!
# Histories do not show

A registry bears out what calls tell of the scene under an identity: there is a scene exactly if
they tell of one, and it fits its life. One call keeps that, whichever scene it is about, and so
does every run of calls. What a standard scene shows is therefore settled by its kind and the last
state it entered. Neither the states before, nor calls that failed, nor calls about other scenes
make a difference.
-/

namespace SceneBench

variable {σ ρ : Type} [Routine ρ] {among : StandardAmong ρ} {host : Host σ}

namespace Registry

variable {r r' : Registry LocalProducer ρ} {id : SceneId} {pair : Pair ρ} {s : Scene}
  {life : Option (Life ρ)}

/-- A registry bears out what is told of the scene under an identity. -/
def Bears (r : Registry LocalProducer ρ) (id : SceneId) (among : StandardAmong ρ) (host : Host σ) :
    Option (Life ρ) → Prop
  | none => r.find? id = none
  | some life => ∃ pair s, r.find? id = some pair ∧ r.producer.view pair.handle = some s ∧
    ∀ storage request, life.setup = among.setup storage request →
      life.Fits among host request pair.routine s

omit [Routine ρ] in
theorem view_giveBack {h : Handle} (shown : r.producer.view h = some s) (s' : Scene) :
    (r.producer.giveBack h s').view h = some s' := by
  refine (Table.lookup_replace ..).trans ?_
  rw [if_pos rfl, show r.producer.scenes.lookup h = _ from shown]
  rfl

omit [Routine ρ] in
/-- Whoever is destroyed is gone, and nobody else. -/
theorem Sound.find?_destroy (sound : r.Sound) (id id' : SceneId) (host : Host σ) (w : World σ) :
    ((r.destroy id').run host w).1.2.find? id = if id' = id then none else r.find? id := by
  cases found : r.find? id' with
  | none =>
      rw [run_destroy_of_missing found]
      split
      case isTrue here => rw [← here, found]
      case isFalse => rfl
  | some pair =>
      rw [sound.run_destroy found]
      refine (Table.lookup_erase ..).trans ?_
      by_cases here : id' = id
      · rw [if_pos here, if_pos here.symm]
      · rw [if_neg here, if_neg (Ne.symm here)]
        rfl

omit [Routine ρ] in
/-- Nobody is left of those that are destroyed; by induction on them. -/
theorem Sound.find?_destroyEach (sound : r.Sound) (ids : List SceneId) (host : Host σ)
    (w : World σ) (gone : r.find? id = none ∨ id ∈ ids) :
    ((r.destroyEach ids).run host w).1.find? id = none := by
  induction ids generalizing r w with
  | nil => exact gone.resolve_right List.not_mem_nil
  | cons first rest ih =>
      simp only [Registry.destroyEach, Action.run_bind]
      refine ih (sound.destroy host w first).1 _ ?_
      rw [sound.find?_destroy]
      split
      case isTrue => exact .inl rfl
      case isFalse other =>
        refine gone.imp_right fun held => ?_
        exact (List.mem_cons.mp held).resolve_left (Ne.symm other)

namespace Bears

theorem congr (bears : r.Bears id among host life) (same : r.SameAt r' id) :
    r'.Bears id among host life := by
  cases life with
  | none => exact same.pair.trans bears
  | some life =>
      obtain ⟨pair, s, found, shown, fits⟩ := bears
      exact ⟨pair, s, same.pair.trans found, (same.scene pair found).trans shown, fits⟩

/-- Where there is a scene, its life is told. -/
theorem exists_life (bears : r.Bears id among host life) (found : r.find? id = some pair)
    (shown : r.producer.view pair.handle = some s) :
    ∃ life', life = some life' ∧ ∀ storage request,
      life'.setup = among.setup storage request →
        life'.Fits among host request pair.routine s := by
  cases life with
  | none => cases (show r.find? id = none from bears).symm.trans found
  | some life =>
      obtain ⟨pair', s', found', shown', fits⟩ := bears
      obtain rfl := Option.some.inj (found.symm.trans found')
      obtain rfl := Option.some.inj (shown.symm.trans shown')
      exact ⟨life, rfl, fits⟩

/-! ## What one call keeps -/

theorem create (bears : r.Bears id among host life) (sound : r.Sound)
    (left : r.producer.issued.toNat + 1 < 2 ^ 64) (chosen : Option SceneId)
    (settings : SceneSettings) (setup : Setup ρ) (w : World σ) :
    let done := ((r.create chosen settings setup).run host w).1
    done.2.Bears id among host
      ((Call.create chosen settings setup).tell id (.created done.1) life) := by
  cases free : r.contains (r.chooseId chosen).1 with
  | true =>
      rw [create_of_contains free, Action.run_pure]
      exact bears.congr (sameAt_chooseId r chosen id)
  | false =>
      rw [sound.run_create left free]
      dsimp only
      generalize made : ((setup (r.producer.newScene (r.chooseId chosen).1 settings)).run
        host w).1 = built
      obtain ⟨result, edits⟩ := built
      cases result with
      | error e => exact bears.congr (sameAt_afterFailure r chosen id)
      | ok routine =>
          dsimp only [Call.tell]
          split
          case isTrue here =>
            have unused : r.pairs.lookup id = none := by
              rw [← here]
              exact contains_eq_false_iff.mp free
            refine ⟨⟨r.producer.nextHandle, routine⟩, _, ?_,
              LocalProducer.view_add (sound.nextHandle_unused left) _, ?_⟩
            · rw [find?, Registry.afterCreation, here, Table.lookup_append_singleton, unused]
              simp
            · rintro storage request rfl
              exact Life.fits_of_setup rfl made
          case isFalse other =>
            exact bears.congr (sound.sameAt_afterCreation (Ne.symm other) routine _)

theorem setState (bears : r.Bears id among host life) (sound : r.Sound) (id' : SceneId)
    (kind : Kind) (state : UInt32) (w : World σ) :
    let done := ((r.setState id' kind state).run host w).1
    done.2.Bears id among host
      ((Call.setState id' kind state).tell id (.moved done.1) life) := by
  cases found : r.find? id' with
  | none =>
      rw [setState_of_missing found, Action.run_pure]
      dsimp only
      rwa [Call.tell_setState_error]
  | some pair =>
      by_cases right : Routine.kind pair.routine = kind
      case neg =>
        rw [setState_of_mismatch found right, Action.run_pure]
        dsimp only
        rwa [Call.tell_setState_error]
      subst right
      obtain ⟨s, shown, -, -⟩ := sound.exists_scene found
      rw [run_setState_of_view found shown]
      dsimp only [Call.tell]
      split
      case isTrue here =>
        subst here
        obtain ⟨life, rfl, fits⟩ := bears.exists_life found shown
        let turn := ((Routine.enter pair.routine s state).run host w).1
        refine ⟨{ pair with routine := turn.routine }, s.applyAll turn.edits, ?_,
          view_giveBack shown _, ?_⟩
        · rw [find?, Table.lookup_replace, if_pos rfl, show r.pairs.lookup id' = _ from found]
          rfl
        · intro storage request made
          rw [Life.setup_turn] at made
          exact (fits storage request made).turn state
      case isFalse other =>
        refine bears.congr (sound.sameAt_giveBack found (Ne.symm other) _ ?_)
        rw [Table.lookup_replace, if_neg (Ne.symm other)]

theorem edit (bears : r.Bears id among host life) (sound : r.Sound) (id' : SceneId)
    (change : Edit) :
    let done := r.edit id' change
    done.2.Bears id among host ((Call.edit id' change).tell id (.edited done.1) life) := by
  cases found : r.find? id' with
  | none =>
      rw [edit_of_missing found]
      exact bears
  | some pair =>
      obtain ⟨s, shown, -, -⟩ := sound.exists_scene found
      rw [edit_of_view found shown]
      dsimp only [Call.tell]
      split
      case isTrue here =>
        subst here
        obtain ⟨life, rfl, fits⟩ := bears.exists_life found shown
        refine ⟨pair, s.apply change, found, view_giveBack shown _, ?_⟩
        intro storage request made
        exact (fits storage request made).edit change
      case isFalse other =>
        exact bears.congr (sound.sameAt_giveBack found (Ne.symm other) _ rfl)

theorem destroy (bears : r.Bears id among host life) (sound : r.Sound) (id' : SceneId)
    (w : World σ) :
    let done := ((r.destroy id').run host w).1
    done.2.Bears id among host ((Call.destroy id').tell id (.destroyed done.1) life) := by
  dsimp only [Call.tell]
  split
  case isTrue here =>
    show Registry.find? _ id = none
    rw [sound.find?_destroy, if_pos here]
  case isFalse other =>
    cases found : r.find? id' with
    | none =>
        rw [run_destroy_of_missing found]
        exact bears
    | some pair =>
        rw [sound.run_destroy found]
        exact bears.congr (sound.sameAt_without found (Ne.symm other))

/-- What is told of a scene stays true with one more call and its answer. -/
theorem perform (bears : r.Bears id among host life) (sound : r.Sound) (call : Call ρ)
    (left : r.producer.issued.toNat + call.creations < 2 ^ 64) (w : World σ) :
    let done := ((call.perform r).run host w).1
    done.2.Bears id among host (call.tell id done.1 life) := by
  cases call <;> simp only [Call.perform, Action.run_bind, Action.run_pure]
  case create chosen settings setup => exact bears.create sound left chosen settings setup w
  case setState id' kind state => exact bears.setState sound id' kind state w
  case edit id' change => exact bears.edit sound id' change
  case destroy id' => exact bears.destroy sound id' w
  case destroyAll =>
    refine sound.find?_destroyEach _ host w ?_
    cases found : r.find? id with
    | none => exact .inl rfl
    | some pair => exact .inr (List.mem_map_of_mem (Table.mem_of_lookup found))

/-- What is told of a scene stays true in a run of calls, by induction on them. -/
theorem performAll (bears : r.Bears id among host life) (sound : r.Sound) (calls : List (Call ρ))
    (left : r.producer.issued.toNat + Call.creationsAll calls < 2 ^ 64) (w : World σ) :
    let done := ((Call.performAll r calls).run host w).1
    done.2.Bears id among host (Call.tellAll id calls done.1 life) := by
  induction calls generalizing r life w with
  | nil => exact bears
  | cons call rest ih =>
      have total : Call.creationsAll (call :: rest) = call.creations + Call.creationsAll rest :=
        List.sum_cons
      rw [total] at left
      obtain ⟨kept, issued⟩ := sound.perform host w call (by omega)
      simp only [Call.performAll, Action.run_bind, Action.run_pure]
      exact ih (bears.perform sound call (by omega) w) kept (by omega) _

/-! ## What is seen of a scene -/

/-- What the accessors of a registry tell of a scene that was made for a request. -/
theorem seen {life : Life ρ} (bears : r.Bears id among host (some life))
    {storage : StorageSettings} {request : SceneRequest}
    (made : life.setup = among.setup storage request) :
    ∃ s boxes, r.scene id = .ok s ∧ r.kind id = .ok request.kind ∧
      r.state id = .ok (life.state request.state) ∧
      request.kind.content (life.state request.state) = some boxes ∧
      (request.kind.Reliable host → life.edited = false → s.boxes = boxes) ∧
      (life.everEdited = false →
        s.flushes = 1 + life.moves.length ∧ s.camera = request.viewpoint) := by
  obtain ⟨⟨h, routine⟩, s, found, shown, all⟩ := bears
  have fits := all storage request made
  obtain ⟨own, embedded, kind, state⟩ := fits.routine
  obtain rfl : routine = among.embed own := embedded
  obtain ⟨boxes, known, same⟩ := fits.content
  refine ⟨s, boxes, scene_of_view found shown, ?_, ?_, known, same, ?_⟩
  · rw [Registry.kind, found]
    exact congrArg Except.ok ((among.kind_embed own).trans kind)
  · rw [Registry.state, found]
    exact congrArg Except.ok ((among.state_embed own).trans state)
  · intro never
    exact ⟨fits.frames never, fits.camera never⟩

/-- A life goes on with a change of state that comes off. -/
theorem moved {life : Life ρ} (bears : r.Bears id among host (some life)) (sound : r.Sound)
    {kind : Kind} {state : UInt32} {w : World σ}
    (moves : ((r.setState id kind state).run host w).1.1 = .ok ()) :
    ((r.setState id kind state).run host w).1.2.Bears id among host (some (life.move state)) := by
  have after := bears.setState sound id kind state w
  dsimp only at after
  rw [moves] at after
  simpa [Call.tell, Life.turn] using after

/-- A scene whose content is built goes into any state that its kind has. -/
theorem setState_of_built {life : Life ρ} (bears : r.Bears id among host (some life))
    {storage : StorageSettings} {request : SceneRequest}
    (made : life.setup = among.setup storage request) (built : request.kind ≠ .fileLoading)
    {state : UInt32} {boxes : List BoxRecord} (known : request.kind.content state = some boxes)
    (w : World σ) : ((r.setState id request.kind state).run host w).1.1 = .ok () := by
  obtain ⟨⟨h, routine⟩, s, found, shown, all⟩ := bears
  obtain ⟨own, embedded, kind, -⟩ := (all storage request made).routine
  obtain rfl : routine = among.embed own := embedded
  have actual : request.kind = Routine.kind (among.embed own) :=
    kind.symm.trans (among.kind_embed own).symm
  rw [← kind] at built known
  rw [actual, run_setState_of_view found shown, among.enter_embed]
  simp only [Action.run_bind, Action.run_pure]
  exact own.enter_of_built built known s host w

end Bears

/-- A creation that comes off begins a life. -/
theorem Sound.bears_created (sound : r.Sound) (left : r.producer.issued.toNat + 1 < 2 ^ 64)
    (among : StandardAmong ρ) {chosen : Option SceneId} {settings : SceneSettings}
    {setup : Setup ρ} {w : World σ}
    (created : ((r.create chosen settings setup).run host w).1.1 = .ok (r.chooseId chosen).1) :
    ((r.create chosen settings setup).run host w).1.2.Bears (r.chooseId chosen).1 among host
      (some { setup }) := by
  have free : r.contains (r.chooseId chosen).1 = false := by
    rw [Bool.eq_false_iff]
    intro used
    rw [create_of_contains used, Action.run_pure] at created
    cases created
  have missing : r.Bears (r.chooseId chosen).1 among host none := contains_eq_false_iff.mp free
  have bears := missing.create sound left chosen settings setup w
  dsimp only at bears
  rw [created] at bears
  simpa [Call.tell] using bears

/-- A scene whose content is built is made under any free identity, in any state that its kind
has. -/
theorem Sound.create_of_built (sound : r.Sound) (left : r.producer.issued.toNat + 1 < 2 ^ 64)
    (request : SceneRequest) (built : request.kind ≠ .fileLoading) {boxes : List BoxRecord}
    (known : request.kind.content request.state = some boxes)
    (free : r.contains (r.chooseId request.id).1 = false) (settings : SceneSettings)
    (storage : StorageSettings) (w : World σ) :
    ((r.create request.id settings (among.setup storage request)).run host w).1.1 =
      .ok (r.chooseId request.id).1 := by
  obtain ⟨own, ok⟩ := SceneRequest.setup_of_built built known storage
    (r.producer.newScene (r.chooseId request.id).1 settings) host w
  rw [sound.run_create left free]
  simp only [StandardAmong.setup, Action.run_bind, Action.run_pure, ok]
  rfl

end Registry

/-! ## Histories -/

namespace Call

/-- What a run of calls tells of the scene under an identity. -/
def lifeAfter (host : Host σ) (w : World σ) (calls : List (Call ρ)) (id : SceneId) :
    Option (Life ρ) :=
  tellAll id calls ((performAll .empty calls).run host w).1.1 none

theorem bears_after (among : StandardAmong ρ) (host : Host σ) (w : World σ)
    {calls : List (Call ρ)} (few : creationsAll calls < 2 ^ 64) (id : SceneId) :
    (after host w calls).Bears id among host (lifeAfter host w calls id) := by
  have start : (Registry.empty : Registry LocalProducer ρ).producer.issued.toNat = 0 := rfl
  have missing : (Registry.empty : Registry LocalProducer ρ).Bears id among host none := rfl
  exact missing.performAll Registry.sound_empty calls (by omega) w

end Call

/-- A run of calls, and a scene of which it tells that it was made for a request of a standard
kind. -/
structure History (among : StandardAmong ρ) where
  {σ : Type}
  host : Host σ
  start : World σ
  calls : List (Call ρ)
  few : Call.creationsAll calls < 2 ^ 64
  id : SceneId
  life : Life ρ
  told : Call.lifeAfter host start calls id = some life
  storage : StorageSettings
  request : SceneRequest
  made : life.setup = among.setup storage request

namespace History

variable (h : History among)

/-- The registry that the calls lead to. -/
def registry : Registry LocalProducer ρ := Call.after h.host h.start h.calls

/-- The state that the scene has entered last. -/
def state : UInt32 := h.life.state h.request.state

/-- The scene was not edited since then, and its content was shown as it is. -/
def Settled : Prop := h.request.kind.Reliable h.host ∧ h.life.edited = false

theorem bears : h.registry.Bears h.id among h.host (some h.life) := by
  rw [← h.told]
  exact Call.bears_after among h.host h.start h.few h.id

end History

/-- What scenes show does not tell their histories apart. -/
structure HistoriesHidden (among : StandardAmong ρ) : Prop where
  /-- Calls tell of the scenes that are registered, and of no others. -/
  told : ∀ {σ : Type} (host : Host σ) (w : World σ) (calls : List (Call ρ)) (id : SceneId),
    Call.creationsAll calls < 2 ^ 64 →
      (Call.after host w calls).contains id = (Call.lifeAfter host w calls id).isSome
  /-- A scene has the kind that was asked for, and a state that this kind has; its boxes are the
  content of both. If it was never edited it has shown one frame for each state. -/
  content : ∀ h : History among, ∃ s boxes,
    h.registry.scene h.id = .ok s ∧ h.registry.kind h.id = .ok h.request.kind ∧
      h.registry.state h.id = .ok h.state ∧ h.request.kind.Shows h.state boxes ∧
      (h.Settled → s.boxes = boxes) ∧
      (h.life.everEdited = false →
        s.flushes = 1 + h.life.moves.length ∧ s.camera = h.request.viewpoint)
  /-- Two histories of scenes of one kind that end in one state end with the same boxes. -/
  same : ∀ h h' : History among, h.request.kind = h'.request.kind → h.state = h'.state →
    h.Settled → h'.Settled → ∃ s s', h.registry.scene h.id = .ok s ∧
      h'.registry.scene h'.id = .ok s' ∧ s.boxes = s'.boxes
  /-- Making a scene in a state, and making it in another one and then going on to this state, come
  to the same. Where content is built neither of them fails. -/
  direct : ∀ {σ : Type} (host : Host σ) (w : World σ) (r : Registry LocalProducer ρ),
    r.Reachable → ∀ (settings : SceneSettings) (storage : StorageSettings)
      (request : SceneRequest) (first : UInt32),
    let id := (r.chooseId request.id).1
    let made (state : UInt32) :=
      (r.create request.id settings (among.setup storage { request with state })).run host w
    let direct := (made request.state).1
    let moved := (((made first).1.2.setState id request.kind request.state).run host
      (made first).2).1
    (request.kind ≠ .fileLoading → r.contains id = false →
      request.state.toNat < request.kind.states → first.toNat < request.kind.states →
        direct.1 = .ok id ∧ (made first).1.1 = .ok id ∧ moved.1 = .ok ()) ∧
    (request.kind.Reliable host →
      direct.1 = .ok id → (made first).1.1 = .ok id → moved.1 = .ok () →
        ∃ s s', direct.2.scene id = .ok s ∧ moved.2.scene id = .ok s' ∧
          s.boxes = s'.boxes ∧ s.camera = s'.camera ∧
          direct.2.kind id = moved.2.kind id ∧ direct.2.state id = moved.2.state id)

/-- Whatever is called, and whatever the operating system answers, histories do not show. -/
theorem histories_hidden (among : StandardAmong ρ) : HistoriesHidden among where
  told host w calls id few := by
    have bears := Call.bears_after among host w few id
    cases told : Call.lifeAfter host w calls id with
    | none =>
        rw [told] at bears
        exact Registry.contains_eq_false_iff.mpr bears
    | some life =>
        rw [told] at bears
        obtain ⟨pair, s, found, -, -⟩ := bears
        exact Registry.contains_eq_true_iff.mpr ⟨pair, found⟩
  content h := by
    obtain ⟨s, boxes, scene, kind, state, known, same, never⟩ := h.bears.seen h.made
    have shows := Kind.content_eq_some_iff.mp known
    exact ⟨s, boxes, scene, kind, state, shows, fun settled => same settled.1 settled.2, never⟩
  same h h' kinds states settled settled' := by
    obtain ⟨s, boxes, scene, -, -, known, same, -⟩ := h.bears.seen h.made
    obtain ⟨s', boxes', scene', -, -, known', same', -⟩ := h'.bears.seen h'.made
    have content : some boxes = some boxes' := by
      rw [← known, ← known', kinds]
      exact congrArg _ states
    refine ⟨s, s', scene, scene', ?_⟩
    rw [same settled.1 settled.2, same' settled'.1 settled'.2, Option.some.inj content]
  direct {σ} host w r reachable settings storage request first := by
    intro id made direct moved
    have sound := reachable.sound
    have left := reachable.handle_left
    let asked (state : UInt32) : SceneRequest := { request with state }
    have begun (state : UInt32) (created : (made state).1.1 = .ok id) :
        (made state).1.2.Bears id among host
          (some { setup := among.setup storage (asked state) }) :=
      sound.bears_created left among created
    constructor
    · intro built free few few'
      obtain ⟨boxes, known⟩ := Kind.exists_content_iff.mpr few
      obtain ⟨boxes', known'⟩ := Kind.exists_content_iff.mpr few'
      have ok : (made request.state).1.1 = .ok id :=
        sound.create_of_built left (asked request.state) built known free settings storage w
      have ok' : (made first).1.1 = .ok id :=
        sound.create_of_built left (asked first) built known' free settings storage w
      exact ⟨ok, ok', (begun first ok').setState_of_built rfl built known _⟩
    · intro reliable ok ok' moves
      have kept := (sound.create host w left request.id settings
        (among.setup storage (asked first))).1
      obtain ⟨s, boxes, scene, kind, state, known, same, never⟩ :=
        (begun request.state ok).seen rfl
      obtain ⟨s', boxes', scene', kind', state', known', same', never'⟩ :=
        ((begun first ok').moved kept moves).seen rfl
      rw [Life.state_move] at state' known'
      refine ⟨s, s', scene, scene', ?_, ?_, kind.trans kind'.symm, state.trans state'.symm⟩
      · rw [same reliable rfl, same' reliable rfl]
        exact Option.some.inj (known.symm.trans known')
      · exact (never rfl).2.trans (never' rfl).2.symm

/-- A grid that was edited, failed to go to a state it does not have, and was moved while another
scene went its own way, shows the same as one that was made in the state it went to. -/
theorem histories_hidden_grid :
    let calls : List (Call StandardRoutine) :=
      [ .createKind none .boxGrid 3 .zero {},
        .createKind (some ⟨5⟩) .walls 0 .zero {},
        .edit ⟨1⟩ .clear,
        .setState ⟨1⟩ .boxGrid 99,
        .setState ⟨5⟩ .walls 1,
        .setState ⟨1⟩ .boxGrid 1 ]
    let direct : List (Call StandardRoutine) := [.createKind none .boxGrid 1 .zero {}]
    ∃ s s', (Call.after Disk.host ⟨.fresh, []⟩ calls).scene ⟨1⟩ = .ok s ∧
      (Call.after Disk.host ⟨.fresh, []⟩ direct).scene ⟨1⟩ = .ok s' ∧ s.boxes = s'.boxes := by
  intro calls direct
  let grid (state : UInt32) : SceneRequest := { kind := .boxGrid, state }
  have asked (state : UInt32) :
      StandardRoutine.setup .boxGrid state .zero = StandardAmong.alone.setup {} (grid state) :=
    (StandardAmong.setup_alone {} (grid state)).symm
  let moved : History StandardAmong.alone :=
    { host := Disk.host
      start := ⟨.fresh, []⟩
      calls
      few := by decide
      id := ⟨1⟩
      life := ⟨StandardRoutine.setup .boxGrid 3 .zero, [1], false, true⟩
      told := rfl
      storage := {}
      request := grid 3
      made := asked 3 }
  let made : History StandardAmong.alone :=
    { host := Disk.host
      start := ⟨.fresh, []⟩
      calls := direct
      few := by decide
      id := ⟨1⟩
      life := ⟨StandardRoutine.setup .boxGrid 1 .zero, [], false, false⟩
      told := rfl
      storage := {}
      request := grid 1
      made := asked 1 }
  exact (histories_hidden .alone).same moved made rfl rfl ⟨Kind.reliable_disk _, rfl⟩
    ⟨Kind.reliable_disk _, rfl⟩

end SceneBench
