import SceneBench.Proofs.Registry.Links

/-!
# What the requests of a registry do

A producer may refuse a scene, hand out any handle, lose what it made and forget what it is to
release. Every request of a registry is told here over such a producer: which questions it asks in
which order, and what it makes of the answers. Of a creation there are five endings, one for each
question that can be answered badly, and all of them but one leave the table of pairs as it was.
Later modules rest on these equations and do not look into the requests again.
-/

namespace SceneBench

/-- The world after one more notice. -/
def World.note {σ : Type} (w : World σ) (notice : Notice) : World σ :=
  { w with log := w.log ++ [notice] }

@[simp] theorem Action.run_say {σ : Type} (host : Host σ) (notice : Notice) (w : World σ) :
    (Action.say notice).run host w = ((), w.note notice) := rfl

namespace Registry

variable {σ π ρ : Type} {id : SceneId} {pair : Pair ρ}

/-! ## Identities -/

section Choosing

variable (r : Registry π ρ) (chosen : Option SceneId)

@[simp] theorem pairs_chooseId : (r.chooseId chosen).2.pairs = r.pairs := by
  cases chosen <;> rfl

@[simp] theorem producer_chooseId : (r.chooseId chosen).2.producer = r.producer := by
  cases chosen <;> rfl

@[simp] theorem contains_chooseId (id : SceneId) :
    (r.chooseId chosen).2.contains id = r.contains id := by
  cases chosen <;> rfl

/-- Choosing an identity moves nothing but the counter. -/
theorem chooseId_snd :
    (r.chooseId chosen).2 = { r with nextId := (r.chooseId chosen).2.nextId } := by
  cases chosen <;> rfl

end Choosing

/-- A table of pairs takes a pair in place of the one that is there. -/
theorem put_of_find? {r : Registry π ρ} (found : r.find? id = some pair) (pair' : Pair ρ) :
    r.put id pair' = { r with pairs := Table.replace r.pairs id pair' } := by
  rw [put, if_pos (contains_eq_true_iff.mpr ⟨pair, found⟩)]
  rfl

theorem put_of_unused {r : Registry π ρ} (unused : r.contains id = false) (pair' : Pair ρ) :
    r.put id pair' = { r with pairs := r.pairs ++ [(id, pair')] } := by
  rw [put, if_neg (by simp [unused])]

variable [Producer π] {r : Registry π ρ}

/-- What is lent comes back with its edits, if there is anything to lend. -/
theorem run_lend_eq {α : Type} (r : Registry π ρ) (h : Handle) (missing : α)
    (use : Scene → Action (α × List Edit)) (host : Host σ) (w : World σ) :
    (r.lend h missing use).run host w =
      match Producer.borrow r.producer h with
      | (none, p) => ((missing, { r with producer := p }), w)
      | (some s, p) =>
        let used := (use s).run host w
        ((used.1.1, { r with producer := Producer.giveBack p h (s.applyAll used.1.2) }),
          used.2) := by
  unfold lend
  generalize Producer.borrow r.producer h = borrowed
  obtain ⟨scene, p⟩ := borrowed
  cases scene with
  | none => rfl
  | some s => simp only [Action.run_bind, Action.run_pure]

/-! ## Destroying -/

/-- A registered scene is destroyed, and a producer that did not know it any more is noted. -/
theorem run_destroy_eq (found : r.find? id = some pair) (host : Host σ) (w : World σ) :
    (r.destroy id).run host w =
      let released := Producer.release r.producer pair.handle
      ((true, { r with producer := released.2, pairs := Table.erase r.pairs id }),
        (if released.1 then w else w.note (.producerForgot id)).note (.sceneDestroyed id)) := by
  rw [destroy, found]
  dsimp only
  generalize Producer.release r.producer pair.handle = released
  obtain ⟨known, p⟩ := released
  cases known with
  | false => rfl
  | true => rfl

theorem run_destroy_of_missing (missing : r.find? id = none) (host : Host σ) (w : World σ) :
    (r.destroy id).run host w = ((false, r), w.note (.destroyIgnored id)) := by
  rw [destroy, missing]
  rfl

/-- What releasing handles, each with the identity it was held for, comes to: the producer after it,
and the notices. -/
def releaseEach (p : π) : List (SceneId × Handle) → π × List Notice
  | [] => (p, [])
  | (id, h) :: rest =>
    let released := Producer.release p h
    let others := releaseEach released.2 rest
    (others.1, (if released.1 then [] else [.producerForgot id]) ++ .sceneDestroyed id :: others.2)

/-- Destroying every scene releases each handle once and leaves no pair. -/
theorem run_destroyAll_eq (ids : (r.pairs.map Prod.fst).Nodup) (host : Host σ) (w : World σ) :
    r.destroyAll.run host w =
      let others := releaseEach r.producer r.links
      ({ r with producer := others.1, pairs := [] }, { w with log := w.log ++ others.2 }) := by
  obtain ⟨p, n, pairs⟩ := r
  rw [destroyAll]
  dsimp only
  induction pairs generalizing p w with
  | nil => simp [destroyEach, Action.run_pure, links, releaseEach]
  | cons entry rest ih =>
      obtain ⟨id, pair⟩ := entry
      rw [List.map_cons, List.nodup_cons] at ids
      have found : find? ⟨p, n, (id, pair) :: rest⟩ id = some pair := List.lookup_cons_self
      have left : Table.erase ((id, pair) :: rest) id = rest :=
        Table.erase_cons_self ids.1
      simp only [List.map_cons, destroyEach, Action.run_bind, run_destroy_eq found, left,
        ih _ _ ids.2, links, releaseEach]
      cases (Producer.release p pair.handle).1 <;> simp [World.note]

/-! ## Looking at scenes and changing them -/

/-- What is not registered is not shown. -/
theorem scene_of_missing (missing : r.find? id = none) :
    r.scene id = .error (.unknownScene id) := by
  rw [scene, missing]
  rfl

/-- A scene is changed where it can be borrowed. -/
theorem edit_eq (found : r.find? id = some pair) (change : Edit) :
    r.edit id change =
      match Producer.borrow r.producer pair.handle with
      | (none, p) => (.error (.unknownScene id), { r with producer := p })
      | (some s, p) =>
        (.ok (s.apply change),
          { r with producer := Producer.giveBack p pair.handle (s.apply change) }) := by
  rcases lent : Producer.borrow r.producer pair.handle with ⟨none | s, p⟩
  · simp only [edit, found, lent]
  · simp only [edit, found, lent]

theorem edit_of_missing (missing : r.find? id = none) (change : Edit) :
    r.edit id change = (.error (.unknownScene id), r) := by
  rw [edit, missing]

variable [Routine ρ]

/-- What is not registered cannot be moved. -/
theorem setState_of_missing (missing : r.find? id = none) (kind : Kind) (state : UInt32) :
    r.setState id kind state = pure (.error (.unknownScene id), r) := by
  rw [setState, missing]

/-- A caller who is wrong about the kind of a scene is told the right one. -/
theorem setState_of_mismatch (found : r.find? id = some pair) {kind : Kind}
    (wrong : Routine.kind pair.routine ≠ kind) (state : UInt32) :
    r.setState id kind state =
      pure (.error (.kindMismatch id kind (Routine.kind pair.routine)), r) := by
  simp only [setState, found, ne_eq, wrong, not_false_eq_true, if_true]

/-- Where the kind is right and the scene can be borrowed, the routine decides about a change of
state. The pair keeps its handle in any case. -/
theorem run_setState_eq (found : r.find? id = some pair) (state : UInt32) (host : Host σ)
    (w : World σ) :
    (r.setState id (Routine.kind pair.routine) state).run host w =
      match Producer.borrow r.producer pair.handle with
      | (none, p) =>
        ((.error (.unknownScene id),
          { r with producer := p, pairs := Table.replace r.pairs id pair }), w)
      | (some s, p) =>
        let entered := (Routine.enter pair.routine s state).run host w
        let turn := entered.1
        ((turn.result,
          { r with
            producer := Producer.giveBack p pair.handle (s.applyAll turn.edits)
            pairs := Table.replace r.pairs id { pair with routine := turn.routine } }),
          if turn.result matches .ok () then entered.2.note (.sceneMoved id state)
          else entered.2) := by
  rw [setState, found]
  simp only [ne_eq, not_true_eq_false, if_false, Action.run_bind]
  rw [run_lend_eq]
  generalize Producer.borrow r.producer pair.handle = borrowed
  obtain ⟨scene, p⟩ := borrowed
  cases scene with
  | none =>
      dsimp only
      rw [put_of_find? (by exact found)]
      rfl
  | some s =>
      simp only [Action.run_bind, Action.run_pure]
      rw [put_of_find? (by exact found)]
      generalize (Routine.enter pair.routine s state).run host w = entered
      obtain ⟨⟨result, routine, edits⟩, after⟩ := entered
      cases result with
      | error e => rfl
      | ok done => rfl

/-! ## Creating -/

/-- An identity in use is refused, and that is all that happens, whatever the producer. -/
theorem create_of_contains {chosen : Option SceneId}
    (used : r.contains (r.chooseId chosen).1 = true) (settings : SceneSettings)
    (setup : Setup ρ) :
    r.create chosen settings setup =
      pure (.error (.duplicateScene (r.chooseId chosen).1), (r.chooseId chosen).2) := by
  unfold create
  simp [used]

/-- Under a free identity the producer is asked for a scene and for the use of it, and then the
set-up decides. Whatever goes wrong once there is a handle, the handle is released. -/
theorem run_create_eq {chosen : Option SceneId}
    (free : r.contains (r.chooseId chosen).1 = false) (settings : SceneSettings)
    (setup : Setup ρ) (host : Host σ) (w : World σ) :
    (r.create chosen settings setup).run host w =
      let id := (r.chooseId chosen).1
      let counted := (r.chooseId chosen).2
      match Producer.create r.producer id settings with
      | (.error e, p) => ((.error e, { counted with producer := p }), w)
      | (.ok h, p) =>
        match Producer.borrow p h with
        | (none, p) =>
          ((.error (.producer id "created scene is not reachable"),
            { counted with producer := (Producer.release p h).2 }), w)
        | (some s, p) =>
          let built := (setup s).run host w
          let p := Producer.giveBack p h (s.applyAll built.1.2)
          match built.1.1 with
          | .error e =>
            ((.error e, { counted with producer := (Producer.release p h).2 }), built.2)
          | .ok routine =>
            ((.ok id, { counted with producer := p, pairs := r.pairs ++ [(id, ⟨h, routine⟩)] }),
              built.2.note (.sceneCreated id (Routine.kind routine) (Routine.state routine))) := by
  have free' : (r.chooseId chosen).2.contains (r.chooseId chosen).1 = false := by
    rw [contains_chooseId, free]
  have pairs : (r.chooseId chosen).2.pairs = r.pairs := pairs_chooseId r chosen
  unfold create
  rw [← producer_chooseId r chosen, ← pairs]
  generalize r.chooseId chosen = choice at free' ⊢
  obtain ⟨id, counted⟩ := choice
  simp only [free', Bool.false_eq_true, if_false]
  generalize Producer.create counted.producer id settings = made
  obtain ⟨answer, p⟩ := made
  cases answer with
  | error e => rfl
  | ok h =>
      simp only [Action.run_bind, run_lend_eq]
      generalize Producer.borrow p h = borrowed
      obtain ⟨scene, p⟩ := borrowed
      cases scene with
      | none => rfl
      | some s =>
          dsimp only
          generalize (setup s).run host w = built
          obtain ⟨⟨result, edits⟩, after⟩ := built
          cases result with
          | error e => rfl
          | ok routine =>
              simp only [Action.run_bind, Action.run_say, Action.run_pure]
              rw [put_of_unused (by exact free')]

end Registry

end SceneBench
