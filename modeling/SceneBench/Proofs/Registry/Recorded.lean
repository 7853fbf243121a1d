import SceneBench.Proofs.Registry.Requests
import SceneBench.Proofs.Registry.Calls

/-!
# Dealings with a producer

Any producer can be put under record: it goes on to answer as before, and next to it stands a list
of what it was asked about which handle. The record makes no difference to a registry, which comes
to the same answers and the same pairs with and without it. What one call adds to it follows rules
that are told here without any producer, in terms of the handles that the pairs hold.
-/

namespace SceneBench

variable {σ π ρ : Type}

/-- A dealing with a producer about a handle: the producer issued it for a new scene, its scene was
borrowed, if there was one, and returned, or it was released. -/
inductive Dealing where
  | issued (h : Handle)
  | borrowed (h : Handle)
  | returned (h : Handle)
  | released (h : Handle)
  deriving DecidableEq, Repr

/-- The handle that a dealing is about. -/
def Dealing.handle : Dealing → Handle
  | issued h | borrowed h | returned h | released h => h

/-! ## Producers under record -/

/-- A producer together with the dealings with it so far. -/
structure Recorded (π : Type) where
  inner : π
  dealings : List Dealing := []

namespace Recorded

variable [Producer π]

def create (p : Recorded π) (id : SceneId) (settings : SceneSettings) :
    Except SceneError Handle × Recorded π :=
  match Producer.create p.inner id settings with
  | (.ok h, inner) => (.ok h, ⟨inner, p.dealings ++ [.issued h]⟩)
  | (.error e, inner) => (.error e, ⟨inner, p.dealings⟩)

def borrow (p : Recorded π) (h : Handle) : Option Scene × Recorded π :=
  let (scene, inner) := Producer.borrow p.inner h
  (scene, ⟨inner, p.dealings ++ [.borrowed h]⟩)

def giveBack (p : Recorded π) (h : Handle) (s : Scene) : Recorded π :=
  ⟨Producer.giveBack p.inner h s, p.dealings ++ [.returned h]⟩

def release (p : Recorded π) (h : Handle) : Bool × Recorded π :=
  let (known, inner) := Producer.release p.inner h
  (known, ⟨inner, p.dealings ++ [.released h]⟩)

instance : Producer (Recorded π) where
  create := create
  view p := Producer.view p.inner
  borrow := borrow
  giveBack := giveBack
  release := release

variable {p : Recorded π} {q : π} {id : SceneId} {settings : SceneSettings} {h : Handle}

theorem create_of_ok (made : Producer.create p.inner id settings = (.ok h, q)) :
    Producer.create p id settings = (.ok h, ⟨q, p.dealings ++ [.issued h]⟩) := by
  show create p id settings = _
  rw [create, made]

theorem create_of_error {e : SceneError}
    (failed : Producer.create p.inner id settings = (.error e, q)) :
    Producer.create p id settings = (.error e, ⟨q, p.dealings⟩) := by
  show create p id settings = _
  rw [create, failed]

theorem borrow_eq {s : Option Scene} (lent : Producer.borrow p.inner h = (s, q)) :
    Producer.borrow p h = (s, ⟨q, p.dealings ++ [.borrowed h]⟩) := by
  show borrow p h = _
  rw [borrow, lent]

theorem giveBack_dealings (p : Recorded π) (h : Handle) (s : Scene) :
    (Producer.giveBack p h s).dealings = p.dealings ++ [.returned h] := rfl

theorem release_dealings (p : Recorded π) (h : Handle) :
    (Producer.release p h).2.dealings = p.dealings ++ [.released h] := rfl

/-- Every release of many is on record. -/
theorem releaseEach_eq (p : Recorded π) (held : List (SceneId × Handle)) :
    Registry.releaseEach p held =
      let others := Registry.releaseEach p.inner held
      (⟨others.1, p.dealings ++ held.map fun link => .released link.2⟩, others.2) := by
  induction held generalizing p with
  | nil => simp [Registry.releaseEach]
  | cons link rest ih =>
      simp only [Registry.releaseEach, ih, release_dealings, List.map_cons]
      rw [List.append_assoc]
      rfl

end Recorded

namespace Registry

theorem keys_links (r : Registry π ρ) : r.links.map Prod.fst = r.pairs.map Prod.fst := by
  rw [links, List.map_map]
  rfl

/-- The registry over the producer without the record. -/
def bare (r : Registry (Recorded π) ρ) : Registry π ρ where
  producer := r.producer.inner
  nextId := r.nextId
  pairs := r.pairs

/-- The dealings that a registry has had with its producer. -/
def dealings (r : Registry (Recorded π) ρ) : List Dealing := r.producer.dealings

theorem bare_producer (r : Registry (Recorded π) ρ) : r.bare.producer = r.producer.inner := rfl

@[simp] theorem bare_find? (r : Registry (Recorded π) ρ) (id : SceneId) :
    r.bare.find? id = r.find? id := rfl

@[simp] theorem bare_contains (r : Registry (Recorded π) ρ) (id : SceneId) :
    r.bare.contains id = r.contains id := rfl

theorem bare_firstFree (r : Registry (Recorded π) ρ) (fuel : Nat) (counter : UInt32) :
    r.bare.firstFree fuel counter = r.firstFree fuel counter := by
  induction fuel generalizing counter with
  | zero => rfl
  | succ fuel ih => rw [firstFree, firstFree, bare_contains, ih]

@[simp] theorem bare_chooseId (r : Registry (Recorded π) ρ) (chosen : Option SceneId) :
    r.bare.chooseId chosen = ((r.chooseId chosen).1, (r.chooseId chosen).2.bare) := by
  cases chosen with
  | some id => rfl
  | none =>
      have free : r.bare.firstFree r.bare.size r.bare.nextId = r.firstFree r.size r.nextId :=
        r.bare_firstFree _ _
      rw [chooseId, allocate, free]
      rfl

theorem links_concat (r : Registry π ρ) (p : π) (n : UInt32) (id : SceneId) (pair : Pair ρ) :
    links ⟨p, n, r.pairs ++ [(id, pair)]⟩ = r.links ++ [(id, pair.handle)] :=
  List.map_append

/-- What leaving out a pair does to the handles that are held. -/
theorem links_split {r : Registry π ρ} {id : SceneId} {pair : Pair ρ}
    (ids : (r.pairs.map Prod.fst).Nodup) (found : r.find? id = some pair) (p : π) :
    ∃ before after, r.links = before ++ (id, pair.handle) :: after ∧
      links ⟨p, r.nextId, Table.erase r.pairs id⟩ = before ++ after := by
  obtain ⟨before, after, pairs, erased, -⟩ := Table.split_of_lookup ids found
  let link : SceneId × Pair ρ → SceneId × Handle := fun entry => (entry.1, entry.2.handle)
  refine ⟨before.map link, after.map link, ?_, ?_⟩
  · rw [links, pairs, List.map_append, List.map_cons]
  · rw [links, erased, List.map_append]

/-- Another routine with a pair holds the same handle. -/
theorem links_replace {r : Registry π ρ} {id : SceneId} {pair : Pair ρ}
    (ids : (r.pairs.map Prod.fst).Nodup) (found : r.find? id = some pair) (p : π) (routine : ρ) :
    links ⟨p, r.nextId, Table.replace r.pairs id ⟨pair.handle, routine⟩⟩ = r.links := by
  obtain ⟨before, after, pairs, -, replaced⟩ := Table.split_of_lookup ids found
  rw [links, links, replaced, pairs, List.map_append, List.map_append]
  rfl

end Registry

/-! ## The rules -/

namespace Call

/-- The identity of the scene that a call is about to look up and change. -/
def visits : Call ρ → Option SceneId
  | setState id _ _ | edit id _ => some id
  | create .. | destroy .. | destroyAll => none

/-- What a call and its answer mean for the handles that are held under identities. -/
inductive Deals (held : List (SceneId × Handle)) :
    Call ρ → Reply → List Dealing → List (SceneId × Handle) → Prop
  /-- A creation may be refused before there is a handle. -/
  | refused {chosen settings setup} (e : SceneError) :
    Deals held (create chosen settings setup) (.created (.error e)) [] held
  /-- If it fails after that, it releases its handle. -/
  | unreachable {chosen settings setup} (e : SceneError) (h : Handle) :
    Deals held (create chosen settings setup) (.created (.error e))
      [.issued h, .borrowed h, .released h] held
  | undone {chosen settings setup} (e : SceneError) (h : Handle) :
    Deals held (create chosen settings setup) (.created (.error e))
      [.issued h, .borrowed h, .returned h, .released h] held
  /-- If it comes off, a new pair holds the handle. -/
  | made {chosen settings setup id} (h : Handle) (new : id ∉ held.map Prod.fst) :
    Deals held (create chosen settings setup) (.created (.ok id))
      [.issued h, .borrowed h, .returned h] (held ++ [(id, h)])
  /-- A call about one scene borrows it, if at all, by the handle that is held for it. -/
  | unasked {call id reply} (visit : call.visits = some id) : Deals held call reply [] held
  | missed {call id reply h} (visit : call.visits = some id) (holds : (id, h) ∈ held) :
    Deals held call reply [.borrowed h] held
  | visited {call id reply h} (visit : call.visits = some id) (holds : (id, h) ∈ held) :
    Deals held call reply [.borrowed h, .returned h] held
  /-- Destroying releases the handle that was held, once for each pair. -/
  | ignored {id} (missing : id ∉ held.map Prod.fst) :
    Deals held (destroy id) (.destroyed false) [] held
  | destroyed {id h before after} (holds : held = before ++ (id, h) :: after) :
    Deals held (destroy id) (.destroyed true) [.released h] (before ++ after)
  | cleared : Deals held destroyAll .cleared (held.map fun link => .released link.2) []

/-- No identity comes to be held twice. -/
theorem Deals.nodup {held held' : List (SceneId × Handle)} {call : Call ρ} {reply : Reply}
    {dealings : List Dealing} (deals : call.Deals held reply dealings held')
    (ids : (held.map Prod.fst).Nodup) : (held'.map Prod.fst).Nodup := by
  cases deals with
  | made h new =>
      rw [List.map_append, List.map_singleton, ← List.concat_eq_append]
      exact ids.concat new
  | destroyed holds =>
      subst holds
      exact ids.sublist (((List.sublist_cons_self ..).append_left _).map _)
  | cleared => exact List.nodup_nil
  | _ => exact ids

/-- The dealings of a call are about handles that were held before it, or else about the one that
it was issued. -/
theorem Deals.handles {held held' : List (SceneId × Handle)} {call : Call ρ} {reply : Reply}
    {dealings : List Dealing} (deals : call.Deals held reply dealings held') :
    (∀ d ∈ dealings, d.handle ∈ held.map Prod.snd) ∨
      ∃ h rest, dealings = .issued h :: rest ∧ ∀ d ∈ rest, d.handle = h := by
  cases deals with
  | refused | unasked | ignored => exact .inl (by simp)
  | unreachable e h | undone e h | made h new => exact .inr ⟨h, _, rfl, by simp [Dealing.handle]⟩
  | missed visit holds | visited visit holds =>
      have holds := List.mem_map_of_mem (f := Prod.snd) holds
      exact .inl (by simpa [Dealing.handle] using holds)
  | destroyed holds => exact .inl (by simp [holds, Dealing.handle])
  | cleared =>
      refine .inl fun d dealt => ?_
      obtain ⟨link, linked, rfl⟩ := List.mem_map.mp dealt
      exact List.mem_map_of_mem linked

end Call

/-! ## What requests add to the record -/

namespace Registry

variable [Producer π]

/-- What a call comes to, with the record and without it: both agree on all but the record, and this
has grown by the rules. -/
structure Recounts (r : Registry (Recorded π) ρ) (call : Call ρ)
    (done : (Reply × Registry (Recorded π) ρ) × World σ)
    (plain : (Reply × Registry π ρ) × World σ) : Prop where
  same : plain = ((done.1.1, done.1.2.bare), done.2)
  deals : ∃ dealings, done.1.2.dealings = r.dealings ++ dealings ∧
    call.Deals r.links done.1.1 dealings done.1.2.links

variable [Routine ρ] (r : Registry (Recorded π) ρ) (host : Host σ) (w : World σ)

/-- Under a free identity the producer is asked, and a handle that it issues is either held in the
end or released. -/
theorem recounts_create_of_free {chosen : Option SceneId}
    (free : r.contains (r.chooseId chosen).1 = false) (settings : SceneSettings)
    (setup : Setup ρ) :
    r.Recounts (.create chosen settings setup)
      (((Call.create chosen settings setup).perform r).run host w)
      (((Call.create chosen settings setup).perform r.bare).run host w) := by
  have free' : r.bare.contains (r.bare.chooseId chosen).1 = false := by simpa using free
  have new : (r.chooseId chosen).1 ∉ r.links.map Prod.fst := by
    rw [keys_links, ← contains_iff_mem, free]
    exact Bool.false_ne_true
  have links (p : Recorded π) :
      Registry.links { (r.chooseId chosen).2 with producer := p } = r.links :=
    congrArg (List.map _) (pairs_chooseId r chosen)
  simp only [Call.perform, Action.run_bind, Action.run_pure]
  rw [run_create_eq free, run_create_eq free', bare_chooseId, bare_producer]
  dsimp only
  rcases made : Producer.create r.producer.inner (r.chooseId chosen).1 settings with ⟨e | h, p⟩
  · rw [Recorded.create_of_error made]
    refine ⟨rfl, [], (List.append_nil _).symm, ?_⟩
    dsimp only
    rw [links]
    exact .refused e
  rw [Recorded.create_of_ok made]
  dsimp only
  rcases lent : Producer.borrow p h with ⟨none | s, p'⟩
  · rw [Recorded.borrow_eq lent]
    refine ⟨rfl, [.issued h, .borrowed h, .released h], ?_, ?_⟩
    · simp [Registry.dealings, Recorded.release_dealings]
    · dsimp only
      rw [links]
      exact .unreachable _ h
  rw [Recorded.borrow_eq lent]
  dsimp only
  rcases (setup s).run host w with ⟨⟨e | routine, edits⟩, w'⟩
  · refine ⟨rfl, [.issued h, .borrowed h, .returned h, .released h], ?_, ?_⟩
    · simp [Registry.dealings, Recorded.release_dealings, Recorded.giveBack_dealings]
    · dsimp only
      rw [links]
      exact .undone e h
  · refine ⟨rfl, [.issued h, .borrowed h, .returned h], ?_, ?_⟩
    · simp [Registry.dealings, Recorded.giveBack_dealings]
    · dsimp only
      rw [links_concat]
      exact .made h new

/-- A creation, however it ends. -/
theorem recounts_create (chosen : Option SceneId) (settings : SceneSettings) (setup : Setup ρ) :
    r.Recounts (.create chosen settings setup)
      (((Call.create chosen settings setup).perform r).run host w)
      (((Call.create chosen settings setup).perform r.bare).run host w) := by
  cases free : r.contains (r.chooseId chosen).1 with
  | false => exact r.recounts_create_of_free host w free settings setup
  | true =>
      have free' : r.bare.contains (r.bare.chooseId chosen).1 = true := by simpa using free
      have links : (r.chooseId chosen).2.links = r.links :=
        congrArg (List.map _) (pairs_chooseId r chosen)
      have dealings : (r.chooseId chosen).2.dealings = r.dealings :=
        congrArg Recorded.dealings (producer_chooseId r chosen)
      simp only [Call.perform, Action.run_bind, Action.run_pure]
      rw [create_of_contains free, create_of_contains free', bare_chooseId]
      refine ⟨rfl, [], ?_, ?_⟩
      · rw [List.append_nil]
        exact dealings
      · rw [← links]
        exact .refused _

/-- A change of state, however it ends. -/
theorem recounts_setState (ids : (r.links.map Prod.fst).Nodup) (id : SceneId) (kind : Kind)
    (state : UInt32) :
    r.Recounts (.setState id kind state)
      (((Call.setState id kind state).perform r).run host w)
      (((Call.setState id kind state).perform r.bare).run host w) := by
  simp only [Call.perform, Action.run_bind, Action.run_pure]
  cases found : r.find? id with
  | none =>
      rw [setState_of_missing found, setState_of_missing (by exact found)]
      exact ⟨rfl, [], (List.append_nil _).symm, .unasked rfl⟩
  | some pair =>
      have holds : (id, pair.handle) ∈ r.links := List.mem_map_of_mem (Table.mem_of_lookup found)
      by_cases right : Routine.kind pair.routine = kind
      · subst right
        rw [keys_links] at ids
        have kept := links_replace ids found
        rw [run_setState_eq found, run_setState_eq (by exact found)]
        rcases lent : Producer.borrow r.producer.inner pair.handle with ⟨none | s, p⟩
        · rw [bare_producer, lent, Recorded.borrow_eq lent]
          refine ⟨rfl, [.borrowed pair.handle], rfl, ?_⟩
          dsimp only
          rw [kept]
          exact .missed rfl holds
        · rw [bare_producer, lent, Recorded.borrow_eq lent]
          dsimp only
          refine ⟨rfl, [.borrowed pair.handle, .returned pair.handle], ?_, ?_⟩
          · simp [Registry.dealings, Recorded.giveBack_dealings]
          · rw [kept]
            exact .visited rfl holds
      · rw [setState_of_mismatch found right, setState_of_mismatch (by exact found) right]
        exact ⟨rfl, [], (List.append_nil _).symm, .unasked rfl⟩

/-- A change to a scene, however it ends. -/
theorem recounts_edit (id : SceneId) (change : Edit) :
    r.Recounts (.edit id change) (((Call.edit id change).perform r).run host w)
      (((Call.edit id change).perform r.bare).run host w) := by
  simp only [Call.perform, Action.run_pure]
  cases found : r.find? id with
  | none =>
      rw [edit_of_missing found, edit_of_missing (by exact found)]
      exact ⟨rfl, [], (List.append_nil _).symm, .unasked rfl⟩
  | some pair =>
      have holds : (id, pair.handle) ∈ r.links := List.mem_map_of_mem (Table.mem_of_lookup found)
      rw [edit_eq found, edit_eq (by exact found)]
      rcases lent : Producer.borrow r.producer.inner pair.handle with ⟨none | s, p⟩
      · rw [bare_producer, lent, Recorded.borrow_eq lent]
        exact ⟨rfl, [.borrowed pair.handle], rfl, .missed rfl holds⟩
      · rw [bare_producer, lent, Recorded.borrow_eq lent]
        dsimp only
        refine ⟨rfl, [.borrowed pair.handle, .returned pair.handle], ?_, .visited rfl holds⟩
        simp [Registry.dealings, Recorded.giveBack_dealings]

/-- Without a pair, its handle is not held any more. -/
theorem recounts_destroy (ids : (r.links.map Prod.fst).Nodup) (id : SceneId) :
    r.Recounts (.destroy id) (((Call.destroy id).perform r).run host w)
      (((Call.destroy id).perform r.bare).run host w) := by
  simp only [Call.perform, Action.run_bind, Action.run_pure]
  cases found : r.find? id with
  | none =>
      have missing : id ∉ r.links.map Prod.fst := by
        rw [keys_links]
        exact Table.lookup_eq_none_iff.mp found
      rw [run_destroy_of_missing found, run_destroy_of_missing (by exact found)]
      exact ⟨rfl, [], (List.append_nil _).symm, .ignored missing⟩
  | some pair =>
      rw [keys_links] at ids
      obtain ⟨before, after, holds, erased⟩ :=
        links_split ids found (Producer.release r.producer pair.handle).2
      rw [run_destroy_eq found, run_destroy_eq (by exact found)]
      refine ⟨rfl, [.released pair.handle], rfl, ?_⟩
      dsimp only
      rw [erased]
      exact .destroyed holds

theorem recounts_destroyAll (ids : (r.links.map Prod.fst).Nodup) :
    r.Recounts .destroyAll ((Call.destroyAll.perform r).run host w)
      ((Call.destroyAll.perform r.bare).run host w) := by
  rw [keys_links] at ids
  simp only [Call.perform, Action.run_bind, Action.run_pure]
  rw [run_destroyAll_eq ids, run_destroyAll_eq (by exact ids), Recorded.releaseEach_eq]
  exact ⟨rfl, _, rfl, .cleared⟩

/-- Whatever the call, the record makes no difference to it and grows by the rules. -/
theorem recounts_perform (ids : (r.links.map Prod.fst).Nodup) (call : Call ρ) :
    r.Recounts call ((call.perform r).run host w) ((call.perform r.bare).run host w) := by
  cases call with
  | create chosen settings setup => exact r.recounts_create host w chosen settings setup
  | setState id kind state => exact r.recounts_setState host w ids id kind state
  | edit id change => exact r.recounts_edit host w id change
  | destroy id => exact r.recounts_destroy host w ids id
  | destroyAll => exact r.recounts_destroyAll host w ids

end Registry

end SceneBench
