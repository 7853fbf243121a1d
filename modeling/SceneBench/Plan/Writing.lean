import SceneBench.Json.Document
import SceneBench.Plan.Basic

/-!
# Plans that are written

A plan is written with all its fields, also those that have the value they would have anyway.
-/

namespace SceneBench

open Json (Document)

/-- The three components as a list. -/
def Vec3.document (v : Vec3) : Document := .list [.scalar v.x, .scalar v.y, .scalar v.z]

def SceneId.document (id : SceneId) : Document := .natural id.value.toNat

def Kind.document (kind : Kind) : Document := .string kind.tag

def SceneRequest.document (r : SceneRequest) : Document :=
  .object
    [ ("kind", r.kind.document),
      ("state", .natural r.state.toNat),
      ("camera", r.camera.document),
      ("id", (r.id.map SceneId.document).getD .null),
      ("config", .object [("publication", .string r.settings.publication.tag)]) ]

def Transition.document (t : Transition) : Document :=
  .object
    [ ("scene", t.scene.document),
      ("kind", t.kind.document),
      ("state", .natural t.state.toNat) ]

def Plan.document (p : Plan) : Document :=
  .object
    [ ("framework", .object [("scene_dir", .string p.storage.sceneDirectory.text)]),
      ("scenes", .list (p.scenes.map SceneRequest.document)),
      ("transitions", .list (p.transitions.map Transition.document)),
      ("output_dir", (p.output.map fun o => Document.string o.text).getD .null) ]

end SceneBench
