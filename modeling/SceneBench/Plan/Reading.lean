import SceneBench.Json.Shape
import SceneBench.Plan.Basic

/-!
# Plans that are read

A plan is read from a document, each part of it by its shape. Only the kind of a scene and the three
fields of a transition have to be given.
-/

namespace SceneBench

open Json (Field Shape Scan)

namespace Plan

def readPath : Scan Path := Path.mk <$> Scan.text "path string"

def readId : Scan SceneId := SceneId.mk <$> Scan.word32

def readKind : Scan Kind := Scan.variant Kind.all Kind.tag

/-- Read the three components of a position. -/
def readPosition : Scan Vec3 := do
  match ← Scan.fixedList Scan.scalar 3 with
  | [x, y, z] => return ⟨x, y, z⟩
  | _ => return .zero

end Plan

def StorageSettings.shape : Shape StorageSettings where
  name := "FrameworkConfig"
  fields := [.of "scene_dir" Plan.readPath fun p s => { s with sceneDirectory := p }]
  blank := {}

def SceneSettings.shape : Shape SceneSettings where
  name := "SceneConfig"
  fields :=
    [ .of "publication" (Scan.variant Publication.all Publication.tag)
        fun p s => { s with publication := p } ]
  blank := {}

def SceneRequest.shape : Shape SceneRequest where
  name := "SceneSetup"
  fields :=
    [ .of "kind" Plan.readKind (fun k r => { r with kind := k }) true,
      .of "state" Scan.word32 fun s r => { r with state := s },
      .of "camera" Plan.readPosition fun c r => { r with camera := c },
      .of "id" (Scan.optional Plan.readId) fun i r => { r with id := i },
      .of "config" SceneSettings.shape.read fun s r => { r with settings := s } ]
  blank := { kind := .boxGrid }

def Transition.shape : Shape Transition where
  name := "Transition"
  fields :=
    [ .of "scene" Plan.readId (fun i t => { t with scene := i }) true,
      .of "kind" Plan.readKind (fun k t => { t with kind := k }) true,
      .of "state" Scan.word32 (fun s t => { t with state := s }) true ]
  blank := ⟨⟨0⟩, .boxGrid, 0⟩

namespace Plan

def shape : Shape Plan where
  name := "HarnessConfig"
  fields :=
    [ .of "framework" StorageSettings.shape.read fun s p => { p with storage := s },
      .of "scenes" (Scan.list SceneRequest.shape.read) fun s p => { p with scenes := s },
      .of "transitions" (Scan.list Transition.shape.read) fun t p => { p with transitions := t },
      .of "output_dir" (Scan.optional readPath) fun o p => { p with output := o } ]
  blank := {}

/-- Read the text of a plan. -/
def ofText (text : String) : Except Json.Failure Plan := Scan.document shape.read text

end Plan

end SceneBench
