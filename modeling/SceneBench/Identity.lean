/-!
# Identities and handles

A scene is named twice: by an identity, which is unique within a registry, and by a handle, which
the producer of the scene hands out.
-/

namespace SceneBench

/-- The identity of a scene within one registry. -/
structure SceneId where
  value : UInt32
  deriving DecidableEq, Repr, Inhabited

instance : ToString SceneId := ⟨fun id => toString id.value⟩

/-- A producer's name for a scene. -/
structure Handle where
  value : UInt64
  deriving DecidableEq, Repr, Inhabited

end SceneBench
