import Stencil.KeyPath
import Stencil.Value.Printer

/-!
# Rendering

An inbound pattern is rendered by putting the text of a value in place of each parameter. How a
key path leads to a value, and how a value becomes text, can be replaced.
-/
namespace Stencil

/-- How the places of a pattern are filled. -/
structure Renderer where
  /-- The value that a key path leads to. -/
  resolve : Value → Text → Outcome Value
  /-- The text of a value. -/
  stringify : Value → Outcome Text

/-- Follow a key path, and report the whole path if it leads nowhere. -/
def State.resolvePath (state : State) (value : Value) (path : Text) : Outcome Value :=
  (state.resolve value path).mapError fun
    | .refused cause => .resolution path cause
    | .escaped fault => .escaped fault

/-- The text of a value, its fault passed on. -/
def stringify (value : Value) : Outcome Text := value.stringify.mapError .escaped

/-- Places are filled by following key paths. -/
def State.renderer (state : State) : Renderer := ⟨state.resolvePath, stringify⟩

/-- The text of a segment. -/
def Renderer.renderSegment (renderer : Renderer) (object : Value) : Segment → Outcome Text
  | .literal text => .ok text
  | .parameter path => do renderer.stringify (← renderer.resolve object path)

/-- Render an object through an inbound pattern. Literal text is copied as it is. -/
def Renderer.render (renderer : Renderer) (pattern : Pattern) (object : Value) : Outcome Text :=
  match pattern.direction with
  | .outbound => .error (.notInbound pattern.template)
  | .inbound => do
    let parts ← pattern.segments.mapM (renderer.renderSegment object)
    return parts.flatten

end Stencil
