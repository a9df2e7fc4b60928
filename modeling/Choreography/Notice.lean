import Choreography.Diagnostic
import Choreography.Identity
import Choreography.Value

/-!
# Notices

Remarks for the log about what was settled without being a diagnostic of any
directive.
-/

namespace Choreography

/-- A remark for the log. -/
inductive Notice where
  /-- A name was registered by another element than the one that had it. -/
  | nameTaken (name : String) (previous current : ElementId)
  /-- A value was given for a scroll axis that names none. -/
  | axisUnknown (value : Value)
deriving Repr

namespace Notice

/-- The text of a notice. -/
def message : Notice → String
  | .nameTaken .. => "动画名被另一个元素重新注册，旧注册被丢弃"
  | .axisUnknown _ => "无法识别的 scrollAxis，使用默认轴"

/-- Every notice is a warning. -/
def level : Notice → Level := fun _ => .warning

end Notice

end Choreography
