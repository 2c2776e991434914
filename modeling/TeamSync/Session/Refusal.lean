import TeamSync.Session.Consistency

/-! The session that a refused login leaves. -/

set_option autoImplicit false

namespace TeamSync.Session

open Effects

end TeamSync.Session
