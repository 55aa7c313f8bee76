import Timetable.Proofs.Command.Loading
import Timetable.Proofs.Command.Wording
import Timetable.Proofs.Expression.Acceptance

/-!
With which number commands exit. Main statement: a command exits with the number of an error exactly
when a trouble keeps it from its answer and that trouble is reported. A trouble that is not reported
ends the program with the number that also says that an instant is outside.
-/
namespace Timetable

/-! ### Faults -/

namespace WindowSet

variable {α : Type} {read : α → Expression.Reading} {items : List α} {e : Expression.Fault}

end WindowSet

namespace Config

variable {texts : List String} {e : Expression.Fault}

end Config

namespace Command

/-! ### Troubles that are not foreseen -/

variable {f : Folder} {now : Instant} {selection : Selection} {config : Option String} {t : Trouble}

variable {host : Host}

end Command

end Timetable
