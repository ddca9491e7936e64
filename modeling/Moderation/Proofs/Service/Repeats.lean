import Moderation.Action.Vocabulary
import Moderation.Proofs.Service.Session

namespace Moderation

open Points

namespace Service

section Decision

variable {s : Service} {kind : FilterKind} {text : String} {author : Author}

end Decision

end Service

namespace Service

end Service

end Moderation
