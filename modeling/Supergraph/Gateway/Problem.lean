import Supergraph.Config
import Supergraph.Files.Staging
import Supergraph.Plan.Failure
import Supergraph.Port

/-!
# Problems with gateways

Why a gateway is not generated or a plan is not shown. A problem with what is given to the library
is reported as an error of the command that meets it; all others end the command.

## Main definitions

* `Problem` — the causes
* `Problem.message` — the wording
* `Problem.isReported` — which problems are reported
-/

namespace Supergraph

/-- Why a gateway is not generated or a plan is not shown. -/
inductive Problem where
  | config (cause : ConfigError)
  /-- The output path is no directory. -/
  | output
  /-- Files may not be put into the directory of the output path. -/
  | locked
  /-- The path of the supergraph is no file. -/
  | supergraph
  | plan (cause : Failure)
  /-- A file of the gateway was not written, and no staged file is left. -/
  | writing (cause : FileFault)
  | file (cause : FileFault)
  /-- A file holds no text. -/
  | undecodable (path : String)
  /-- What stands for a path is of another kind. -/
  | notPath (kind : String)
  /-- Bytes stand for a path. -/
  | bytesForPath
  | port (cause : PortError)
  /-- The subgraph of a root field has no entry under its key. -/
  | unregistered (key : String)
  deriving Repr

namespace Problem

/-- The wording of the problem. -/
def message : Problem → String
  | config cause => cause.message
  | output => "Given output path is invalid"
  | locked => "Given out path is not writable"
  | supergraph => "Given supergraph file path is invalid"
  | plan cause => cause.message
  | writing cause => "Error while writing the generated source to the file: " ++ cause.message
  | file cause => cause.message
  | undecodable path => s!"{path}: the file holds no text"
  | notPath kind => s!"expected str, bytes or os.PathLike object, not {kind}"
  | bytesForPath =>
    "argument should be a str object or an os.PathLike object returning str, not <class 'bytes'>"
  | port cause => cause.message
  | unregistered key => Text.quoted key

/-- Whether the problem is reported as an error of the command that meets it. -/
def isReported : Problem → Bool
  | config (.yaml _) | config .tooLong => false
  | config _ | output | locked | supergraph | plan _ | writing _ => true
  | file _ | undecodable _ | notPath _ | bytesForPath | port _ | unregistered _ => false

end Problem

end Supergraph
