import GlslInspect.Include.Catalog
import GlslInspect.Main
import GlslInspect.Proofs.Alignment
import GlslInspect.Proofs.Guard
import GlslInspect.Proofs.Outline
import GlslInspect.Proofs.Termination
import GlslInspect.Proofs.IncludeGraph
import GlslInspect.Proofs.DepthLimit
import GlslInspect.Proofs.Diagnosis
import GlslInspect.Proofs.Cleanup
import GlslInspect.Proofs.Markers
import GlslInspect.Proofs.Factoring
import GlslInspect.Proofs.Consulted
import GlslInspect.Proofs.Directive
import GlslInspect.Proofs.Idempotence
import GlslInspect.Proofs.CarriageReturn
import GlslInspect.Proofs.LineEnding
import GlslInspect.Proofs.Declaration
import GlslInspect.Proofs.BlockLines
import GlslInspect.Proofs.Calls
import GlslInspect.Proofs.ScanStates
import GlslInspect.Proofs.Batch
import GlslInspect.Proofs.OuterIncludes
import GlslInspect.Proofs.Audit
import GlslInspect.Proofs.Spelling
import GlslInspect.Proofs.AnnotatedBlock
import GlslInspect.Proofs.Chunks
import GlslInspect.Proofs.WrittenUniforms
import GlslInspect.Proofs.Desk
import GlslInspect.Proofs.Slots
import GlslInspect.Proofs.Agreement
import GlslInspect.Proofs.TableRows
import GlslInspect.Proofs.Sections
import GlslInspect.Proofs.Summary
import GlslInspect.Proofs.Identity
import GlslInspect.Proofs.Annotation
import GlslInspect.Proofs.Tinting
import GlslInspect.Proofs.SlotGroups
