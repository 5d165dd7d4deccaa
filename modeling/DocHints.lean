import DocHints.Config
import DocHints.Docstring.ReturnsHeading
import DocHints.Docstring.Session
import DocHints.Mapping
import DocHints.Project
import DocHints.Proofs.Rendering
import DocHints.Proofs.TextKept
import DocHints.Proofs.TypePlacement
import DocHints.Rest.TypeNodes
import DocHints.Proofs.InlineTypes
import DocHints.Proofs.TypeRole
import DocHints.Proofs.DefaultPlacement
import DocHints.Proofs.ResultPlacement
import DocHints.Proofs.LiteralRole
import DocHints.Proofs.ShortNames
import DocHints.Proofs.LazyConversion
import DocHints.Proofs.ParamSections
import DocHints.Proofs.TypeMapping
import DocHints.Proofs.UnionHeads
import DocHints.Proofs.GuardChains
import DocHints.Proofs.GuardRuns
import DocHints.Proofs.ParamParagraphs
import DocHints.Proofs.ReplacedFields
import DocHints.Proofs.ReferencedAliases
import DocHints.Proofs.UnionSpelling
import DocHints.Proofs.InlineResult
import DocHints.Proofs.InstanceNames
import DocHints.Proofs.ResultBounds
import DocHints.Proofs.InstanceTypes
import DocHints.Proofs.TypeSections
import DocHints.Proofs.CanonicalNames
import DocHints.Proofs.GuardedBlocks
import DocHints.Proofs.YieldsSections
import DocHints.Proofs.StubMembers
import DocHints.Proofs.CommentArguments
import DocHints.Proofs.SignatureComments
import DocHints.Proofs.StubDefinitions
import DocHints.Proofs.CollectedAliases
import DocHints.Proofs.RoleOrder
import DocHints.Proofs.StandIns
import DocHints.Proofs.InitialiserAttributes
import DocHints.Proofs.ParamKeywords
import DocHints.Proofs.AlignedSource
import DocHints.Proofs.RelativeImports
