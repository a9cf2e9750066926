import HttpInspection.Main
import HttpInspection.Proofs.Base64
import HttpInspection.Exchange
import HttpInspection.Proofs.Occurrence
import HttpInspection.Proofs.QueryEscaping
import HttpInspection.Proofs.Arrangements
import HttpInspection.Proofs.PlaceWalks
import HttpInspection.Proofs.NestedEncodings
import HttpInspection.Proofs.Messages
import HttpInspection.Proofs.Verbatim
import HttpInspection.Proofs.Inspection
import HttpInspection.Proofs.RuleSets
import HttpInspection.Proofs.Courses
import HttpInspection.Proofs.Blocking
import HttpInspection.Proofs.Lifecycle
import HttpInspection.Proofs.Loading
import HttpInspection.Proofs.Alerts
import HttpInspection.Proofs.HeaderLines
import HttpInspection.Proofs.PairedRuns
import HttpInspection.Proofs.DryRun
import HttpInspection.Proofs.Collaborators
import HttpInspection.Proofs.RuleHistories
import HttpInspection.Proofs.ByteOrder
import HttpInspection.Proofs.FileNodes
import HttpInspection.Proofs.RuleTrees
import HttpInspection.Proofs.LogWindow
import HttpInspection.Proofs.JsonText
import HttpInspection.Proofs.LogRecords
import HttpInspection.Proofs.Appending
import HttpInspection.Proofs.LogFile
import HttpInspection.Proofs.ByteOffsets
import HttpInspection.Proofs.Coordinates
import HttpInspection.Proofs.Transparency
import HttpInspection.Proofs.Tallies
import HttpInspection.Proofs.Reloading
import HttpInspection.Proofs.Unescaping
import HttpInspection.Proofs.WordEnds
import HttpInspection.Proofs.CaseFolding
import HttpInspection.Proofs.QuerySegments
import HttpInspection.Proofs.AddedPairs
import HttpInspection.Proofs.ParameterPairs
import HttpInspection.Proofs.MoreEncodings
import HttpInspection.Proofs.Resolving
import HttpInspection.Proofs.RuleBlocks
import HttpInspection.Proofs.BodyMatching
import HttpInspection.Proofs.BodyStreams
import HttpInspection.Proofs.InheritedEncodings
import HttpInspection.Proofs.CheckedPatterns
import HttpInspection.Proofs.UserAgents
import HttpInspection.Proofs.DecodeOrders
import HttpInspection.Proofs.LenientCuts
