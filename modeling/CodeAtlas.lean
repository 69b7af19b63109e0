import CodeAtlas.Main
import CodeAtlas.Atlas.Reply
import CodeAtlas.Proofs.ArgumentOrder
import CodeAtlas.Proofs.AssemblySteps
import CodeAtlas.Proofs.Depths
import CodeAtlas.Proofs.Document
import CodeAtlas.Proofs.Exclusions
import CodeAtlas.Proofs.Failures
import CodeAtlas.Proofs.FaultSearch
import CodeAtlas.Proofs.Histories
import CodeAtlas.Proofs.Isolation
import CodeAtlas.Proofs.Ladder
import CodeAtlas.Proofs.Lenience
import CodeAtlas.Proofs.Lines
import CodeAtlas.Proofs.Lookup
import CodeAtlas.Proofs.MarkedFiles
import CodeAtlas.Proofs.MethodKeys
import CodeAtlas.Proofs.ParsedNodes
import CodeAtlas.Proofs.Recoding
import CodeAtlas.Proofs.Relocation
import CodeAtlas.Proofs.Remarks
import CodeAtlas.Proofs.Replies
import CodeAtlas.Proofs.Reruns
import CodeAtlas.Proofs.RootResolution
import CodeAtlas.Proofs.RouteForms
import CodeAtlas.Proofs.RouteLabels
import CodeAtlas.Proofs.SizeLimit
import CodeAtlas.Proofs.Summaries
import CodeAtlas.Proofs.SymbolLines
import CodeAtlas.Proofs.SymbolOrder
