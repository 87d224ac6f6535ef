import JavaOutline.CommandLine.Program
import JavaOutline.Logger
import JavaOutline.Main
import JavaOutline.Proofs.Containment
import JavaOutline.Proofs.Grafting
import JavaOutline.Proofs.IssueSearch
import JavaOutline.Proofs.OutermostIssues
import JavaOutline.Proofs.RequiredSites
import JavaOutline.Proofs.Conservation
import JavaOutline.Proofs.ClassTree
import JavaOutline.Proofs.Ownership
import JavaOutline.Proofs.UniqueNames
import JavaOutline.Proofs.BracketedText
import JavaOutline.Proofs.OverloadKey
import JavaOutline.Proofs.SpelledTypes
import JavaOutline.Proofs.Matching
import JavaOutline.Proofs.MatchingOutlines
import JavaOutline.Proofs.Layout
import JavaOutline.Proofs.UnreadCode
import JavaOutline.Proofs.Relocation
import JavaOutline.Proofs.ListenerChoice
import JavaOutline.Proofs.ReportAgreement
import JavaOutline.Proofs.JsonText
import JavaOutline.Proofs.JsonGrammar
import JavaOutline.Proofs.ExportReadBack
import JavaOutline.Proofs.NameOrder
import JavaOutline.Proofs.FolderAddresses
import JavaOutline.Proofs.FileTree
import JavaOutline.Proofs.Relisting
import JavaOutline.Proofs.SeenFiles
import JavaOutline.Proofs.DirectoryScan
import JavaOutline.Proofs.Decoding
import JavaOutline.Proofs.DeclarationNodes
import JavaOutline.Proofs.Headers
import JavaOutline.Proofs.QuotedTexts
import JavaOutline.Proofs.ErasedText
import JavaOutline.Proofs.IssueCalls
import JavaOutline.Proofs.TypeFolding
import JavaOutline.Proofs.Excerpts
import JavaOutline.Proofs.ModifierListing
import JavaOutline.Proofs.AsciiCase
import JavaOutline.Proofs.FileKinds
import JavaOutline.Proofs.LeavingOrder
import JavaOutline.Proofs.DebugTrace
