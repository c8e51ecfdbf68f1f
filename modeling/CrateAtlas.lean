import CrateAtlas.Main
import CrateAtlas.Proofs.BrokenMember
import CrateAtlas.Proofs.CanonicalText
import CrateAtlas.Proofs.DecodedDocument
import CrateAtlas.Proofs.DepthFirst
import CrateAtlas.Proofs.Diagnostics
import CrateAtlas.Proofs.NodeNames
import CrateAtlas.Proofs.OutlineReading
import CrateAtlas.Proofs.OutlinedTree
import CrateAtlas.Proofs.RunOutcome
import CrateAtlas.Proofs.AbsolutePath
import CrateAtlas.Proofs.UseGroups
import CrateAtlas.Proofs.ClausePaths
import CrateAtlas.Proofs.Padding
import CrateAtlas.Proofs.FirstCall
import CrateAtlas.Proofs.CircularFiles
import CrateAtlas.Proofs.ModulePlaces
import CrateAtlas.Proofs.MemberList
import CrateAtlas.Proofs.Precedence
import CrateAtlas.Proofs.WrittenPaths
import CrateAtlas.Proofs.DrawnGraph
import CrateAtlas.Proofs.RootFiles
import CrateAtlas.Proofs.SettingsFiles
import CrateAtlas.Proofs.OneLine
import CrateAtlas.Proofs.LeadingSelf
import CrateAtlas.Proofs.StringLiterals
import CrateAtlas.Proofs.FirstFault
import CrateAtlas.Proofs.FlattenedTree
import CrateAtlas.Proofs.YamlFaults
