import BranchVersion.Directory
import BranchVersion.Main
import BranchVersion.Proofs.Collisions
import BranchVersion.Proofs.OutputLine
import BranchVersion.Proofs.SemVerPaths
import BranchVersion.Proofs.StandardRules
import BranchVersion.Proofs.WrittenRules
import BranchVersion.Session
import BranchVersion.Proofs.Influence
import BranchVersion.Proofs.VersionTags
import BranchVersion.Proofs.SharedLines
import BranchVersion.Proofs.Surroundings
import BranchVersion.Proofs.OuterBlanks
import BranchVersion.Proofs.RunOrder
import BranchVersion.Proofs.LivePrefixes
import BranchVersion.Proofs.OutputLanguage
import BranchVersion.Proofs.AcceptedRules
import BranchVersion.Proofs.BuiltVersions
import BranchVersion.Proofs.EventTrace
