import RegionToggle.Main
import RegionToggle.Proofs.Indentation
import RegionToggle.Proofs.Recut
import RegionToggle.Proofs.HeaderGrammar
import RegionToggle.Proofs.HeaderParts
import RegionToggle.Proofs.KindOfLine
import RegionToggle.Proofs.CommentForm
import RegionToggle.Proofs.LookBack
import RegionToggle.Proofs.Written
import RegionToggle.Proofs.Rewritten
import RegionToggle.Proofs.Rest
import RegionToggle.Proofs.ForeignLines
import RegionToggle.Proofs.SecondRun
import RegionToggle.Proofs.Payload
import RegionToggle.Proofs.Regions
import RegionToggle.Proofs.Settling
import RegionToggle.Proofs.HiddenHeaders
import RegionToggle.Proofs.SettingChecks
import RegionToggle.Proofs.Endings
import RegionToggle.Proofs.StyleVote
import RegionToggle.Proofs.CanonicalForm
import RegionToggle.Proofs.SpacedForm
import RegionToggle.Proofs.Growth
import RegionToggle.Proofs.CommentUndone
import RegionToggle.Proofs.OutsideLines
import RegionToggle.Proofs.PathSegments
import RegionToggle.Proofs.Descent
import RegionToggle.Proofs.OneFile
import RegionToggle.Proofs.Sights
import RegionToggle.Proofs.TargetsOnly
import RegionToggle.Proofs.Worklist
import RegionToggle.Proofs.RunEffect
import RegionToggle.Proofs.SearchExact
import RegionToggle.Proofs.DryRun
import RegionToggle.Proofs.Counters
import RegionToggle.Proofs.CommentAgain
import RegionToggle.Proofs.CommentRestored
import RegionToggle.Proofs.Positions
import RegionToggle.Proofs.RegionWarnings
import RegionToggle.Proofs.SaneSettings
