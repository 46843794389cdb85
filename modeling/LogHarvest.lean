import LogHarvest.Main
import LogHarvest.Proofs.Harvest.Output
import LogHarvest.Proofs.Store.Grouping
import LogHarvest.Proofs.PatternFile.RoundTrip
import LogHarvest.Proofs.Harvest.Counting
import LogHarvest.Proofs.Harvest.Independence
import LogHarvest.Proofs.Harvest.Recovery
import LogHarvest.Proofs.Pattern.Captures
import LogHarvest.Proofs.Reading.Addition
import LogHarvest.Proofs.Reading.Shape
import LogHarvest.Proofs.LogReader.Run
import LogHarvest.Proofs.Reading.Json
import LogHarvest.Proofs.CommandLine.Parse
import LogHarvest.Proofs.Harvest.Again
import LogHarvest.Proofs.Store.History
import LogHarvest.Proofs.Template.Captures
import LogHarvest.Proofs.Template.Decoding
import LogHarvest.Proofs.Template.Seams
import LogHarvest.Proofs.Java.Ownership
import LogHarvest.Proofs.Java.Spelling
import LogHarvest.Proofs.FileTree.Pruning
import LogHarvest.Proofs.Java.CallOrder
import LogHarvest.Proofs.Java.Enclosing
import LogHarvest.Proofs.LogLine.Projection
import LogHarvest.Proofs.Java.BlockSpelling
import LogHarvest.Proofs.PatternFile.Sessions
