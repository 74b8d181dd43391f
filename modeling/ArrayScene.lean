import ArrayScene.Main
import ArrayScene.Proofs.Addresses
import ArrayScene.Proofs.BuiltNodes
import ArrayScene.Proofs.CentredNodes
import ArrayScene.Proofs.Command.InspectedTree
import ArrayScene.Proofs.Command.RenderEffect
import ArrayScene.Proofs.Command.SharedTargets
import ArrayScene.Proofs.Containers
import ArrayScene.Proofs.DirectNesting
import ArrayScene.Proofs.DrawnSize
import ArrayScene.Proofs.ElementIds
import ArrayScene.Proofs.FaultOrder
import ArrayScene.Proofs.GridColumns
import ArrayScene.Proofs.MapLayout
import ArrayScene.Proofs.Settings.Calls
import ArrayScene.Proofs.SizePartition
import ArrayScene.Proofs.SketchRecovery
import ArrayScene.Proofs.Source.Rearrangement
import ArrayScene.Proofs.Store.AllOrNothing
import ArrayScene.Proofs.WordRange
import ArrayScene.Proofs.Console.Legibility
import ArrayScene.Proofs.Source.SizeTexts
