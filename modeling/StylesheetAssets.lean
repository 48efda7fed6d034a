import StylesheetAssets.Text
import StylesheetAssets.Path.Basic
import StylesheetAssets.Path.Lexical
import StylesheetAssets.Url.Fragment
import StylesheetAssets.Asset.Target
import StylesheetAssets.Digest.ContentHash
import StylesheetAssets.Base64
import StylesheetAssets.Stylesheet.Node
import StylesheetAssets.Stylesheet.Token
import StylesheetAssets.Stylesheet.Tree
import StylesheetAssets.Stylesheet.Printer
import StylesheetAssets.Stylesheet.Values
import StylesheetAssets.Url.Reference
import StylesheetAssets.Import.Region
import StylesheetAssets.Import.Statement
import StylesheetAssets.Session
import StylesheetAssets.Import.Marker
import StylesheetAssets.Import.Flatten
import StylesheetAssets.Import.Provenance
import StylesheetAssets.Pattern.Expression
import StylesheetAssets.Pattern.Compiled
import StylesheetAssets.Toml.Document
import StylesheetAssets.Terminal.Screen
import StylesheetAssets.Config.File
import StylesheetAssets.Rewrite.Sheet
import StylesheetAssets.Build.All
import StylesheetAssets.CommandLine.Run
import StylesheetAssets.Main
import StylesheetAssets.Parallel.Crew
import StylesheetAssets.Parallel.Copies
import StylesheetAssets.Proofs.Import.ImportTree
import StylesheetAssets.Proofs.Rewrite.Effect
import StylesheetAssets.Proofs.Import.Spans
import StylesheetAssets.Proofs.Import.Marking
import StylesheetAssets.Proofs.Stylesheet.Composition
import StylesheetAssets.Proofs.Stylesheet.ClosedHead
import StylesheetAssets.Proofs.Stylesheet.Boundary
import StylesheetAssets.Proofs.Stylesheet.WrittenForm
import StylesheetAssets.Proofs.Stylesheet.RoundTrip
import StylesheetAssets.Proofs.Stylesheet.Normalization
import StylesheetAssets.Proofs.Copy.Advancing
import StylesheetAssets.Proofs.Rewrite.Relocating
import StylesheetAssets.Proofs.Rewrite.Survival
import StylesheetAssets.Proofs.Rewrite.Deciding
import StylesheetAssets.Proofs.Url.Form
import StylesheetAssets.Proofs.Url.Rereading
import StylesheetAssets.Proofs.Path.Relative
import StylesheetAssets.Proofs.Asset.DataUri
import StylesheetAssets.Proofs.Rewrite.LeadingBack
import StylesheetAssets.Proofs.Stylesheet.Substance
import StylesheetAssets.Proofs.Url.ExactReferences
import StylesheetAssets.Proofs.Import.Chains
import StylesheetAssets.Proofs.Rewrite.Delivery
import StylesheetAssets.Proofs.Path.Canonical
import StylesheetAssets.Proofs.Disk.Walking
import StylesheetAssets.Proofs.Copy.Claims
import StylesheetAssets.Proofs.Parallel.Tracking
import StylesheetAssets.Proofs.Parallel.AnyOrder
import StylesheetAssets.Proofs.Parallel.Again
import StylesheetAssets.Proofs.Parallel.InTurn
import StylesheetAssets.Proofs.Copy.Conflicts
import StylesheetAssets.Proofs.Disk.Making
import StylesheetAssets.Proofs.Disk.Lasting
import StylesheetAssets.Proofs.Disk.Apart
import StylesheetAssets.Proofs.Config.Settled
import StylesheetAssets.Proofs.Build.Confinement
import StylesheetAssets.Proofs.Build.Plain
import StylesheetAssets.Proofs.Import.Brackets
import StylesheetAssets.Proofs.Import.Carrying
import StylesheetAssets.Proofs.Url.Hidden
import StylesheetAssets.Proofs.Import.Agreement
import StylesheetAssets.Proofs.Path.Stages
import StylesheetAssets.Proofs.Path.WayBack
import StylesheetAssets.Proofs.Asset.Naming
import StylesheetAssets.Proofs.Build.Places
import StylesheetAssets.Proofs.Stylesheet.Bytewise.Nodes
import StylesheetAssets.Proofs.Import.OpaqueSpans
